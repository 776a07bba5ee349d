import Symulator.Fleet.FleetFields

/-! # Loading the fleet

A fleet is loaded from four places of its directory, one after the other: the vehicle types, the vehicles, the
carriers and the consists. The first error ends the loading.
-/

namespace Symulator.Fleet

open Symulator.Engine Symulator.Library

set_option autoImplicit false

/-! ## Vehicle types -/

def hasValue (j : Json) (key : String) : Bool := j.hasField key fun v => !v.isNull

def davisOf (j : Json) (path : String) : Except String DavisCoefficients := do
  let a ← requireFloat j "davisA" path
  let b ← requireFloat j "davisB" path
  let c ← requireFloat j "davisC" path
  return { a, b, c }

def typeDavis (j : Json) (path vehicleType vehicleSubtype : String) (maxSpeedKmh : Int) :
    Except String DavisCoefficients := do
  if hasValue j "davisA" || hasValue j "davisB" || hasValue j "davisC" then
    ensure (hasValue j "davisA" && hasValue j "davisB" && hasValue j "davisC")
      ("Incomplete Davis coefficients in " ++ path)
    davisOf j path
  else return davisDefaults vehicleType vehicleSubtype maxSpeedKmh

def loadType (dir : String) (file : DataFile) (j : Json) : Except String VehicleType := do
  let path := file.path dir
  let uid ← requireUid j "uid" path
  let typeName ← requireString j "typeName" path
  let vehicleType ← requireString j "vehicleType" path
  let vehicleSubtype := optionalString j "vehicleSubtype"
  let lengthM ← requireFloat j "lengthM" path
  let axleCount ← requireInt j "axleCount" path
  let massEmptyT ← requireFloat j "massEmptyT" path
  let massGrossT ← optionalFloat j "massGrossT" path
  let maxSpeedKmh ← requireInt j "maxSpeedKmh" path
  let brakingLambdaPct ← requireInt j "brakingLambdaPct" path
  let powerKw ← optionalFloat j "powerKW" path
  let tractionForceKn ← optionalFloat j "tractionForceKN" path
  let multipleCouplingCapable ← optionalBool j "multipleCouplingCapable" path
  ensure (isTractionCapable vehicleType vehicleSubtype || multipleCouplingCapable.isNone)
    ("multipleCouplingCapable is only valid for traction-capable type categories in " ++ path)
  let davis ← typeDavis j path vehicleType vehicleSubtype maxSpeedKmh
  return {
    uid, typeName, pkpSeries := optionalString j "pkpSeries", family := optionalString j "family", vehicleType,
    vehicleSubtype, lengthM, axleCount, massEmptyT, massGrossT, maxSpeedKmh, brakingLambdaPct, powerKw,
    tractionForceKn, multipleCouplingCapable, davis }

/-! ## Vehicles -/

/-- An operational status is for those that can pull, which have one. -/
def tractionStatusOf (j : Json) (path : String) (tractionCapable : Bool) : Except String (Option TractionStatus) := do
  let override ← optionalTractionStatus j "tractionStatus" path
  if tractionCapable then return some (override.getD .operational)
  else
    ensure override.isNone ("tractionStatus is only valid for traction-capable vehicles in " ++ path)
    return none

def vehicleDavis (j : Json) (path : String) (type : VehicleType) : Except String DavisCoefficients :=
  if j.contains "davisA" || j.contains "davisB" || j.contains "davisC" then davisOf j path else return type.davis

def findType (types : KeyedMap UID VehicleType) (uid : UID) (path : String) : Except String VehicleType :=
  match types.find uid with
  | some type => .ok type
  | none => .error ("Vehicle references unknown type_uid '" ++ toString uid.value ++ "' in " ++ path)

def loadVehicle (types : KeyedMap UID VehicleType) (dir : String) (file : DataFile) (j : Json) :
    Except String Vehicle := do
  let path := file.path dir
  let uid ← requireUid j "uid" path
  let pid ← requireString j "pID" path
  let typeUid ← requireUid j "type_uid" path
  let displayName ← requireString j "displayName" path
  let type ← findType types typeUid path
  ensure (optionalString j "vehicleType" ∈ ["", type.vehicleType]) ("VehicleType override mismatch in " ++ path)
  ensure (optionalString j "vehicleSubtype" ∈ ["", type.vehicleSubtype])
    ("VehicleSubtype override mismatch in " ++ path)
  let lengthM ← resolveFloatOverride j "lengthM" type.lengthM path
  let axleCount ← resolveIntOverride j "axleCount" type.axleCount path
  let massEmptyT ← resolveFloatOverride j "massEmptyT" type.massEmptyT path
  let massGrossOverride ← optionalFloat j "massGrossT" path
  let maxSpeedKmh ← resolveIntOverride j "maxSpeedKmh" type.maxSpeedKmh path
  let brakingLambdaPct ← resolveIntOverride j "brakingLambdaPct" type.brakingLambdaPct path
  let powerKw ← resolveOptionalFloatOverride j "powerKW" type.powerKw path
  let tractionForceKn ← resolveOptionalFloatOverride j "tractionForceKN" type.tractionForceKn path
  let tractionStatus ← tractionStatusOf j path (isTractionCapable type.vehicleType type.vehicleSubtype)
  let davis ← vehicleDavis j path type
  return {
    uid, pid, typeUid, displayName, vehicleType := type.vehicleType, vehicleSubtype := type.vehicleSubtype, lengthM,
    axleCount, massEmptyT, effectiveMassT := massGrossOverride.getD (type.massGrossT.getD massEmptyT), maxSpeedKmh,
    brakingLambdaPct, powerKw, tractionForceKn,
    tractionCapable := isTractionCapable type.vehicleType type.vehicleSubtype, tractionStatus,
    multipleCouplingCapable := type.multipleCouplingCapable, davis }

/-! ## Carriers -/

def serviceType (path : String) (serviceTypes : List String) (j : Json) : Except String (List String) := do
  ensure j.isString ("Carrier type entries must be strings in " ++ path)
  let name ← j.getString
  ensure (name = "passenger" ∨ name = "freight") ("Invalid carrier type '" ++ name ++ "' in " ++ path)
  return if name ∈ serviceTypes then serviceTypes else serviceTypes ++ [name]

def serviceTypesOf (path : String) (j : Json) : Except String (List String) :=
  match j.member "type" with
  | some (.array (first :: rest)) => (first :: rest).foldlM (serviceType path) []
  | _ => .error ("Carrier entries must contain a non-empty 'type' array in " ++ path)

def logoOf (path : String) (j : Json) : Except String (Option String) :=
  match j.member "logo" with
  | none | some .null => .ok none
  | some (.string logo) => .ok (some logo)
  | some _ => .error ("Carrier logo must be a string or null in " ++ path)

def loadCarrier (path : String) (carriers : KeyedMap UID Carrier) (item : Json) :
    Except String (KeyedMap UID Carrier) := do
  ensure item.isObject ("Carrier entries must be objects in " ++ path)
  let id ← requireUid item "id" path
  ensure (uidHasKind id .rollingStock .carrier) ("Carrier id has an invalid UID domain/kind in " ++ path)
  let name ← requireString item "name" path
  ensure (name ∉ carriers.values.map Carrier.name) ("Duplicate carrier name '" ++ name ++ "' in " ++ path)
  let serviceTypes ← serviceTypesOf path item
  let logo ← logoOf path item
  emplaceNew "carrier id" path carriers { id, name, serviceTypes, logo }

def loadCarriers (path : String) (file : Option FileContent) : Except String (KeyedMap UID Carrier) :=
  match file with
  | none => .ok .empty
  | some content => do
    let j ← content.parse path
    match j.member "carriers" with
    | some (.array items) => items.foldlM (loadCarrier path) .empty
    | _ => .error "carriers.json must contain a 'carriers' array"

/-! ## Consists -/

/-- The greatest number of single precision, no speed of a vehicle. -/
def kFloatMax : Rat := 340282346638528859811704183484516925440

/-- A consist while its vehicles are gone through, the locomotives that can pull set aside. -/
structure Gathering where
  consist : TrainConsist
  lambdaMassSum : Rat := 0
  operationalLocomotives : List Vehicle := []

def isOperational (vehicle : Vehicle) : Bool := vehicle.tractionStatus.all (· = .operational)

def addTraction (consist : TrainConsist) (vehicle : Vehicle) : TrainConsist :=
  { consist with
    totalTractionKn := consist.totalTractionKn + vehicle.tractionForceKn.getD 0
    totalPowerKw := consist.totalPowerKw + vehicle.powerKw.getD 0 }

def addVehicle (g : Gathering) (vehicle : Vehicle) : Gathering :=
  let consist : TrainConsist :=
    { g.consist with
      vehicleUids := g.consist.vehicleUids ++ [vehicle.uid]
      totalLengthM := g.consist.totalLengthM + vehicle.lengthM
      totalAxles := g.consist.totalAxles + vehicle.axleCount
      totalMassT := g.consist.totalMassT + vehicle.effectiveMassT
      maxSpeedKmh := min g.consist.maxSpeedKmh vehicle.maxSpeedKmh }
  let lambdaMassSum := g.lambdaMassSum + vehicle.brakingLambdaPct * vehicle.effectiveMassT
  if vehicle.tractionCapable && isOperational vehicle then
    if isLocomotiveType vehicle.vehicleType then
      { consist, lambdaMassSum, operationalLocomotives := g.operationalLocomotives ++ [vehicle] }
    else
      { consist := addTraction consist vehicle, lambdaMassSum, operationalLocomotives := g.operationalLocomotives }
  else { consist, lambdaMassSum, operationalLocomotives := g.operationalLocomotives }

/-- Several locomotives pull together when they are of one type that can be coupled, else the first alone. -/
def addLocomotives (consist : TrainConsist) (operationalLocomotives : List Vehicle) : TrainConsist :=
  match operationalLocomotives with
  | [] => consist
  | [only] => addTraction consist only
  | first :: second :: rest =>
    let sameType := (first :: second :: rest).all fun vehicle => vehicle.typeUid = first.typeUid
    let couplingAllowed := sameType && first.multipleCouplingCapable.getD false
    if couplingAllowed then (first :: second :: rest).foldl addTraction consist else addTraction consist first

def closeConsist (consist : TrainConsist) (lambdaMassSum : Rat) : TrainConsist :=
  { consist with
    maxSpeedKmh := if consist.maxSpeedKmh = kFloatMax then 0 else consist.maxSpeedKmh
    consistLambdaPct := if consist.totalMassT > 0 then lambdaMassSum / consist.totalMassT else 0 }

def vehicleEntry (vehicles : KeyedMap UID Vehicle) (path : String) (item : Json) : Except String Vehicle := do
  ensure item.isUnsigned ("Invalid vehicle uid entry in " ++ path)
  let value ← item.getUint64
  match vehicles.find ⟨value⟩ with
  | some vehicle => return vehicle
  | none => .error ("Consist references unknown vehicle uid '" ++ toString value ++ "' in " ++ path)

def gather (vehicles : KeyedMap UID Vehicle) (path : String) (consist : TrainConsist) (items : List Json) :
    Except String Gathering :=
  items.foldlM (fun g item => do return addVehicle g (← vehicleEntry vehicles path item)) { consist }

def carrierIdOf (carriers : KeyedMap UID Carrier) (path : String) (j : Json) : Except String (Option UID) := do
  ensure (!hasValue j "carrier") ("Field 'carrier' is deprecated; use numeric 'carrierId' in " ++ path)
  if hasValue j "carrierId" then
    let carrierId ← requireUid j "carrierId" path
    ensure (uidHasKind carrierId .rollingStock .carrier) ("carrierId has an invalid UID domain/kind in " ++ path)
    ensure (carriers.find carrierId).isSome
      ("Unknown carrierId '" ++ toString carrierId.value ++ "' in " ++ path)
    return some carrierId
  else return none

def vehicleItems (j : Json) (path : String) : Except String (List Json) :=
  match j.member "vehicle_uids" with
  | some (.array items) => .ok items
  | _ => .error ("Missing or invalid array field 'vehicle_uids' in " ++ path)

def loadConsist (vehicles : KeyedMap UID Vehicle) (carriers : KeyedMap UID Carrier) (dir : String) (file : DataFile)
    (j : Json) : Except String TrainConsist := do
  let path := file.path dir
  let uid ← requireUid j "uid" path
  let pid ← requireString j "pID" path
  let displayName ← requireString j "displayName" path
  let trainCategory ← parseTrainCategory (← requireString j "trainCategory" path) path
  let carrierId ← carrierIdOf carriers path j
  let items ← vehicleItems j path
  ensure ((categoryFromFolder file.folders).all (· = trainCategory)) ("trainCategory does not match folder in " ++ path)
  let g ← gather vehicles path { uid, pid, displayName, trainCategory, carrierId, maxSpeedKmh := kFloatMax } items
  let consist := addLocomotives g.consist g.operationalLocomotives
  ensure (consist.vehicleUids ≠ []) ("Train consist has no vehicles in " ++ path)
  return closeConsist consist g.lambdaMassSum

/-! ## The directory -/

/-- What the data directory holds; a directory that is not there has no list of files. -/
structure DataRoot where
  path : String
  vehicleTypes : Option (List DataFile)
  vehicles : Option (List DataFile)
  carriers : Option FileContent := none
  trains : Option (List DataFile)

def loadTypes (dir : String) (files : Option (List DataFile)) : Except String (KeyedMap UID VehicleType) := do
  loadTable "type uid" dir (loadType dir) (← collectJsonFiles dir files)

def loadVehicles (types : KeyedMap UID VehicleType) (dir : String) (files : Option (List DataFile)) :
    Except String (KeyedMap UID Vehicle) := do
  loadTable "vehicle uid" dir (loadVehicle types dir) (← collectVehicleFiles dir files)

def loadConsists (vehicles : KeyedMap UID Vehicle) (carriers : KeyedMap UID Carrier) (dir : String)
    (files : Option (List DataFile)) : Except String (KeyedMap UID TrainConsist) := do
  loadTable "consist uid" dir (loadConsist vehicles carriers dir) (← collectJsonFiles dir files)

def FleetRegistry.load (root : DataRoot) : Except String FleetRegistry := do
  let types ← loadTypes (root.path ++ "/vehicle-types") root.vehicleTypes
  let vehicles ← loadVehicles types (root.path ++ "/vehicles") root.vehicles
  let carriers ← loadCarriers (root.path ++ "/carriers/carriers.json") root.carriers
  let consists ← loadConsists vehicles carriers (root.path ++ "/trains") root.trains
  return { types, vehicles, carriers, consists }

end Symulator.Fleet
