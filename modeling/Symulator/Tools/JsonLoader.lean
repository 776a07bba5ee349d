import Symulator.Fleet.FleetFields

/-! # The vehicles and trains that the tools read

The tools have a loader of their own, which reads one file into one vehicle or train and knows nothing of types.
-/

namespace Symulator.Tools

open Symulator.Library Symulator.Engine Symulator.Fleet

set_option autoImplicit false

structure FileState where
  content : Option ByteArray := none
  readable : Bool := true
  writable : Bool := true
  /-- What making the folders on the way to the file comes to. -/
  folders : Except String Unit := .ok ()

/-- What a stream reads, where it opens. -/
def FileState.input (file : FileState) : Option ByteArray := if file.readable then file.content else none

structure Vehicle where
  uid : UID
  typeUid : UID
  pid : String
  displayName : String
  vehicleType : Option String
  vehicleSubtype : Option String
  lengthM : Option Rat
  axleCount : Option Int
  massEmptyT : Option Rat
  massGrossT : Option Rat
  maxSpeedKmh : Option Int
  brakingLambdaPct : Option Int
  powerKw : Option Rat
  tractionForceKn : Option Rat
  davisA : Option Rat
  davisB : Option Rat
  davisC : Option Rat
  tractionStatus : Option String
  carrierId : Option UID
  inventoryNumber : Option String
  notes : Option String
  sourceFile : String

structure Train where
  uid : UID
  pid : String
  displayName : String
  trainCategory : String
  carrierId : Option UID
  vehicleUids : List UID
  sourceFile : String

namespace JsonLoader

/-! ## Fields -/

def requireString := requireField "string" Json.isString Json.getString
def optionalString := optionalField "Invalid string field" Json.isString Json.getString
def optionalDouble := optionalField "Invalid numeric field" Json.isNumber Json.getDouble

def requireInt (j : Json) (key path : String) : Except String Int := do
  let value ← requireField "integer" Json.isInteger Json.getInt64 j key path
  ensure (-2147483648 ≤ value ∧ value ≤ 2147483647)
    ("Integer field '" ++ key ++ "' is out of range in " ++ path)
  return value

/-- A field that is not there or null has no value, any other must have one. -/
def optionally {α : Type} (require : Json → String → String → Except String α) (j : Json) (key path : String) :
    Except String (Option α) :=
  match j.member key with
  | none | some .null => .ok none
  | some _ => some <$> require j key path

def optionalInt := optionally requireInt

def requireUid (j : Json) (key path : String) : Except String UID := do
  let value ← requireField "UID" Json.isUnsigned Json.getUint64 j key path
  ensure (value ≠ 0 ∧ uidIsSafeJsonInteger ⟨value⟩)
    ("UID field '" ++ key ++ "' is outside the supported JSON-safe range in " ++ path)
  return ⟨value⟩

def optionalUid := optionally requireUid

/-! ## Vehicles and trains -/

def parseVehicle (path : String) (document : Json) : Except String Vehicle := do
  let uid ← requireUid document "uid" path
  let typeUid ← requireUid document "type_uid" path
  let pid ← requireString document "pID" path
  let displayName ← requireString document "displayName" path
  let vehicleType ← optionalString document "vehicleType" path
  let vehicleSubtype ← optionalString document "vehicleSubtype" path
  let lengthM ← optionalDouble document "lengthM" path
  let axleCount ← optionalInt document "axleCount" path
  let massEmptyT ← optionalDouble document "massEmptyT" path
  let massGrossT ← optionalDouble document "massGrossT" path
  let maxSpeedKmh ← optionalInt document "maxSpeedKmh" path
  let brakingLambdaPct ← optionalInt document "brakingLambdaPct" path
  let powerKw ← optionalDouble document "powerKW" path
  let tractionForceKn ← optionalDouble document "tractionForceKN" path
  let davisA ← optionalDouble document "davisA" path
  let davisB ← optionalDouble document "davisB" path
  let davisC ← optionalDouble document "davisC" path
  let tractionStatus ← optionalString document "tractionStatus" path
  let carrierId ← optionalUid document "carrierId" path
  let inventoryNumber ← optionalString document "inventoryNumber" path
  let notes ← optionalString document "notes" path
  return {
    uid, typeUid, pid, displayName, vehicleType, vehicleSubtype, lengthM, axleCount, massEmptyT, massGrossT,
    maxSpeedKmh, brakingLambdaPct, powerKw, tractionForceKn, davisA, davisB, davisC, tractionStatus, carrierId,
    inventoryNumber, notes, sourceFile := path }

def parseVehicleUid (path : String) (value : Nat × Json) : Except String UID := do
  ensure value.2.isUnsigned ("Invalid vehicle UID at index " ++ toString value.1 ++ " in " ++ path)
  let uid ← value.2.getUint64
  ensure (uid ≠ 0 ∧ uidIsSafeJsonInteger ⟨uid⟩)
    ("Vehicle UID at index " ++ toString value.1 ++ " is outside the supported JSON-safe range in " ++ path)
  return ⟨uid⟩

def parseVehicleUids (path : String) (document : Json) : Except String (List UID) :=
  match document.member "vehicle_uids" with
  | some (.array values) => values.zipIdx.mapM fun value => parseVehicleUid path value.swap
  | _ => .error ("Missing or invalid UID array field 'vehicle_uids' in " ++ path)

def parseTrain (path : String) (document : Json) : Except String Train := do
  let uid ← requireUid document "uid" path
  let pid ← requireString document "pID" path
  let displayName ← requireString document "displayName" path
  let trainCategory ← requireString document "trainCategory" path
  let carrierId ← optionalUid document "carrierId" path
  let vehicleUids ← parseVehicleUids path document
  return { uid, pid, displayName, trainCategory, carrierId, vehicleUids, sourceFile := path }

/-! ## Files -/

variable (parse : ByteArray → Except String Json)

def parseJsonFile (path : String) (file : FileState) : Except String Json :=
  match file.input with
  | none => .error ("Cannot open JSON file: " ++ path)
  | some text =>
    match parse text with
    | .error e => .error ("Cannot parse JSON file " ++ path ++ ": " ++ e)
    | .ok document => if document.isObject then .ok document else .error ("JSON root must be an object: " ++ path)

def loadVehicle (path : String) (file : FileState) : Except String Vehicle :=
  parseJsonFile parse path file >>= parseVehicle path

def loadTrain (path : String) (file : FileState) : Except String Train :=
  parseJsonFile parse path file >>= parseTrain path

/-! ## Which documents load -/

def isUid : Json → Bool
  | .unsigned n => decide (n ≠ 0 ∧ uidIsSafeJsonInteger ⟨n⟩)
  | _ => false

def isInt (value : Json) : Bool :=
  value.isInteger && value.getInt64.toOption.any fun i => decide (-2147483648 ≤ i ∧ i ≤ 2147483647)

def orNull (test : Json → Bool) (value : Json) : Bool := value.isNull || test value

/-- The fields of a vehicle that the loader reads and an editor does not write. -/
def restLoads (document : Json) : Bool :=
  document.fieldIfThere "vehicleType" (orNull Json.isString) &&
    document.fieldIfThere "vehicleSubtype" (orNull Json.isString) &&
    document.fieldIfThere "lengthM" (orNull Json.isNumber) && document.fieldIfThere "axleCount" (orNull isInt) &&
    document.fieldIfThere "massEmptyT" (orNull Json.isNumber) &&
    document.fieldIfThere "massGrossT" (orNull Json.isNumber) && document.fieldIfThere "maxSpeedKmh" (orNull isInt) &&
    document.fieldIfThere "brakingLambdaPct" (orNull isInt) && document.fieldIfThere "powerKW" (orNull Json.isNumber) &&
    document.fieldIfThere "tractionForceKN" (orNull Json.isNumber) &&
    document.fieldIfThere "davisA" (orNull Json.isNumber) && document.fieldIfThere "davisB" (orNull Json.isNumber) &&
    document.fieldIfThere "davisC" (orNull Json.isNumber) &&
    document.fieldIfThere "tractionStatus" (orNull Json.isString)

section Loads

variable {α β : Type} {what : String} {test : Json → Bool} {get : Json → Except String α}

theorem isOk_ensure (condition : Prop) [Decidable condition] (error : String) :
    (ensure condition error).isOk = decide condition := by
  unfold ensure
  split
  · rename_i h
    exact (decide_eq_true h).symm
  · rename_i h
    exact (decide_eq_false h).symm

theorem isObject_of_member {j v : Json} {key : String} (h : j.member key = some v) : j.isObject = true := by
  cases j with
  | object members => rfl
  | _ => cases h

theorem requireField_of_member {j v : Json} {key : String} (path : String) (hMember : j.member key = some v)
    (hTest : test v = true) : requireField what test get j key path = get v := by
  rw [requireField, Json.hasField, hMember, Option.any_some, if_pos hTest, Json.atKey,
    if_pos (isObject_of_member hMember), hMember]

theorem isOk_requireField_bind {f : α → Except String β} {loads : Json → Bool}
    (hTrue : ∀ v, test v = true → (get v >>= f).isOk = loads v) (hFalse : ∀ v, test v = false → loads v = false)
    (j : Json) (key path : String) :
    (requireField what test get j key path >>= f).isOk = j.hasField key loads := by
  cases hMember : j.member key with
  | none =>
    rw [requireField, Json.hasField, Json.hasField, hMember]
    rfl
  | some v =>
    cases hTest : test v with
    | true => rw [requireField_of_member path hMember hTest, hTrue v hTest, Json.hasField, hMember, Option.any_some]
    | false =>
      rw [requireField, Json.hasField, Json.hasField, hMember, Option.any_some, Option.any_some, hTest,
        hFalse v hTest]
      rfl

theorem isOk_requireString (j : Json) (key path : String) :
    (requireString j key path).isOk = j.hasField key Json.isString := by
  refine (Json.isOk_bind_pure _ id).symm.trans (isOk_requireField_bind (fun v hTest => ?_) (fun v h => h) j key path)
  rw [Json.isOk_bind_pure, Json.isOk_getString]

theorem isOk_requireUid (j : Json) (key path : String) : (requireUid j key path).isOk = j.hasField key isUid := by
  refine isOk_requireField_bind (fun v hTest => ?_) (fun v hTest => ?_) j key path
  · cases v with
    | unsigned n => exact (Json.isOk_bind_pure _ _).trans (isOk_ensure _ _)
    | _ => cases hTest
  · cases v with
    | unsigned n => cases hTest
    | _ => rfl

theorem isOk_requireInt (j : Json) (key path : String) : (requireInt j key path).isOk = j.hasField key isInt := by
  refine isOk_requireField_bind (fun v hTest => ?_) (fun v hTest => ?_) j key path
  · unfold isInt
    rw [hTest, Bool.true_and]
    cases v.getInt64 with
    | error e => rfl
    | ok i => exact (Json.isOk_bind_pure _ _).trans (isOk_ensure _ _)
  · rw [isInt, hTest, Bool.false_and]

theorem isOk_optionalField (hGet : ∀ v, test v = true → (get v).isOk = true) (j : Json) (key path : String) :
    (optionalField what test get j key path).isOk = j.fieldIfThere key (orNull test) := by
  unfold optionalField Json.fieldIfThere
  cases j.member key with
  | none => rfl
  | some v =>
    have hHere : (if test v = true then some <$> get v else .error (fieldError what key path) :
        Except String (Option α)).isOk = test v := by
      split
      · rename_i hTest
        exact (Json.isOk_bind_pure _ _).trans ((hGet v hTest).trans hTest.symm)
      · rename_i hTest
        exact (Bool.eq_false_iff.mpr hTest).symm
    cases v with
    | null => rfl
    | _ => exact hHere

theorem isOk_optionalString (j : Json) (key path : String) :
    (optionalString j key path).isOk = j.fieldIfThere key (orNull Json.isString) :=
  isOk_optionalField (fun v h => (Json.isOk_getString v).trans h) j key path

theorem isOk_optionalDouble (j : Json) (key path : String) :
    (optionalDouble j key path).isOk = j.fieldIfThere key (orNull Json.isNumber) :=
  isOk_optionalField (fun v h => (Json.isOk_getDouble v).trans h) j key path

theorem isOk_optionally {require : Json → String → String → Except String α} {test : Json → Bool}
    (hRequire : ∀ j key path, (require j key path).isOk = j.hasField key test) (j : Json) (key path : String) :
    (optionally require j key path).isOk = j.fieldIfThere key (orNull test) := by
  have hHas : ∀ v, j.member key = some v → (some <$> require j key path).isOk = test v := by
    intro v hMember
    refine (Json.isOk_bind_pure _ _).trans ?_
    rw [hRequire, Json.hasField, hMember, Option.any_some]
  unfold optionally Json.fieldIfThere
  cases hMember : j.member key with
  | none => rfl
  | some v =>
    cases v with
    | null => rfl
    | _ => exact hHas _ hMember

theorem isOk_optionalInt (j : Json) (key path : String) :
    (optionalInt j key path).isOk = j.fieldIfThere key (orNull isInt) :=
  isOk_optionally isOk_requireInt j key path

theorem isOk_optionalUid (j : Json) (key path : String) :
    (optionalUid j key path).isOk = j.fieldIfThere key (orNull isUid) :=
  isOk_optionally isOk_requireUid j key path

theorem isOk_parseVehicle (path : String) (j : Json) : (parseVehicle path j).isOk =
    (j.hasField "uid" isUid && j.hasField "type_uid" isUid && j.hasField "pID" Json.isString &&
      j.hasField "displayName" Json.isString && restLoads j && j.fieldIfThere "carrierId" (orNull isUid) &&
      j.fieldIfThere "inventoryNumber" (orNull Json.isString) && j.fieldIfThere "notes" (orNull Json.isString)) := by
  refine (Json.isOk_bind fun _ => Json.isOk_bind fun _ => Json.isOk_bind fun _ => Json.isOk_bind fun _ =>
    Json.isOk_bind fun _ => Json.isOk_bind fun _ => Json.isOk_bind fun _ => Json.isOk_bind fun _ =>
    Json.isOk_bind fun _ => Json.isOk_bind fun _ => Json.isOk_bind fun _ => Json.isOk_bind fun _ =>
    Json.isOk_bind fun _ => Json.isOk_bind fun _ => Json.isOk_bind fun _ => Json.isOk_bind fun _ =>
    Json.isOk_bind fun _ => Json.isOk_bind fun _ => Json.isOk_bind fun _ => Json.isOk_bind fun _ =>
    Json.isOk_bind_pure _ _).trans ?_
  simp only [isOk_requireUid, isOk_requireString, isOk_optionalString, isOk_optionalDouble, isOk_optionalInt,
    isOk_optionalUid, restLoads, Bool.and_assoc]

end Loads

/-! ## What is read of a field -/

section Reads

variable {j : Json} {key path : String}

theorem requireUid_of_member {uid : UID} (hMember : j.member key = some (.unsigned uid.value))
    (hUid : uid.value ≠ 0 ∧ uidIsSafeJsonInteger uid = true) : requireUid j key path = .ok uid := by
  rw [requireUid, requireField_of_member path hMember rfl]
  exact congrArg (fun ensured : Except String Unit => ensured >>= fun _ => pure uid) (if_pos hUid)

theorem requireString_of_member {s : String} (hMember : j.member key = some (.string s)) :
    requireString j key path = .ok s :=
  requireField_of_member path hMember rfl

theorem optionalString_of_member {s : Option String} (hMember : j.member key = s.map .string) :
    optionalString j key path = .ok s := by
  unfold optionalString optionalField
  rw [hMember]
  cases s <;> rfl

theorem optionalUid_of_member {uid : Option UID} (hMember : j.member key = uid.map fun uid => .unsigned uid.value)
    (hUid : ∀ u ∈ uid, u.value ≠ 0 ∧ uidIsSafeJsonInteger u = true) : optionalUid j key path = .ok uid := by
  unfold optionalUid optionally
  cases uid with
  | none =>
    rw [hMember]
    rfl
  | some u =>
    rw [requireUid_of_member hMember (hUid u rfl), hMember]
    rfl

theorem parseVehicleUids_of_member {uids : List UID}
    (hMember : j.member "vehicle_uids" = some (.array (uids.map fun uid => .unsigned uid.value)))
    (hUids : ∀ uid ∈ uids, uid.value ≠ 0 ∧ uidIsSafeJsonInteger uid = true) : parseVehicleUids path j = .ok uids := by
  have hAll : ∀ n, ((uids.map fun uid => Json.unsigned uid.value).zipIdx n).mapM
      (fun value => parseVehicleUid path value.swap) = .ok uids := by
    clear hMember
    induction uids with
    | nil => exact fun n => rfl
    | cons uid uids ih =>
      intro n
      have hHead : parseVehicleUid path (n, Json.unsigned uid.value) = .ok uid :=
        congrArg (fun ensured : Except String Unit => ensured >>= fun _ => pure uid)
          (if_pos (hUids uid List.mem_cons_self))
      rw [List.map_cons, List.zipIdx_cons, List.mapM_cons, Prod.swap_prod_mk, hHead,
        ih (fun u hu => hUids u (List.mem_cons_of_mem _ hu))]
      rfl
  rw [parseVehicleUids, hMember]
  exact hAll 0

structure EditedFields where
  uid : UID
  typeUid : UID
  pid : String
  displayName : String
  carrierId : Option UID
  inventoryNumber : Option String
  notes : Option String

def edited (vehicle : Vehicle) : EditedFields :=
  ⟨vehicle.uid, vehicle.typeUid, vehicle.pid, vehicle.displayName, vehicle.carrierId, vehicle.inventoryNumber,
    vehicle.notes⟩

structure ReadsEdited (path : String) (j : Json) (fields : EditedFields) : Prop where
  uid : requireUid j "uid" path = .ok fields.uid
  typeUid : requireUid j "type_uid" path = .ok fields.typeUid
  pid : requireString j "pID" path = .ok fields.pid
  displayName : requireString j "displayName" path = .ok fields.displayName
  carrierId : optionalUid j "carrierId" path = .ok fields.carrierId
  inventoryNumber : optionalString j "inventoryNumber" path = .ok fields.inventoryNumber
  notes : optionalString j "notes" path = .ok fields.notes

theorem readsEdited_of_ok {vehicle : Vehicle} (h : parseVehicle path j = .ok vehicle) :
    ReadsEdited path j (edited vehicle) := by
  obtain ⟨uid, hUid, h⟩ := bind_ok h
  obtain ⟨typeUid, hTypeUid, h⟩ := bind_ok h
  obtain ⟨pid, hPid, h⟩ := bind_ok h
  obtain ⟨displayName, hDisplayName, h⟩ := bind_ok h
  iterate 14 obtain ⟨_, -, h⟩ := bind_ok h
  obtain ⟨carrierId, hCarrierId, h⟩ := bind_ok h
  obtain ⟨inventoryNumber, hInventoryNumber, h⟩ := bind_ok h
  obtain ⟨notes, hNotes, h⟩ := bind_ok h
  cases h
  exact ⟨hUid, hTypeUid, hPid, hDisplayName, hCarrierId, hInventoryNumber, hNotes⟩

theorem ReadsEdited.unique {fields fields' : EditedFields} (h : ReadsEdited path j fields)
    (h' : ReadsEdited path j fields') : fields = fields' := by
  have hUid := h.uid.symm.trans h'.uid
  have hTypeUid := h.typeUid.symm.trans h'.typeUid
  have hPid := h.pid.symm.trans h'.pid
  have hDisplayName := h.displayName.symm.trans h'.displayName
  have hCarrierId := h.carrierId.symm.trans h'.carrierId
  have hInventoryNumber := h.inventoryNumber.symm.trans h'.inventoryNumber
  have hNotes := h.notes.symm.trans h'.notes
  simp only [Except.ok.injEq] at hUid hTypeUid hPid hDisplayName hCarrierId hInventoryNumber hNotes
  cases fields
  cases fields'
  simp_all

/-- Where the fields of the editor are read, only the other fields can stop the loader. -/
theorem ReadsEdited.parseVehicle_iff {fields : EditedFields} (h : ReadsEdited path j fields) :
    (∃ vehicle, parseVehicle path j = .ok vehicle ∧ edited vehicle = fields) ↔ restLoads j = true := by
  have hOk : (parseVehicle path j).isOk = restLoads j := by
    simp only [isOk_parseVehicle, ← isOk_requireUid _ _ path, ← isOk_requireString _ _ path,
      ← isOk_optionalUid _ _ path, ← isOk_optionalString _ _ path, h.uid, h.typeUid, h.pid, h.displayName, h.carrierId,
      h.inventoryNumber, h.notes]
    simp [Except.isOk, Except.toBool]
  rw [← hOk, Json.isOk_iff]
  constructor
  · rintro ⟨vehicle, hVehicle, -⟩
    exact ⟨vehicle, hVehicle⟩
  · rintro ⟨vehicle, hVehicle⟩
    exact ⟨vehicle, hVehicle, (readsEdited_of_ok hVehicle).unique h⟩

end Reads

end JsonLoader

end Symulator.Tools
