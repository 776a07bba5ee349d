import Symulator.Fleet.Coupling
import Symulator.Library.Aggregates

/-! # What a loaded fleet holds

The vehicles are resolved against their types, and every consist is what its own vehicles add up to. A train of it can
always be made.
-/

namespace Symulator.Fleet

open Symulator.Engine Symulator.Library

set_option autoImplicit false

/-! ## Vehicles -/

theorem lt_of_requireInt {j : Json} {key path : String} {i : Int} (h : requireInt j key path = .ok i) :
    i < 2147483648 := by
  unfold requireInt requireField at h
  split at h
  · obtain ⟨v, -, hGet⟩ := Json.atKey_ok h
    exact Json.lt_of_getInt32 hGet
  · cases h

theorem lt_of_resolveIntOverride {j : Json} {key path : String} {fallback i : Int} (hFallback : fallback < 2147483648)
    (h : resolveIntOverride j key fallback path = .ok i) : i < 2147483648 := by
  unfold resolveIntOverride resolveOverride optionalField at h
  split at h
  · cases h
    exact hFallback
  · cases h
    exact hFallback
  · rename_i v _ _
    split at h
    · cases hGet : v.getInt32 with
      | error e => simp [hGet] at h
      | ok k =>
        rw [hGet] at h
        cases h
        exact Json.lt_of_getInt32 hGet
    · cases h

/-- What a vehicle of the fleet always meets: the locomotives can pull, and what cannot pull has no status. -/
structure Vehicle.Resolved (v : Vehicle) : Prop where
  locomotive : isLocomotiveType v.vehicleType = true → v.tractionCapable = true
  unable : v.tractionCapable = false → v.tractionStatus = none
  speed : v.maxSpeedKmh < 2147483648

theorem maxSpeedKmh_of_loadType {dir : String} {file : DataFile} {j : Json} {type : VehicleType}
    (h : loadType dir file j = .ok type) : type.maxSpeedKmh < 2147483648 := by
  unfold loadType at h
  obtain ⟨uid, -, h⟩ := bind_ok h
  obtain ⟨typeName, -, h⟩ := bind_ok h
  obtain ⟨vehicleType, -, h⟩ := bind_ok h
  obtain ⟨lengthM, -, h⟩ := bind_ok h
  obtain ⟨axleCount, -, h⟩ := bind_ok h
  obtain ⟨massEmptyT, -, h⟩ := bind_ok h
  obtain ⟨massGrossT, -, h⟩ := bind_ok h
  obtain ⟨maxSpeedKmh, hSpeed, h⟩ := bind_ok h
  obtain ⟨brakingLambdaPct, -, h⟩ := bind_ok h
  obtain ⟨powerKw, -, h⟩ := bind_ok h
  obtain ⟨tractionForceKn, -, h⟩ := bind_ok h
  obtain ⟨multipleCouplingCapable, -, h⟩ := bind_ok h
  obtain ⟨_, -, h⟩ := bind_ok h
  obtain ⟨davis, -, h⟩ := bind_ok h
  cases h
  exact lt_of_requireInt hSpeed

theorem tractionStatus_of_unable {j : Json} {path : String} {capable : Bool} {status : Option TractionStatus}
    (h : tractionStatusOf j path capable = .ok status) (hUnable : capable = false) : status = none := by
  unfold tractionStatusOf at h
  obtain ⟨override, -, h⟩ := bind_ok h
  rw [hUnable, if_neg Bool.false_ne_true] at h
  obtain ⟨_, -, h⟩ := bind_ok h
  cases h
  rfl

theorem mem_of_findType {types : KeyedMap UID VehicleType} {uid : UID} {path : String} {type : VehicleType}
    (h : findType types uid path = .ok type) : type ∈ types.values := by
  unfold findType at h
  split at h
  · rename_i found hFind
    cases h
    exact (KeyedMap.find_eq_some_iff.mp hFind).1
  · cases h

theorem resolved_of_loadVehicle {types : KeyedMap UID VehicleType}
    (hTypes : ∀ type ∈ types.values, type.maxSpeedKmh < 2147483648) {dir : String} {file : DataFile} {j : Json}
    {vehicle : Vehicle} (h : loadVehicle types dir file j = .ok vehicle) : vehicle.Resolved := by
  unfold loadVehicle at h
  obtain ⟨uid, -, h⟩ := bind_ok h
  obtain ⟨pid, -, h⟩ := bind_ok h
  obtain ⟨typeUid, -, h⟩ := bind_ok h
  obtain ⟨displayName, -, h⟩ := bind_ok h
  obtain ⟨type, hType, h⟩ := bind_ok h
  obtain ⟨_, -, h⟩ := bind_ok h
  obtain ⟨_, -, h⟩ := bind_ok h
  obtain ⟨lengthM, -, h⟩ := bind_ok h
  obtain ⟨axleCount, -, h⟩ := bind_ok h
  obtain ⟨massEmptyT, -, h⟩ := bind_ok h
  obtain ⟨massGrossOverride, -, h⟩ := bind_ok h
  obtain ⟨maxSpeedKmh, hSpeed, h⟩ := bind_ok h
  obtain ⟨brakingLambdaPct, -, h⟩ := bind_ok h
  obtain ⟨powerKw, -, h⟩ := bind_ok h
  obtain ⟨tractionForceKn, -, h⟩ := bind_ok h
  obtain ⟨tractionStatus, hStatus, h⟩ := bind_ok h
  obtain ⟨davis, -, h⟩ := bind_ok h
  cases h
  constructor
  case locomotive => exact fun hLocomotive => isTractionCapable_of_locomotive hLocomotive _
  case unable => exact tractionStatus_of_unable hStatus
  case speed => exact lt_of_resolveIntOverride (hTypes type (mem_of_findType hType)) hSpeed

/-! ## Consists -/

structure TrainConsist.Blank (consist : TrainConsist) : Prop where
  vehicleUids : consist.vehicleUids = []
  mass : consist.totalMassT = 0
  traction : consist.totalTractionKn = 0
  speed : consist.maxSpeedKmh = kFloatMax

def complete (start : TrainConsist) (vehicles : List Vehicle) : TrainConsist :=
  let g := vehicles.foldl addVehicle { consist := start }
  closeConsist (addLocomotives g.consist g.operationalLocomotives) g.lambdaMassSum

section Measures

variable (g : Gathering) (vehicle : Vehicle)

theorem addVehicle_vehicleUids :
    (addVehicle g vehicle).consist.vehicleUids = g.consist.vehicleUids ++ [vehicle.uid] := by
  unfold addVehicle
  split
  · split <;> rfl
  · rfl

theorem addVehicle_totalMassT :
    (addVehicle g vehicle).consist.totalMassT = g.consist.totalMassT + vehicle.effectiveMassT := by
  unfold addVehicle
  split
  · split <;> rfl
  · rfl

end Measures

section Complete

variable {start : TrainConsist} (hBlank : start.Blank) (vehicles : List Vehicle)

theorem addLocomotives_keeps {M : Type} {m : TrainConsist → M}
    (h : ∀ consist vehicle, m (addTraction consist vehicle) = m consist) (consist : TrainConsist)
    (locomotives : List Vehicle) : m (addLocomotives consist locomotives) = m consist := by
  rw [addLocomotives_eq]
  exact measure_foldl_of_eq h _ _

theorem vehicleUids_gather (start : TrainConsist) :
    (vehicles.foldl addVehicle { consist := start }).consist.vehicleUids =
      start.vehicleUids ++ vehicles.map Vehicle.uid := by
  rw [measure_foldl_append (f := fun g : Gathering => g.consist.vehicleUids) addVehicle_vehicleUids,
    List.map_eq_flatMap]

include hBlank

theorem vehicleUids_complete : (complete start vehicles).vehicleUids = vehicles.map Vehicle.uid := by
  have hGather := vehicleUids_gather vehicles start
  rw [hBlank.vehicleUids, List.nil_append] at hGather
  exact (addLocomotives_keeps (m := fun c : TrainConsist => c.vehicleUids) (fun _ _ => rfl) _ _).trans hGather

theorem totalMassT_complete : (complete start vehicles).totalMassT = (vehicles.map Vehicle.effectiveMassT).sum := by
  refine (addLocomotives_keeps (m := TrainConsist.totalMassT) (fun _ _ => rfl) _ _).trans ?_
  rw [measure_foldl_add (f := fun g : Gathering => g.consist.totalMassT) addVehicle_totalMassT, hBlank.mass,
    zero_add]

end Complete

/-- A consist of the fleet, with its vehicles from front to rear. -/
structure Made (fleet : FleetRegistry) (consist : TrainConsist) (vehicles : List Vehicle) : Prop where
  some_vehicle : vehicles ≠ []
  found : consist.vehicleUids.mapM fleet.getVehicle = .ok vehicles
  resolved : ∀ v ∈ vehicles, v.Resolved
  complete : ∃ start : TrainConsist, start.Blank ∧ consist = complete start vehicles

theorem mem_of_vehicleEntry {vehicles : KeyedMap UID Vehicle} {path : String} {item : Json} {vehicle : Vehicle}
    (h : vehicleEntry vehicles path item = .ok vehicle) : vehicle ∈ vehicles.values := by
  unfold vehicleEntry at h
  obtain ⟨_, -, h⟩ := bind_ok h
  obtain ⟨value, -, h⟩ := bind_ok h
  split at h
  · rename_i found hFind
    cases h
    exact (KeyedMap.find_eq_some_iff.mp hFind).1
  · cases h

theorem gather_ok {vehicles : KeyedMap UID Vehicle} {path : String} {start : TrainConsist} {items : List Json}
    {g : Gathering} (h : gather vehicles path start items = .ok g) :
    ∃ found : List Vehicle, (∀ v ∈ found, v ∈ vehicles.values) ∧ g = found.foldl addVehicle { consist := start } := by
  unfold gather at h
  rw [foldlM_make] at h
  obtain ⟨found, hFound, h⟩ := bind_ok h
  cases h
  exact ⟨found, forall_of_mapM (fun _ _ => mem_of_vehicleEntry) hFound, rfl⟩

theorem loadConsist_ok {vehicles : KeyedMap UID Vehicle} {carriers : KeyedMap UID Carrier} {dir : String}
    {file : DataFile} {j : Json} {consist : TrainConsist} (h : loadConsist vehicles carriers dir file j = .ok consist) :
    ∃ (start : TrainConsist) (found : List Vehicle), start.Blank ∧ found ≠ [] ∧ (∀ v ∈ found, v ∈ vehicles.values) ∧
      consist = complete start found := by
  unfold loadConsist at h
  obtain ⟨uid, -, h⟩ := bind_ok h
  obtain ⟨pid, -, h⟩ := bind_ok h
  obtain ⟨displayName, -, h⟩ := bind_ok h
  obtain ⟨category, -, h⟩ := bind_ok h
  obtain ⟨trainCategory, -, h⟩ := bind_ok h
  obtain ⟨carrierId, -, h⟩ := bind_ok h
  obtain ⟨items, -, h⟩ := bind_ok h
  obtain ⟨_, -, h⟩ := bind_ok h
  obtain ⟨g, hGather, h⟩ := bind_ok h
  obtain ⟨_, hSome, h⟩ := bind_ok h
  cases h
  obtain ⟨found, hFound, rfl⟩ := gather_ok hGather
  have hBlank : TrainConsist.Blank { uid, pid, displayName, trainCategory, carrierId, maxSpeedKmh := kFloatMax } :=
    ⟨rfl, rfl, rfl, rfl⟩
  refine ⟨_, found, hBlank, ?_, hFound, rfl⟩
  rintro rfl
  exact of_ensure hSome rfl

theorem made_of_load {root : DataRoot} {fleet : FleetRegistry} (hLoad : FleetRegistry.load root = .ok fleet)
    {consist : TrainConsist} (hConsist : consist ∈ fleet.consists.values) :
    ∃ vehicles, Made fleet consist vehicles := by
  unfold FleetRegistry.load at hLoad
  obtain ⟨types, hTypes, hLoad⟩ := bind_ok hLoad
  obtain ⟨vehicles, hVehicles, hLoad⟩ := bind_ok hLoad
  obtain ⟨carriers, -, hLoad⟩ := bind_ok hLoad
  obtain ⟨consists, hConsists, hLoad⟩ := bind_ok hLoad
  cases hLoad
  obtain ⟨typeFiles, -, hTypes⟩ := bind_ok hTypes
  obtain ⟨vehicleFiles, -, hVehicles⟩ := bind_ok hVehicles
  obtain ⟨consistFiles, -, hConsists⟩ := bind_ok hConsists
  have hSpeeds : ∀ type ∈ types.values, type.maxSpeedKmh < 2147483648 := by
    intro type hType
    obtain ⟨file, j, hMake⟩ := made_of_loadTable hTypes type hType
    exact maxSpeedKmh_of_loadType hMake
  have hResolved : ∀ vehicle ∈ vehicles.values, vehicle.Resolved := by
    intro vehicle hVehicle
    obtain ⟨file, j, hMake⟩ := made_of_loadTable hVehicles vehicle hVehicle
    exact resolved_of_loadVehicle hSpeeds hMake
  obtain ⟨file, j, hMake⟩ := made_of_loadTable hConsists consist hConsist
  obtain ⟨start, found, hBlank, hSome, hFound, rfl⟩ := loadConsist_ok hMake
  refine ⟨found, ?_⟩
  constructor
  case some_vehicle => exact hSome
  case found =>
    rw [vehicleUids_complete hBlank]
    refine mapM_map_ok fun vehicle hVehicle => ?_
    have hFind : vehicles.find vehicle.uid = some vehicle := KeyedMap.find_key (hFound vehicle hVehicle)
    simp only [FleetRegistry.getVehicle, hFind]
  case resolved => exact fun vehicle hVehicle => hResolved vehicle (hFound vehicle hVehicle)
  case complete => exact ⟨start, hBlank, rfl⟩

theorem Made.trainOf {fleet : FleetRegistry} {consist : TrainConsist} {vehicles : List Vehicle}
    (h : Made fleet consist vehicles) (initialSectionUid : UID) :
    ∃ sim, fleet.trainOf consist initialSectionUid = .ok sim ∧ sim.physics = assemble consist vehicles := by
  have hLength : vehicles.length = consist.vehicleUids.length := by
    obtain ⟨start, hBlank, hComplete⟩ := h.complete
    rw [hComplete, vehicleUids_complete hBlank, List.length_map]
  obtain ⟨sim, hSim, hPhysics⟩ := makeTrainSimState_of_length h.some_vehicle hLength initialSectionUid
  refine ⟨sim, ?_, hPhysics⟩
  unfold FleetRegistry.trainOf
  rw [h.found]
  exact hSim

end Symulator.Fleet
