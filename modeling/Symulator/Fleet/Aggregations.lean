import Symulator.Fleet.LoadedFleet

/-! # The two aggregations

The fleet adds up the traction of what it takes to be able to pull, the simulation the traction of whatever has any.
For a consist of a loaded fleet both follow the same rule for its locomotives, so that they differ by the traction of
the vehicles that cannot pull, and by the speed where no vehicle has a limit that counts.
-/

namespace Symulator.Fleet

open Symulator.Engine Symulator.Library Symulator.Physics

set_option autoImplicit false

/-! ## The fleet's sums -/

/-- What a vehicle pulls with for the fleet, locomotives apart. -/
def ownTractionKn (vehicle : Vehicle) : Rat :=
  if vehicle.tractionCapable && isOperational vehicle && !isLocomotiveType vehicle.vehicleType then
    vehicle.tractionForceKn.getD 0
  else 0

def isOperationalLocomotive (vehicle : Vehicle) : Bool :=
  vehicle.tractionCapable && isOperational vehicle && isLocomotiveType vehicle.vehicleType

section Gather

variable (g : Gathering) (vehicle : Vehicle)

theorem addVehicle_maxSpeedKmh :
    (addVehicle g vehicle).consist.maxSpeedKmh = min g.consist.maxSpeedKmh vehicle.maxSpeedKmh := by
  unfold addVehicle
  split
  · split <;> rfl
  · rfl

theorem addVehicle_totalTractionKn :
    (addVehicle g vehicle).consist.totalTractionKn = g.consist.totalTractionKn + ownTractionKn vehicle := by
  unfold addVehicle ownTractionKn
  cases vehicle.tractionCapable && isOperational vehicle with
  | false => exact (add_zero _).symm
  | true =>
    cases isLocomotiveType vehicle.vehicleType with
    | false => rfl
    | true => exact (add_zero _).symm

theorem addVehicle_operationalLocomotives : (addVehicle g vehicle).operationalLocomotives =
    g.operationalLocomotives ++ [vehicle].filter isOperationalLocomotive := by
  unfold addVehicle
  cases hAble : vehicle.tractionCapable && isOperational vehicle with
  | false => simp [isOperationalLocomotive, hAble]
  | true =>
    cases hLocomotive : isLocomotiveType vehicle.vehicleType with
    | false => simp [isOperationalLocomotive, hLocomotive]
    | true => simp [isOperationalLocomotive, hAble, hLocomotive]

end Gather

section Complete

variable {start : TrainConsist} (hBlank : start.Blank) (vehicles : List Vehicle)

theorem operationalLocomotives_gather (start : TrainConsist) :
    (vehicles.foldl addVehicle { consist := start }).operationalLocomotives =
      vehicles.filter isOperationalLocomotive := by
  rw [measure_foldl_append addVehicle_operationalLocomotives, ← List.filter_flatMap, List.flatMap_singleton',
    List.nil_append]

include hBlank

theorem totalTractionKn_complete : (complete start vehicles).totalTractionKn =
    (vehicles.map ownTractionKn).sum +
      ((pulling id (vehicles.filter isOperationalLocomotive)).map fun v => v.tractionForceKn.getD 0).sum := by
  have hLocomotives := operationalLocomotives_gather vehicles start
  have hOwn := measure_foldl_add (f := fun g : Gathering => g.consist.totalTractionKn) addVehicle_totalTractionKn
    vehicles { consist := start }
  rw [hBlank.traction, zero_add] at hOwn
  have hStep : ∀ consist vehicle, (addTraction consist vehicle).totalTractionKn =
      consist.totalTractionKn + vehicle.tractionForceKn.getD 0 := fun _ _ => rfl
  have hPulled := measure_foldl_add hStep (pulling id (vehicles.filter isOperationalLocomotive))
    (vehicles.foldl addVehicle { consist := start }).consist
  rw [hOwn, ← addLocomotives_eq, ← hLocomotives] at hPulled
  rw [← hLocomotives]
  exact hPulled

/-- With a vehicle there is a limit, that of the slowest. -/
theorem maxSpeedKmh_complete (hSome : vehicles ≠ []) (hResolved : ∀ v ∈ vehicles, v.Resolved) :
    ∃ v ∈ vehicles, (complete start vehicles).maxSpeedKmh = v.maxSpeedKmh ∧
      ∀ v' ∈ vehicles, v.maxSpeedKmh ≤ v'.maxSpeedKmh := by
  have hBelow : ∀ v ∈ vehicles, (v.maxSpeedKmh : Rat) < kFloatMax := by
    intro v hv
    have hInt : (v.maxSpeedKmh : Rat) < 2147483648 := by exact_mod_cast (hResolved v hv).speed
    exact hInt.trans (by decide +kernel)
  have hKept := addLocomotives_keeps (m := TrainConsist.maxSpeedKmh) (fun _ _ => rfl)
    (vehicles.foldl addVehicle { consist := start }).consist
    (vehicles.foldl addVehicle { consist := start }).operationalLocomotives
  obtain ⟨-, hLeast⟩ := measure_foldl_le (f := fun g : Gathering => g.consist.maxSpeedKmh) addVehicle_maxSpeedKmh
    vehicles { consist := start }
  have hAttained := measure_foldl_attained (f := fun g : Gathering => g.consist.maxSpeedKmh) addVehicle_maxSpeedKmh
    vehicles { consist := start }
  obtain ⟨first, hFirst⟩ := List.exists_mem_of_ne_nil vehicles hSome
  have hLimited : (vehicles.foldl addVehicle { consist := start }).consist.maxSpeedKmh ≠ kFloatMax :=
    ne_of_lt (lt_of_le_of_lt (hLeast first hFirst) (hBelow first hFirst))
  have hClosed : (complete start vehicles).maxSpeedKmh =
      (vehicles.foldl addVehicle { consist := start }).consist.maxSpeedKmh := by
    refine Eq.trans ?_ hKept
    exact if_neg (hKept ▸ hLimited)
  rcases hAttained with hStart | ⟨v, hv, hEq⟩
  · exact absurd (hStart.trans hBlank.speed) hLimited
  · refine ⟨v, hv, hClosed.trans hEq, fun v' hv' => ?_⟩
    have hLess := hLeast v' hv'
    rw [hEq] at hLess
    exact_mod_cast hLess

end Complete

/-! ## The simulation's sums -/

section Assemble

variable (vehicles : List Vehicle)

theorem map_contribs {M : Type} {measure : VehiclePhysicsContrib → M}
    (h : ∀ entry c, measure (withTraction entry c) = measure c) :
    (contribs vehicles).map measure = vehicles.map fun v => measure (contribOf v) := by
  have hKept := map_foldl_modify_of_eq Prod.snd h (pulling Prod.fst (operationalLocomotiveIndices vehicles))
    (vehicles.map contribOf)
  rw [contribs, setLocomotives_eq]
  exact hKept.trans (List.map_map ..)

theorem map_fst_operationalLocomotiveIndices : (operationalLocomotiveIndices vehicles).map Prod.fst =
    vehicles.filter fun v => isOperationalTractionUnit v && isLocomotive v := by
  conv_rhs => rw [← List.zipIdx_map_fst 0 vehicles]
  rw [List.filter_map]
  rfl

theorem tractionKn_at_index {entry : Vehicle × Nat} (h : entry ∈ operationalLocomotiveIndices vehicles) :
    ((vehicles.map contribOf).map VehiclePhysicsContrib.tractionKn)[entry.2]? = some 0 := by
  obtain ⟨hMem, hTest⟩ := List.mem_filter.mp h
  obtain ⟨-, hLocomotive⟩ := Bool.and_eq_true_iff.mp hTest
  rw [List.getElem?_map, List.getElem?_map, List.mem_zipIdx_iff_getElem?.mp hMem]
  simp [contribOf, hLocomotive]

theorem nodup_operationalLocomotiveIndices : ((operationalLocomotiveIndices vehicles).map Prod.snd).Nodup := by
  have hAll : (vehicles.zipIdx.map Prod.snd).Nodup := by
    rw [List.zipIdx_map_snd]
    exact List.nodup_range'
  exact hAll.sublist (List.filter_sublist.map Prod.snd)

theorem sum_tractionKn_contribs : ((contribs vehicles).map VehiclePhysicsContrib.tractionKn).sum =
    (vehicles.map fun v => (contribOf v).tractionKn).sum +
      ((pulling id (vehicles.filter fun v => isOperationalTractionUnit v && isLocomotive v)).map
        fun v => v.tractionForceKn.getD 0).sum := by
  have hSub := pulling_sublist Prod.fst (operationalLocomotiveIndices vehicles)
  have hSet : ∀ (entry : Vehicle × Nat) c, (withTraction entry c).tractionKn = entry.1.tractionForceKn.getD 0 :=
    fun _ _ => rfl
  have hSum := sum_foldl_modify Prod.snd hSet
    ((nodup_operationalLocomotiveIndices vehicles).sublist (hSub.map Prod.snd))
    (fun entry hEntry => tractionKn_at_index vehicles (hSub.subset hEntry))
  rw [List.map_map] at hSum
  rw [← map_fst_operationalLocomotiveIndices, ← map_pulling, List.map_map, contribs, setLocomotives_eq]
  exact hSum

theorem map_maxSpeedMs_contribs : (contribs vehicles).map VehiclePhysicsContrib.maxSpeedMs =
    vehicles.map fun v => (v.maxSpeedKmh : Rat) / (36 / 10) := map_contribs vehicles fun _ _ => rfl

theorem totalMassT_assemble_eq (consist : TrainConsist) :
    (assemble consist vehicles).params.totalMassT = (vehicles.map Vehicle.effectiveMassT).sum :=
  (totalMassT_buildTrainParams _).trans (congrArg List.sum (map_contribs vehicles fun _ _ => rfl))

end Assemble

/-! ## Where they agree -/

/-- The traction of a vehicle that cannot pull, which the simulation counts all the same. -/
def strayTractionKn (vehicle : Vehicle) : Rat :=
  if vehicle.tractionCapable then 0 else vehicle.tractionForceKn.getD 0

structure Agrees (consist : TrainConsist) (params : TrainPhysicsParams) : Prop where
  traction : params.maxTractionKn = consist.totalTractionKn
  mass : params.totalMassT = consist.totalMassT
  speed : params.maxSpeedMs = consist.maxSpeedKmh / (36 / 10)

/-- Those that cannot pull bring no traction, and some vehicle is slower than 999 m/s. -/
structure Accountable (vehicles : List Vehicle) : Prop where
  traction : (vehicles.map strayTractionKn).sum = 0
  speed : ∃ v ∈ vehicles, (v.maxSpeedKmh : Rat) < 999 * (36 / 10)

section Resolved

theorem isLocomotive_eq (v : Vehicle) : isLocomotive v = isLocomotiveType v.vehicleType := rfl

variable {v : Vehicle} (h : v.Resolved)

include h

theorem isOperationalLocomotive_of_resolved :
    (isOperationalTractionUnit v && isLocomotive v) = isOperationalLocomotive v := by
  unfold isOperationalLocomotive
  rw [isLocomotive_eq]
  cases hLocomotive : isLocomotiveType v.vehicleType with
  | false => rw [Bool.and_false, Bool.and_false]
  | true => simp [isOperationalTractionUnit, isOperational, h.locomotive hLocomotive]

theorem tractionKn_contribOf : (contribOf v).tractionKn = ownTractionKn v + strayTractionKn v := by
  unfold contribOf ownTractionKn strayTractionKn
  rw [isLocomotive_eq]
  cases hCapable : v.tractionCapable with
  | true => simp [isOperationalTractionUnit, isOperational, hCapable]
  | false =>
    have hOther : isLocomotiveType v.vehicleType = false := by
      refine Bool.eq_false_iff.mpr fun hLocomotive => ?_
      rw [h.locomotive hLocomotive] at hCapable
      cases hCapable
    cases hForce : v.tractionForceKn with
    | none => simp
    | some force => simp [isOperationalTractionUnit, hCapable, hForce, hOther, h.unable hCapable]

end Resolved

section Consist

variable {start : TrainConsist} (hBlank : start.Blank) {vehicles : List Vehicle}
  (hResolved : ∀ v ∈ vehicles, v.Resolved)

include hBlank

theorem totalMassT_assemble :
    (assemble (complete start vehicles) vehicles).params.totalMassT = (complete start vehicles).totalMassT := by
  rw [totalMassT_complete hBlank, totalMassT_assemble_eq]

include hResolved

/-- The simulation counts what the fleet counts, and the stray traction. -/
theorem maxTractionKn_assemble : (assemble (complete start vehicles) vehicles).params.maxTractionKn =
    (complete start vehicles).totalTractionKn + (vehicles.map strayTractionKn).sum := by
  have hPulling : (vehicles.filter fun v => isOperationalTractionUnit v && isLocomotive v) =
      vehicles.filter isOperationalLocomotive :=
    List.filter_congr fun v hv => isOperationalLocomotive_of_resolved (hResolved v hv)
  have hOwn : (vehicles.map fun v => (contribOf v).tractionKn) =
      vehicles.map fun v => ownTractionKn v + strayTractionKn v :=
    List.map_congr_left fun v hv => tractionKn_contribOf (hResolved v hv)
  have hBuild : (assemble (complete start vehicles) vehicles).params.maxTractionKn =
      ((contribs vehicles).map VehiclePhysicsContrib.tractionKn).sum := maxTractionKn_buildTrainParams _
  rw [hBuild, sum_tractionKn_contribs, totalTractionKn_complete hBlank, hPulling, hOwn, List.sum_map_add]
  ring

theorem maxSpeedMs_assemble_iff (hSome : vehicles ≠ []) :
    (assemble (complete start vehicles) vehicles).params.maxSpeedMs =
        (complete start vehicles).maxSpeedKmh / (36 / 10) ↔
      ∃ v ∈ vehicles, (v.maxSpeedKmh : Rat) < 999 * (36 / 10) := by
  obtain ⟨slowest, hSlowest, hLimit, hLeast⟩ := maxSpeedKmh_complete hBlank vehicles hSome hResolved
  rw [hLimit]
  have hBuild := maxSpeedMs_buildTrainParams (contribs vehicles)
  rw [map_maxSpeedMs_contribs] at hBuild
  constructor
  · intro hEqual
    refine ⟨slowest, hSlowest, ?_⟩
    rcases hBuild with ⟨hFast, hZero⟩ | ⟨x, -, hBelow, hEq, -⟩
    · have hSlowestFast := hFast _ (List.mem_map_of_mem hSlowest)
      rw [← hEqual] at hSlowestFast
      have hAbsurd : (999 : Rat) ≤ 0 := hSlowestFast.trans_eq hZero
      exact absurd hAbsurd (by decide +kernel)
    · rw [← hEq] at hBelow
      have hSlow : (slowest.maxSpeedKmh : Rat) / (36 / 10) < 999 := hEqual ▸ hBelow
      exact (div_lt_iff₀ (by decide +kernel)).mp hSlow
  · rintro ⟨v, hv, hSlow⟩
    have hBelow : (v.maxSpeedKmh : Rat) / (36 / 10) < 999 := (div_lt_iff₀ (by decide +kernel)).mpr hSlow
    rcases hBuild with ⟨hFast, -⟩ | ⟨x, hx, -, hEq, hLowest⟩
    · exact absurd (hFast _ (List.mem_map_of_mem hv)) (not_le.mpr hBelow)
    · refine hEq.trans (le_antisymm (hLowest _ (List.mem_map_of_mem hSlowest)) ?_)
      obtain ⟨other, hOther, rfl⟩ := List.mem_map.mp hx
      have hLess : (slowest.maxSpeedKmh : Rat) ≤ other.maxSpeedKmh := by exact_mod_cast hLeast other hOther
      exact div_le_div_of_nonneg_right hLess (by decide +kernel)

end Consist

/-- For every consist of a loaded fleet a train is made, and its sums are the consist's exactly when the vehicles are
accountable. -/
theorem aggregations_agree_iff {root : DataRoot} {fleet : FleetRegistry}
    (hLoad : FleetRegistry.load root = .ok fleet) {consist : TrainConsist} (hConsist : consist ∈ fleet.consists.values)
    (initialSectionUid : UID) :
    ∃ vehicles sim, consist.vehicleUids.mapM fleet.getVehicle = .ok vehicles ∧
      fleet.trainOf consist initialSectionUid = .ok sim ∧
      (Agrees consist sim.physics.params ↔ Accountable vehicles) := by
  obtain ⟨vehicles, hMade⟩ := made_of_load hLoad hConsist
  obtain ⟨sim, hSim, hPhysics⟩ := hMade.trainOf initialSectionUid
  refine ⟨vehicles, sim, hMade.found, hSim, ?_⟩
  rw [hPhysics]
  obtain ⟨start, hBlank, rfl⟩ := hMade.complete
  have hTraction := maxTractionKn_assemble hBlank hMade.resolved
  have hSpeed := maxSpeedMs_assemble_iff hBlank hMade.resolved hMade.some_vehicle
  constructor
  · intro hAgrees
    constructor
    case traction =>
      rw [hAgrees.traction] at hTraction
      exact left_eq_add.mp hTraction
    case speed => exact hSpeed.mp hAgrees.speed
  · intro hAccountable
    constructor
    case traction => rw [hTraction, hAccountable.traction, add_zero]
    case mass => exact totalMassT_assemble hBlank
    case speed => exact hSpeed.mpr hAccountable.speed

/-! ## A railcar -/

def railcarType (vehicleSubtype : String) (massEmptyT maxSpeedKmh : Json) : Json :=
  .object [("uid", .unsigned 1), ("typeName", .string "5B"), ("vehicleType", .string "EMU_UNIT"),
    ("vehicleSubtype", .string vehicleSubtype), ("lengthM", .unsigned 20), ("axleCount", .unsigned 4),
    ("massEmptyT", massEmptyT), ("maxSpeedKmh", maxSpeedKmh), ("brakingLambdaPct", .unsigned 100),
    ("tractionForceKN", .unsigned 80)]

/-- A fleet of one vehicle of the type, and a train of it alone. -/
def railcarRoot (type : Json) : DataRoot where
  path := "data"
  vehicleTypes := some [{ folders := ["emu_unit"], name := "5b.json", content := .value type }]
  vehicles := some [
    { folders := ["emu_unit", "5b-001"], name := "vehicle.json"
      content := .value (.object [("uid", .unsigned 2), ("pID", .string "5B-001"), ("type_uid", .unsigned 1),
        ("displayName", .string "5B-001")]) }]
  trains := some [
    { folders := ["passenger"], name := "90501.json"
      content := .value (.object [("uid", .unsigned 3), ("pID", .string "90501"), ("displayName", .string "90501"),
        ("trainCategory", .string "PASSENGER"), ("vehicle_uids", .array [.unsigned 2])]) }]

/-- The train of the railcar, with what is made of it. -/
def railcarTrain (type : Json) : Except String (TrainConsist × Sim) := do
  let fleet ← FleetRegistry.load (railcarRoot type)
  match fleet.consists.values with
  | [] => .error "no train"
  | consist :: _ => return (consist, ← fleet.trainOf consist ⟨4⟩)

theorem railcarTrain_ok {type : Json} {test : TrainConsist × Sim → Bool}
    (h : (railcarTrain type).toOption.any test = true) : ∃ fleet consist sim,
      FleetRegistry.load (railcarRoot type) = .ok fleet ∧ consist ∈ fleet.consists.values ∧
        fleet.trainOf consist ⟨4⟩ = .ok sim ∧ test (consist, sim) = true := by
  cases hTrain : railcarTrain type with
  | error e => simp [hTrain, Except.toOption] at h
  | ok made =>
    rw [hTrain] at h
    unfold railcarTrain at hTrain
    obtain ⟨fleet, hLoad, hTrain⟩ := bind_ok hTrain
    split at hTrain
    · cases hTrain
    · rename_i consist rest hValues
      obtain ⟨sim, hSim, hTrain⟩ := bind_ok hTrain
      cases hTrain
      exact ⟨fleet, consist, sim, hLoad, hValues ▸ List.mem_cons_self, hSim, h⟩

theorem aggregations_agree_railcar : ∃ fleet consist,
    FleetRegistry.load (railcarRoot (railcarType "MOTOR" (.unsigned 40) (.unsigned 110))) = .ok fleet ∧
      consist ∈ fleet.consists.values ∧
      ∃ vehicles sim, consist.vehicleUids.mapM fleet.getVehicle = .ok vehicles ∧
        fleet.trainOf consist ⟨4⟩ = .ok sim ∧ (Agrees consist sim.physics.params ↔ Accountable vehicles) := by
  have hMotor : (railcarTrain (railcarType "MOTOR" (.unsigned 40) (.unsigned 110))).toOption.any
      (fun made => made.2.physics.params.maxTractionKn = 80) = true := by decide +kernel
  obtain ⟨fleet, consist, sim, hLoad, hConsist, -⟩ := railcarTrain_ok hMotor
  exact ⟨fleet, consist, hLoad, hConsist, aggregations_agree_iff hLoad hConsist ⟨4⟩⟩

/-- A control car that is given a traction force pulls for the simulation, and not for the fleet. -/
theorem aggregations_disagree : ¬ ∀ (root : DataRoot) (fleet : FleetRegistry) (consist : TrainConsist)
    (initialSectionUid : UID) (sim : Sim), FleetRegistry.load root = .ok fleet → consist ∈ fleet.consists.values →
      fleet.trainOf consist initialSectionUid = .ok sim → Agrees consist sim.physics.params := by
  intro h
  have hControl : (railcarTrain (railcarType "CONTROL" (.unsigned 40) (.unsigned 110))).toOption.any
      (fun made => made.2.physics.params.maxTractionKn ≠ made.1.totalTractionKn) = true := by decide +kernel
  obtain ⟨fleet, consist, sim, hLoad, hConsist, hSim, hApart⟩ := railcarTrain_ok hControl
  exact of_decide_eq_true hApart (h _ fleet consist ⟨4⟩ sim hLoad hConsist hSim).traction

end Symulator.Fleet
