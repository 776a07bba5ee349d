import Symulator.Engine.EngineSnapshot

/-! # Trains to spawn

A train is made from a consist of the fleet and appears on the one section at a boundary node.
-/

namespace Symulator.Engine

open Symulator.Library

set_option autoImplicit false

structure TrainConsist where
  uid : UID
  pid : String := ""
  vehicleUids : List UID := []
  totalLengthM : Rat := 0
  totalAxles : Int := 0

instance : Keyed UID TrainConsist := ⟨TrainConsist.uid⟩

/-- The consists and vehicles that were loaded. What a vehicle holds matters to the physics only. -/
structure FleetRegistry (ν : Type) where
  consists : KeyedMap UID TrainConsist := .empty
  vehicles : UID → Option ν

namespace FleetRegistry

variable {ν : Type}

def hasConsist (fleet : FleetRegistry ν) (uid : UID) : Bool := (fleet.consists.find uid).isSome

def getConsist (fleet : FleetRegistry ν) (uid : UID) : Except String TrainConsist :=
  match fleet.consists.find uid with
  | some consist => .ok consist
  | none => .error ("TrainConsist not found: " ++ toString uid.value)

def getVehicle (fleet : FleetRegistry ν) (uid : UID) : Except String ν :=
  match fleet.vehicles uid with
  | some vehicle => .ok vehicle
  | none => .error ("Vehicle not found: " ++ toString uid.value)

end FleetRegistry

structure SpawnPoint where
  sectionUid : UID
  fromUid : UID

inductive SpawnError
  | unknownBoundary | noAdjacentSection | ambiguous | sectionOccupied
deriving DecidableEq, Repr

def SpawnError.toString : SpawnError → String
  | .unknownBoundary => "boundary node not found"
  | .noAdjacentSection => "no track section adjacent to the boundary node"
  | .ambiguous => "more than one track section references the boundary node"
  | .sectionOccupied => "the section adjacent to the boundary node is not free"

def resolveSpawnAtBoundary (snap : EngineSnapshot) (boundaryUid : UID) : Except SpawnError SpawnPoint :=
  if (snap.boundaryNodes.find boundaryUid).isNone then .error .unknownBoundary
  else
    match snap.trackSections.values.filter fun ts =>
        ts.sideA.neighborUid = boundaryUid ∨ ts.sideB.neighborUid = boundaryUid with
    | [] => .error .noAdjacentSection
    | [adjacent] =>
      if adjacent.occupancy ≠ .free then .error .sectionOccupied
      else .ok { sectionUid := adjacent.uid, fromUid := boundaryUid }
    | _ => .error .ambiguous

/-- The physical state of a train at rest, from its consist and its vehicles. -/
abbrev AssembleFn (ν φ : Type) := TrainConsist → List ν → φ

def makeTrainSimState {ν φ : Type} (assemble : AssembleFn ν φ) (consist : TrainConsist) (vehicles : List ν)
    (initialSectionUid : UID) : Except String (TrainSimState φ) :=
  if vehicles.isEmpty then .error "make_train_sim_state requires at least one vehicle"
  else if vehicles.length ≠ consist.vehicleUids.length then
    .error "Vehicle list size must match consist.vehicle_uids size"
  else
    .ok
      { trainUid := consist.uid
        currentSectionUid := initialSectionUid
        physics := assemble consist vehicles
        totalAxles := consist.totalAxles
        totalLengthM := consist.totalLengthM
        vehicleUids := consist.vehicleUids }

theorem FleetRegistry.uid_of_getConsist {ν : Type} {fleet : FleetRegistry ν} {uid : UID} {consist : TrainConsist}
    (h : fleet.getConsist uid = .ok consist) : consist.uid = uid := by
  unfold FleetRegistry.getConsist at h
  split at h
  · rename_i found hFind
    cases h
    exact KeyedMap.key_of_find hFind
  · cases h

/-- A spawn point is a free section that a boundary node adjoins. -/
theorem resolveSpawnAtBoundary_ok {snap : EngineSnapshot} {boundaryUid : UID} {point : SpawnPoint}
    (h : resolveSpawnAtBoundary snap boundaryUid = .ok point) : point.fromUid = boundaryUid ∧
      ∃ sec, snap.trackSections.find point.sectionUid = some sec ∧ sec.occupancy = .free ∧
        (sec.sideA.neighborUid = boundaryUid ∨ sec.sideB.neighborUid = boundaryUid) := by
  unfold resolveSpawnAtBoundary at h
  split at h
  · cases h
  · split at h
    · cases h
    · rename_i adjacent hAdjacent
      split at h
      · cases h
      · rename_i hFree
        cases h
        have hMem : adjacent ∈ [adjacent] := List.mem_singleton.mpr rfl
        rw [← hAdjacent] at hMem
        obtain ⟨hSection, hSides⟩ := List.mem_filter.mp hMem
        exact ⟨rfl, adjacent, KeyedMap.find_key hSection, Decidable.not_not.mp hFree, of_decide_eq_true hSides⟩
    · cases h

theorem makeTrainSimState_ok {ν φ : Type} {assemble : AssembleFn ν φ} {consist : TrainConsist} {vehicles : List ν}
    {initialSectionUid : UID} {initial : TrainSimState φ}
    (h : makeTrainSimState assemble consist vehicles initialSectionUid = .ok initial) :
    initial.trainUid = consist.uid ∧ initial.currentSectionUid = initialSectionUid := by
  unfold makeTrainSimState at h
  split at h
  · cases h
  · split at h
    · cases h
    · cases h
      exact ⟨rfl, rfl⟩

end Symulator.Engine
