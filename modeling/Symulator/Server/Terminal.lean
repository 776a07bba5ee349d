import Symulator.Engine.SpawnResolver
import Symulator.Library.Runs

/-! # Spawn and despawn from the terminal

A terminal command decides on the latest published snapshot. It answers with a line of text and, when it
accepts, puts a request for the engine on the fleet command queue.
-/

namespace Symulator.Server

open Symulator.Library Symulator.Engine

set_option autoImplicit false

/-- A decimal number of 64 bits, with nothing before or after it. -/
def parseUint (text : String) : Option Nat :=
  let digits := text.toList
  if digits.isEmpty ∨ digits.any fun c => !c.isDigit then none
  else
    let value := digits.foldl (fun value c => 10 * value + (c.toNat - '0'.toNat)) 0
    if value < 2 ^ 64 then some value else none

section Commands

variable {ν φ : Type}

def resolveConsistUid (fleet : FleetRegistry ν) (arg : String) : Option UID :=
  match parseUint arg with
  | some value => if fleet.hasConsist ⟨value⟩ then some ⟨value⟩ else none
  | none => (fleet.consists.values.find? fun consist => consist.pid = arg).map TrainConsist.uid

def resolveBoundaryUid (snap : EngineSnapshot) (arg : String) : Option UID :=
  match parseUint arg with
  | some value => if (snap.boundaryNodes.find ⟨value⟩).isSome then some ⟨value⟩ else none
  | none => (snap.boundaryNodes.values.find? fun node => node.pid = arg).map BoundaryNode.uid

/-- The answer on the terminal, and the request put on the queue. -/
structure Outcome (φ : Type) where
  reply : String
  request : Option (FleetCommand φ) := none

/-- An exception leaves the command when a vehicle of the consist is not there. -/
def SpawnCommand.execute (assemble : AssembleFn ν φ) (fleet : FleetRegistry ν) (snapshot : Option EngineSnapshot)
    (args : List String) : Except String (Outcome φ) :=
  match args with
  | [consistArg, boundaryArg] =>
    match snapshot with
    | none => .ok { reply := "world snapshot not available yet" }
    | some snap =>
      match resolveConsistUid fleet consistArg with
      | none => .ok { reply := "unknown consist: " ++ consistArg }
      | some consistUid => do
        let consist ← fleet.getConsist consistUid
        if snap.trains.any fun train => train.uid = consistUid then
          return { reply := "train already active: " ++ consist.pid }
        else
          match resolveBoundaryUid snap boundaryArg with
          | none => return { reply := "unknown boundary node: " ++ boundaryArg }
          | some boundaryUid =>
            match resolveSpawnAtBoundary snap boundaryUid with
            | .error e => return { reply := "spawn rejected: " ++ e.toString }
            | .ok point => do
              let vehicles ← consist.vehicleUids.mapM fleet.getVehicle
              match makeTrainSimState assemble consist vehicles point.sectionUid with
              | .error e => return { reply := "spawn rejected: " ++ e }
              | .ok initial =>
                return {
                  reply := "spawn queued: " ++ consist.pid ++ " (uid " ++ toString consistUid.value ++
                    ") at section uid " ++ toString point.sectionUid.value
                  request := some (.spawn initial point.fromUid) }
  | _ => .ok { reply := "usage: spawn <consist uid|pID> <boundary uid|pID>" }

def DespawnCommand.execute (fleet : FleetRegistry ν) (snapshot : Option EngineSnapshot) (args : List String) :
    Outcome φ :=
  match args with
  | [arg] =>
    match snapshot with
    | none => { reply := "world snapshot not available yet" }
    | some snap =>
      match (resolveConsistUid fleet arg).or ((parseUint arg).map UID.mk) with
      | none => { reply := "unknown train: " ++ arg }
      | some trainUid =>
        if snap.trains.any fun train => train.uid = trainUid then
          { reply := "despawn queued: uid " ++ toString trainUid.value
            request := some (.despawn trainUid) }
        else { reply := "no active train: " ++ arg }
  | _ => { reply := "usage: despawn <train uid|consist pID>" }

variable {assemble : AssembleFn ν φ} {fleet : FleetRegistry ν} {snapshot : Option EngineSnapshot}

/-- A spawn is asked for only when the snapshot shows no train of the consist and the section free. -/
theorem SpawnCommand.request_of_execute {args : List String} {outcome : Outcome φ} {request : FleetCommand φ}
    (h : SpawnCommand.execute assemble fleet snapshot args = .ok outcome) (hRequest : outcome.request = some request) :
    ∃ snap initial fromUid, snapshot = some snap ∧ request = .spawn initial fromUid ∧
      (∀ train ∈ snap.trains, train.uid ≠ initial.trainUid) ∧
      ∃ sec, snap.trackSections.find initial.currentSectionUid = some sec ∧ sec.occupancy = .free ∧
        (sec.sideA.neighborUid = fromUid ∨ sec.sideB.neighborUid = fromUid) := by
  unfold SpawnCommand.execute at h
  split at h
  · rename_i consistArg boundaryArg
    split at h
    · cases h
      cases hRequest
    · rename_i snap
      split at h
      · cases h
        cases hRequest
      · rename_i consistUid hConsistUid
        obtain ⟨consist, hConsist, h⟩ := bind_ok h
        split at h
        · cases h
          cases hRequest
        · rename_i hInactive
          split at h
          · cases h
            cases hRequest
          · rename_i boundaryUid hBoundary
            split at h
            · cases h
              cases hRequest
            · rename_i point hPoint
              obtain ⟨vehicles, hVehicles, h⟩ := bind_ok h
              split at h
              · cases h
                cases hRequest
              · rename_i initial hInitial
                cases h
                cases hRequest
                obtain ⟨hUid, hSection⟩ := makeTrainSimState_ok hInitial
                obtain ⟨hFrom, hFree⟩ := resolveSpawnAtBoundary_ok hPoint
                refine ⟨snap, initial, point.fromUid, rfl, rfl, fun train hTrain hSame => hInactive ?_, ?_⟩
                · rw [hUid, FleetRegistry.uid_of_getConsist hConsist] at hSame
                  exact List.any_eq_true.mpr ⟨train, hTrain, decide_eq_true hSame⟩
                · rw [hSection, hFrom]
                  exact hFree
  · cases h
    cases hRequest

/-- A despawn is asked for only when the snapshot shows the train. -/
theorem DespawnCommand.request_of_execute {args : List String} {request : FleetCommand φ}
    (hRequest : (DespawnCommand.execute fleet snapshot args).request = some request) :
    ∃ snap trainUid, snapshot = some snap ∧ request = .despawn trainUid ∧
      ∃ train ∈ snap.trains, train.uid = trainUid := by
  unfold DespawnCommand.execute at hRequest
  split at hRequest
  · split at hRequest
    · cases hRequest
    · rename_i snap
      split at hRequest
      · cases hRequest
      · rename_i trainUid hUid
        split at hRequest
        · rename_i hActive
          cases hRequest
          obtain ⟨train, hTrain, hSame⟩ := List.any_eq_true.mp hActive
          exact ⟨snap, trainUid, rfl, rfl, train, hTrain, of_decide_eq_true hSame⟩
        · cases hRequest
  · cases hRequest

end Commands

end Symulator.Server
