import Symulator.Engine.TrainMoves

/-! # Events for the pending tracks

Beside the occupancies it writes, the fleet tells which train entered a section and which section became free.
The events of a train in a tick follow from its move alone.
-/

namespace Symulator.Engine

open Symulator.Library

set_option autoImplicit false

inductive EntrySide
  | left | right
deriving DecidableEq, Repr

structure TrainSlot where
  number : String
  hasExtraInfo : Bool := false
  manuallyPlaced : Bool := false
  entrySide : EntrySide := .left
deriving DecidableEq

structure PipEvent where
  sectionUid : UID
  stationUid : UID
  occupancy : TrackOccupancy
  slot : Option TrainSlot
  lcsBoundaryCrossing : Bool := false

/-- The low 16 bits of the UID are the short number on display. -/
def makeTrainSlot (trainUid : UID) : TrainSlot where
  number := toString (uidInstance trainUid).toNat
  entrySide := .left

section Events

variable {φ : Type} (dynamics : TrainDynamics φ)

def freedEvent (sec : TrackSection) (sectionUid : UID) (lcsBoundaryCrossing : Bool) : PipEvent where
  sectionUid
  stationUid := sec.stationUid
  occupancy := .free
  slot := none
  lcsBoundaryCrossing

def occupiedEvent (sec : TrackSection) (sectionUid trainUid : UID) : PipEvent where
  sectionUid
  stationUid := sec.stationUid
  occupancy := .occupied
  slot := some (makeTrainSlot trainUid)

omit dynamics in
/-- The events of `spawn`, none where it fails. -/
def spawnPipEvents (state : EngineState) (initial : TrainSimState φ) : List PipEvent :=
  match state.findTrackSection initial.currentSectionUid with
  | none => []
  | some sec =>
    if sec.occupancy ≠ .free then [] else [occupiedEvent sec initial.currentSectionUid initial.trainUid]

omit dynamics in
/-- The events of `despawn`, none where it fails. -/
def despawnPipEvents (state : EngineState) (entries : List (TrainEntry φ)) (trainUid : UID) : List PipEvent :=
  match entries.find? (fun entry => entry.sim.trainUid = trainUid) with
  | none => []
  | some entry =>
    match state.findTrackSection entry.sim.currentSectionUid with
    | none => []
    | some sec => [freedEvent sec entry.sim.currentSectionUid false]

/-- The events of `tickTrain`. The sections of a crossing are looked up after their occupancies are written. -/
def trainPipEvents (state : EngineState) (entry : TrainEntry φ) : List PipEvent :=
  match state.findTrackSection entry.sim.currentSectionUid with
  | none => []
  | some sec =>
    let info := resolveNextSection state entry.sim.currentSectionUid entry.fromUid
    let (sim, crossing) := entry.sim.tick dynamics (tickInput dynamics state sec entry info)
    let leaves := info.isBoundaryCrossing ∧ ¬ entry.pendingBoundaryRemoval ∧
      dynamics.positionM sim.physics ≥ sec.lengthM - 1 / 1000
    let leftEvents := if leaves then [freedEvent sec sim.currentSectionUid true] else []
    match crossing with
    | none => leftEvents
    | some c =>
      let after := (tickTrain dynamics state entry).1
      leftEvents ++
        (match after.findTrackSection c.fromSectionUid with
          | some fromSec => [freedEvent fromSec c.fromSectionUid false]
          | none => []) ++
        (match after.findTrackSection c.toSectionUid with
          | some toSec => [occupiedEvent toSec c.toSectionUid sim.trainUid]
          | none => [])

/-- The events of a tick of the whole fleet, one train after the other. -/
def tickPipEvents : EngineState → List (TrainEntry φ) → List PipEvent
  | _, [] => []
  | state, entry :: entries =>
    trainPipEvents dynamics state entry ++ tickPipEvents (tickTrain dynamics state entry).1 entries

omit dynamics in
/-- The events of a fleet command. -/
def fleetPipEvents (state : EngineState) (entries : List (TrainEntry φ)) : FleetCommand φ → List PipEvent
  | .spawn initial _ => spawnPipEvents state initial
  | .despawn trainUid => despawnPipEvents state entries trainUid

/-! ## What the events show -/

omit dynamics in
/-- The slot an event leaves in the section `uid`. -/
def shownAt (uid : UID) (held : Option TrainSlot) (ev : PipEvent) : Option TrainSlot :=
  if ev.sectionUid = uid then (if ev.occupancy = .occupied then ev.slot else none) else held

omit dynamics in
/-- The slot a move leaves in the section `uid`. -/
def TrainMove.shown (entry : TrainEntry φ) (uid : UID) (held : Option TrainSlot) : TrainMove → Option TrainSlot
  | .stays => held
  | .leaves => if entry.sim.currentSectionUid = uid then none else held
  | .crosses toUid =>
    if toUid = uid then some (makeTrainSlot entry.sim.trainUid)
    else if entry.sim.currentSectionUid = uid then none
    else held

@[simp] theorem shownAt_freedEvent (uid : UID) (held : Option TrainSlot) (sec : TrackSection) (sectionUid : UID)
    (lcsBoundaryCrossing : Bool) : shownAt uid held (freedEvent sec sectionUid lcsBoundaryCrossing) =
      if sectionUid = uid then none else held := rfl

@[simp] theorem shownAt_occupiedEvent (uid : UID) (held : Option TrainSlot) (sec : TrackSection)
    (sectionUid trainUid : UID) : shownAt uid held (occupiedEvent sec sectionUid trainUid) =
      if sectionUid = uid then some (makeTrainSlot trainUid) else held := rfl

variable {dynamics}

theorem shown_trainPipEvents {state : EngineState} {uid : UID} (hSome : (state.findTrackSection uid).isSome)
    (entry : TrainEntry φ) (held : Option TrainSlot) :
    (trainPipEvents dynamics state entry).foldl (shownAt uid) held =
      (trainMove dynamics state entry).shown entry uid held := by
  have hSame : SameTrack state (tickTrain dynamics state entry).1 := by
    rw [(tickTrain_spec state entry).1]
    exact SameTrack.occupy state entry _
  unfold trainPipEvents trainMove
  cases hFind : state.findTrackSection entry.sim.currentSectionUid with
  | none => rfl
  | some sec =>
    dsimp only
    rcases @tick_ahead φ dynamics state entry sec with
      ⟨next, physics, overshootM, -, hInside, hTick⟩ | ⟨physics, hTick⟩
    · obtain ⟨fromSec, hFrom, -⟩ := hSame.find hFind
      have hTo : ∀ held', (match (tickTrain dynamics state entry).1.findTrackSection next with
          | some toSec => [occupiedEvent toSec next entry.sim.trainUid]
          | none => []).foldl (shownAt uid) held' =
            if next = uid then some (makeTrainSlot entry.sim.trainUid) else held' := by
        intro held'
        cases hSec : (tickTrain dynamics state entry).1.findTrackSection next with
        | some toSec => rfl
        | none =>
          refine (if_neg ?_).symm
          rintro rfl
          rw [← hSame.isSome_find, hSec] at hSome
          cases hSome
      simp [hTick, hInside, hFrom, hTo, TrainMove.shown]
    · by_cases hLeaves :
          (resolveNextSection state entry.sim.currentSectionUid entry.fromUid).isBoundaryCrossing = true ∧
            ¬ entry.pendingBoundaryRemoval = true ∧ dynamics.positionM physics ≥ sec.lengthM - 1 / 1000
      · simp only [hTick, if_pos hLeaves]
        rfl
      · simp only [hTick, if_neg hLeaves]
        rfl

theorem shown_tickPipEvents {s state : EngineState} (h : SameTrack s state) {uid : UID}
    (hSome : (s.findTrackSection uid).isSome) (entries : List (TrainEntry φ)) (held : Option TrainSlot) :
    (tickPipEvents dynamics state entries).foldl (shownAt uid) held =
      entries.foldl (fun held entry => (trainMove dynamics s entry).shown entry uid held) held := by
  induction entries generalizing state held with
  | nil => rfl
  | cons entry entries ih =>
    have hNext : SameTrack s (tickTrain dynamics state entry).1 := by
      rw [(tickTrain_spec state entry).1]
      exact h.trans (SameTrack.occupy state entry _)
    have hKnown : (state.findTrackSection uid).isSome := by
      rw [h.isSome_find]
      exact hSome
    rw [tickPipEvents, List.foldl_append, shown_trainPipEvents hKnown, (tickTrain_congr h entry).1, ih hNext,
      List.foldl_cons]

omit dynamics in
theorem shown_spawnPipEvents {state : EngineState} {initial : TrainSimState φ} {sec : TrackSection}
    (hFind : state.findTrackSection initial.currentSectionUid = some sec) (hFree : sec.occupancy = .free)
    (uid : UID) (held : Option TrainSlot) : (spawnPipEvents state initial).foldl (shownAt uid) held =
      if initial.currentSectionUid = uid then some (makeTrainSlot initial.trainUid) else held := by
  simp [spawnPipEvents, hFind, hFree]

omit dynamics in
theorem shown_despawnPipEvents {state : EngineState} {entries : List (TrainEntry φ)} {trainUid : UID}
    {entry : TrainEntry φ} (hEntry : entries.find? (fun entry => entry.sim.trainUid = trainUid) = some entry)
    {uid : UID} (hSome : (state.findTrackSection uid).isSome) (held : Option TrainSlot) :
    (despawnPipEvents state entries trainUid).foldl (shownAt uid) held =
      if entry.sim.currentSectionUid = uid then none else held := by
  unfold despawnPipEvents
  rw [hEntry]
  dsimp only
  cases hFind : state.findTrackSection entry.sim.currentSectionUid with
  | some sec => rfl
  | none =>
    refine (if_neg ?_).symm
    rintro rfl
    rw [hFind] at hSome
    cases hSome

end Events

end Symulator.Engine
