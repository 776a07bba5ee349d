import Mathlib.Algebra.Order.Ring.Rat
import Symulator.Engine.Topology

/-! # Trains on the track

The fleet moves trains from section to section and keeps the occupancy of the sections. What a
train does within its section, the driver's policy and the physics, is left to `TrainDynamics`; the
fleet only reads the position it arrives at. Distances are rationals.
-/

namespace Symulator.Engine

open Symulator.Library

set_option autoImplicit false

structure DriverInput where
  aspect : SignalAspect
  distanceToSignalM : Rat
  targetSpeedMs : Rat
  maxBrakeKn : Rat

/-- Driver and physics of a train with physical state `φ`: one tick of both, the position within the
section, and the two corrections made at the end of a section. -/
structure TrainDynamics (φ : Type) where
  advance : φ → DriverInput → φ
  positionM : φ → Rat
  maxSpeedMs : φ → Rat
  maxBrakeKn : φ → Rat
  placeAt : φ → Rat → φ
  stopAt : φ → Rat → φ
  velocityMs : φ → Rat := fun _ => 0

structure TrainSimState (φ : Type) where
  trainUid : UID
  currentSectionUid : UID
  physics : φ
  totalAxles : Int := 0
  totalLengthM : Rat := 0
  vehicleUids : List UID := []
deriving DecidableEq

structure SectionCrossing where
  fromSectionUid : UID
  toSectionUid : UID
  overshootM : Rat

structure TrainSimTickInput where
  driverInput : DriverInput
  sectionLengthM : Rat
  nextSectionUid : Option UID

structure TrainEntry (φ : Type) where
  sim : TrainSimState φ
  fromUid : UID
  pendingBoundaryRemoval : Bool := false
deriving DecidableEq

structure NextSectionInfo where
  sectionUid : Option UID := none
  fromUid : UID := {}
  isBoundaryCrossing : Bool := false
  trailedSwitchUid : Option UID := none
deriving DecidableEq

/-- The port ahead of a train that came from `fromUid`. -/
def aheadPort (sec : TrackSection) (fromUid : UID) : TrackPort :=
  if sec.sideA.neighborUid = fromUid then sec.sideB else sec.sideA

/-- Passage of a switch met from `currentUid`: from the trunk along the leg it stands on, from a leg to
the trunk, forcing the blades when it does not stand on that leg. -/
def traverseSwitch (sw : Switch) (currentUid nextUid : UID) : NextSectionInfo :=
  if sw.position = .moving then {}
  else if sw.trunk.neighborUid = currentUid then
    let exitUid :=
      if sw.position = .straight then sw.straight.neighborUid else sw.divergent.neighborUid
    if exitUid.value = 0 then {} else { sectionUid := some exitUid, fromUid := nextUid }
  else
    let trailedUid :=
      if (sw.straight.neighborUid = currentUid ∧ sw.position ≠ .straight) ∨
          (sw.divergent.neighborUid = currentUid ∧ sw.position ≠ .divergent) then some sw.uid
      else none
    if sw.trunk.neighborUid.value = 0 then {}
    else { sectionUid := some sw.trunk.neighborUid, fromUid := nextUid, trailedSwitchUid := trailedUid }

def resolveNextSection (state : EngineState) (currentUid fromUid : UID) : NextSectionInfo :=
  match state.findTrackSection currentUid with
  | none => {}
  | some current =>
    let nextUid := (aheadPort current fromUid).neighborUid
    if nextUid.value = 0 then {}
    else if (state.findTrackSection nextUid).isSome then { sectionUid := some nextUid, fromUid := currentUid }
    else
      match state.findSwitch nextUid with
      | some sw => traverseSwitch sw currentUid nextUid
      | none => { isBoundaryCrossing := true }

def aheadSignalAspect (state : EngineState) (sec : TrackSection) (fromUid : UID) : SignalAspect :=
  match (aheadPort sec fromUid).signalUids.findSome? state.findSignal with
  | some sig => sig.currentAspect
  | none => .s2Proceed

section Fleet

variable {φ : Type} (dynamics : TrainDynamics φ)

/-- One tick of a train: it crosses into the next section when it has run past the end of its own, and
stops there when there is none. -/
def TrainSimState.tick (sim : TrainSimState φ) (input : TrainSimTickInput) :
    TrainSimState φ × Option SectionCrossing :=
  let maxBrakeKn :=
    if input.driverInput.maxBrakeKn ≤ 0 then dynamics.maxBrakeKn sim.physics else input.driverInput.maxBrakeKn
  let physics := dynamics.advance sim.physics { input.driverInput with maxBrakeKn }
  if input.sectionLengthM > 0 ∧ dynamics.positionM physics ≥ input.sectionLengthM then
    match input.nextSectionUid with
    | some next =>
      let overshootM := dynamics.positionM physics - input.sectionLengthM
      ({ sim with
          currentSectionUid := next
          physics := dynamics.placeAt physics overshootM },
        some ⟨sim.currentSectionUid, next, overshootM⟩)
    | none => ({ sim with physics := dynamics.stopAt physics input.sectionLengthM }, none)
  else ({ sim with physics }, none)

def tickInput (state : EngineState) (sec : TrackSection) (entry : TrainEntry φ) (info : NextSectionInfo) :
    TrainSimTickInput where
  driverInput :=
    { aspect := aheadSignalAspect state sec entry.fromUid
      distanceToSignalM := max 0 (sec.lengthM - dynamics.positionM entry.sim.physics)
      targetSpeedMs := min (sec.maxSpeedKmh / (36 / 10)) (dynamics.maxSpeedMs entry.sim.physics)
      maxBrakeKn := dynamics.maxBrakeKn entry.sim.physics }
  sectionLengthM := sec.lengthM
  nextSectionUid := info.sectionUid

/-- One train's part of a tick. The section of the train is read after it has moved, as the source keeps
a reference to it. Of the changes reported, the ones about a forced switch are not applied here. -/
def tickTrain (state : EngineState) (entry : TrainEntry φ) :
    EngineState × TrainEntry φ × List DeviceStateChange :=
  match state.findTrackSection entry.sim.currentSectionUid with
  | none => (state, entry, [])
  | some sec =>
    let info := resolveNextSection state entry.sim.currentSectionUid entry.fromUid
    let (sim, crossing) := entry.sim.tick dynamics (tickInput dynamics state sec entry info)
    let leaves := info.isBoundaryCrossing ∧ ¬ entry.pendingBoundaryRemoval ∧
      dynamics.positionM sim.physics ≥ sec.lengthM - 1 / 1000
    let left := if leaves then state.applyTrackSectionOccupancy sim.currentSectionUid .free 0 else state
    let leftChanges : List DeviceStateChange :=
      if leaves then [.trackSectionOccupancyChange sim.currentSectionUid .free 0 {}] else []
    let entry := { entry with sim, pendingBoundaryRemoval := leaves ∨ entry.pendingBoundaryRemoval }
    match crossing with
    | none => (left, entry, leftChanges)
    | some c =>
      let trailed : List DeviceStateChange :=
        match info.trailedSwitchUid with
        | some uid => [.switchControlStateChange uid true, .switchPositionChange uid .trailedDamaged .auto 0]
        | none => []
      ((left.applyTrackSectionOccupancy c.fromSectionUid .free 0).applyTrackSectionOccupancy c.toSectionUid
          .occupied sim.totalAxles,
        { entry with fromUid := info.fromUid },
        leftChanges ++ trailed ++
          [.trackSectionOccupancyChange c.fromSectionUid .free 0 {},
            .trackSectionOccupancyChange c.toSectionUid .occupied sim.totalAxles sim.trainUid])

def tickTrains : EngineState → List (TrainEntry φ) →
    EngineState × List (TrainEntry φ) × List DeviceStateChange
  | state, [] => (state, [], [])
  | state, entry :: entries =>
    let (state, entry, changes) := tickTrain dynamics state entry
    let (state, entries, rest) := tickTrains state entries
    (state, entry :: entries, changes ++ rest)

/-- One tick of the whole fleet; the changes are returned for broadcast only. -/
def tickAll (state : EngineState) (entries : List (TrainEntry φ)) :
    EngineState × List (TrainEntry φ) × List DeviceStateChange :=
  let (state, entries, changes) := tickTrains dynamics state entries
  (state, entries.filter (fun entry => ¬ entry.pendingBoundaryRemoval), changes)

inductive FleetCommand (φ : Type)
  | spawn (initial : TrainSimState φ) (fromUid : UID)
  | despawn (trainUid : UID)

def spawn (state : EngineState) (entries : List (TrainEntry φ)) (initial : TrainSimState φ) (fromUid : UID) :
    Except String (EngineState × List (TrainEntry φ)) :=
  match state.findTrackSection initial.currentSectionUid with
  | none => .error ("initial section " ++ toString initial.currentSectionUid.value ++ " not found")
  | some sec =>
    if sec.occupancy ≠ .free then .error ("initial section " ++ sec.pid ++ " is not free")
    else
      .ok
        (state.applyTrackSectionOccupancy initial.currentSectionUid .occupied initial.totalAxles,
          entries ++ [{ sim := initial, fromUid }])

def despawn (state : EngineState) (entries : List (TrainEntry φ)) (trainUid : UID) :
    Except String (EngineState × List (TrainEntry φ)) :=
  match entries.find? (fun entry => entry.sim.trainUid = trainUid) with
  | none => .error ("train " ++ toString trainUid.value ++ " not found")
  | some entry =>
    .ok
      (match state.findTrackSection entry.sim.currentSectionUid with
        | some _ => state.applyTrackSectionOccupancy entry.sim.currentSectionUid .free 0
        | none => state,
        entries.eraseP (fun entry => entry.sim.trainUid = trainUid))

def executeFleetCommand (state : EngineState) (entries : List (TrainEntry φ)) :
    FleetCommand φ → Except String (EngineState × List (TrainEntry φ))
  | .spawn initial fromUid => spawn state entries initial fromUid
  | .despawn trainUid => despawn state entries trainUid

/-! ## The fleet writes occupancy only -/

/-- `t` is `s` with other section occupancies. -/
def OnlyOccupancy (s t : EngineState) : Prop :=
  t = { s with trackSections := t.trackSections } ∧ t.topology = s.topology

theorem OnlyOccupancy.refl (s : EngineState) : OnlyOccupancy s s := ⟨rfl, rfl⟩

theorem OnlyOccupancy.trans {s t u : EngineState} (h : OnlyOccupancy s t) (h' : OnlyOccupancy t u) :
    OnlyOccupancy s u := by
  refine ⟨?_, h'.2.trans h.2⟩
  rw [h'.1, h.1]

theorem OnlyOccupancy.apply (s : EngineState) (uid : UID) (occ : TrackOccupancy) (axleCount : Int) :
    OnlyOccupancy s (s.applyTrackSectionOccupancy uid occ axleCount) :=
  ⟨rfl, topology_applyTrackSectionOccupancy s uid occ axleCount⟩

variable {dynamics}

theorem tickTrain_onlyOccupancy (state : EngineState) (entry : TrainEntry φ) :
    OnlyOccupancy state (tickTrain dynamics state entry).1 := by
  unfold tickTrain
  split
  · exact OnlyOccupancy.refl state
  · rename_i sec hFind
    have hLeft : ∀ (p : Prop) [Decidable p] (uid : UID),
        OnlyOccupancy state (if p then state.applyTrackSectionOccupancy uid .free 0 else state) := by
      intro p _ uid
      split
      · exact OnlyOccupancy.apply state uid .free 0
      · exact OnlyOccupancy.refl state
    dsimp only
    split
    · exact hLeft _ _
    · exact ((hLeft _ _).trans (OnlyOccupancy.apply _ _ _ _)).trans (OnlyOccupancy.apply _ _ _ _)

theorem tickTrains_onlyOccupancy (state : EngineState) (entries : List (TrainEntry φ)) :
    OnlyOccupancy state (tickTrains dynamics state entries).1 := by
  induction entries generalizing state with
  | nil => exact OnlyOccupancy.refl state
  | cons entry entries ih => exact (tickTrain_onlyOccupancy state entry).trans (ih _)

theorem tickAll_onlyOccupancy (state : EngineState) (entries : List (TrainEntry φ)) :
    OnlyOccupancy state (tickAll dynamics state entries).1 := tickTrains_onlyOccupancy state entries

theorem executeFleetCommand_onlyOccupancy {state t : EngineState} {entries entries' : List (TrainEntry φ)}
    {cmd : FleetCommand φ} (h : executeFleetCommand state entries cmd = .ok (t, entries')) :
    OnlyOccupancy state t := by
  cases cmd with
  | spawn initial fromUid =>
    simp only [executeFleetCommand, spawn] at h
    split at h
    · cases h
    · split at h
      · cases h
      · cases h
        exact OnlyOccupancy.apply _ _ _ _
  | despawn trainUid =>
    simp only [executeFleetCommand, despawn] at h
    split at h
    · cases h
    · cases h
      split
      · exact OnlyOccupancy.apply _ _ _ _
      · exact OnlyOccupancy.refl _

end Fleet

end Symulator.Engine
