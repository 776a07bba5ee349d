import Symulator.Engine.TrainFleet
import Symulator.Library.Footprint

/-! # The moves of a tick

In a tick a train stays in its section, leaves the world over its edge, or crosses into the next section.
Which of these it does depends on the track and the signals and not on the occupancy of any section, so the
trains of one tick all move by the state the tick began in.
-/

namespace Symulator.Engine

open Symulator.Library

set_option autoImplicit false

def TrackSection.vacant (ts : TrackSection) : TrackSection := { ts with occupancy := .free, axleCount := 0 }

/-- The same world but for the occupancy and the axle counts of its sections. -/
structure SameTrack (s t : EngineState) : Prop where
  rest : t = { s with trackSections := t.trackSections }
  sections : t.trackSections.values.map TrackSection.vacant = s.trackSections.values.map TrackSection.vacant

inductive TrainMove
  | stays
  | leaves
  | crosses (toUid : UID)
deriving DecidableEq

def TrainMove.destination (currentUid : UID) : TrainMove → UID
  | .stays | .leaves => currentUid
  | .crosses toUid => toUid

section Moves

variable {φ : Type}

/-- What a move writes: the section left becomes free, the one entered takes the axles of the train. -/
def occupy (entry : TrainEntry φ) (state : EngineState) : TrainMove → EngineState
  | .stays => state
  | .leaves => state.applyTrackSectionOccupancy entry.sim.currentSectionUid .free 0
  | .crosses toUid =>
    (state.applyTrackSectionOccupancy entry.sim.currentSectionUid .free 0).applyTrackSectionOccupancy toUid
      .occupied entry.sim.totalAxles

variable (dynamics : TrainDynamics φ)

def trainMove (state : EngineState) (entry : TrainEntry φ) : TrainMove :=
  match state.findTrackSection entry.sim.currentSectionUid with
  | none => .stays
  | some sec =>
    let info := resolveNextSection state entry.sim.currentSectionUid entry.fromUid
    let (sim, crossing) := entry.sim.tick dynamics (tickInput dynamics state sec entry info)
    match crossing with
    | some c => .crosses c.toSectionUid
    | none =>
      if info.isBoundaryCrossing ∧ ¬ entry.pendingBoundaryRemoval ∧
          dynamics.positionM sim.physics ≥ sec.lengthM - 1 / 1000 then .leaves
      else .stays

def ticked (state : EngineState) (entry : TrainEntry φ) : TrainEntry φ := (tickTrain dynamics state entry).2.1

end Moves

/-! ## The same track -/

namespace SameTrack

variable {s t u : EngineState}

theorem refl (s : EngineState) : SameTrack s s := ⟨rfl, rfl⟩

theorem trans (h : SameTrack s t) (h' : SameTrack t u) : SameTrack s u :=
  ⟨by rw [h'.rest, h.rest], h'.sections.trans h.sections⟩

theorem symm (h : SameTrack s t) : SameTrack t s :=
  ⟨by rw [h.rest], h.sections.symm⟩

theorem apply (s : EngineState) (uid : UID) (occ : TrackOccupancy) (axleCount : Int) :
    SameTrack s (s.applyTrackSectionOccupancy uid occ axleCount) where
  rest := rfl
  sections := KeyedMap.map_values_modify s.trackSections uid
    (fun ts => { ts with occupancy := occ, axleCount := axleCount }) (fun _ => rfl) TrackSection.vacant (fun _ => rfl)

theorem vacant_find (h : SameTrack s t) (uid : UID) :
    (t.findTrackSection uid).map TrackSection.vacant = (s.findTrackSection uid).map TrackSection.vacant :=
  KeyedMap.map_find_congr TrackSection.uid (fun _ => rfl) h.sections uid

theorem isSome_find (h : SameTrack s t) (uid : UID) :
    (t.findTrackSection uid).isSome = (s.findTrackSection uid).isSome := by
  have hFind := congrArg Option.isSome (h.vacant_find uid)
  rwa [Option.isSome_map, Option.isSome_map] at hFind

/-- The sections found under one UID differ in their occupancy only. -/
theorem find (h : SameTrack s t) {uid : UID} {sec : TrackSection} (hFind : s.findTrackSection uid = some sec) :
    ∃ sec', t.findTrackSection uid = some sec' ∧ sec'.vacant = sec.vacant := by
  have hVacant := h.vacant_find uid
  rw [hFind, Option.map_some, Option.map_eq_some_iff] at hVacant
  exact hVacant

theorem resolveNextSection_eq (h : SameTrack s t) (currentUid fromUid : UID) :
    resolveNextSection t currentUid fromUid = resolveNextSection s currentUid fromUid := by
  cases hFind : s.findTrackSection currentUid with
  | none =>
    have hNone : t.findTrackSection currentUid = none := by
      rw [← Option.not_isSome_iff_eq_none, h.isSome_find, hFind]
      exact Bool.false_ne_true
    rw [resolveNextSection, resolveNextSection, hFind, hNone]
  | some sec =>
    obtain ⟨sec', hFind', hVacant⟩ := h.find hFind
    have hPort : aheadPort sec'.vacant fromUid = aheadPort sec.vacant fromUid := by rw [hVacant]
    change aheadPort sec' fromUid = aheadPort sec fromUid at hPort
    have hSwitches : t.switches = s.switches := by rw [h.rest]
    simp only [resolveNextSection, hFind, hFind', hPort, h.isSome_find, EngineState.findSwitch, hSwitches]

/-- States on the same track that show the same occupancies are the same. -/
theorem eq_of_find (h : SameTrack s t) (hFind : ∀ uid, t.findTrackSection uid = s.findTrackSection uid) :
    t = s := by
  have hKeys : t.trackSections.values.map TrackSection.uid = s.trackSections.values.map TrackSection.uid := by
    have hUids := congrArg (List.map TrackSection.uid) h.sections
    rw [List.map_map, List.map_map] at hUids
    exact hUids
  have hSections : t.trackSections = s.trackSections := KeyedMap.ext_find hKeys hFind
  rw [h.rest, hSections]

end SameTrack

/-! ## A tick by its moves -/

theorem findTrackSection_applyTrackSectionOccupancy (s : EngineState) (u : UID) (occ : TrackOccupancy)
    (axleCount : Int) (uid : UID) : (s.applyTrackSectionOccupancy u occ axleCount).findTrackSection uid =
      (s.findTrackSection uid).map fun ts =>
        if uid = u then { ts with occupancy := occ, axleCount := axleCount } else ts :=
  KeyedMap.find_modify s.trackSections u uid (fun ts => { ts with occupancy := occ, axleCount := axleCount })
    (fun _ => rfl)

section Tick

variable {φ : Type} {dynamics : TrainDynamics φ}

theorem isBoundaryCrossing_traverseSwitch (sw : Switch) (currentUid nextUid : UID) :
    (traverseSwitch sw currentUid nextUid).isBoundaryCrossing = false := by
  unfold traverseSwitch
  dsimp only
  repeat' split
  all_goals rfl

theorem sectionUid_of_isBoundaryCrossing {state : EngineState} {currentUid fromUid : UID}
    (h : (resolveNextSection state currentUid fromUid).isBoundaryCrossing = true) :
    (resolveNextSection state currentUid fromUid).sectionUid = none := by
  revert h
  unfold resolveNextSection
  split
  · exact fun _ => rfl
  · dsimp only
    split
    · exact fun _ => rfl
    · split
      · intro h
        cases h
      · split
        · intro h
          rw [isBoundaryCrossing_traverseSwitch] at h
          cases h
        · exact fun _ => rfl

theorem inside_of_sectionUid {state : EngineState} {currentUid fromUid next : UID}
    (h : (resolveNextSection state currentUid fromUid).sectionUid = some next) :
    ¬ (resolveNextSection state currentUid fromUid).isBoundaryCrossing = true := by
  intro hCrossing
  rw [sectionUid_of_isBoundaryCrossing hCrossing] at h
  cases h

/-- A train that has a section ahead leaves the switch by an existing leg. -/
theorem eq_of_exit {exitUid d v : UID} {trailed : Option UID}
    (h : (if exitUid.value = 0 then ({} : NextSectionInfo)
      else { sectionUid := some exitUid, fromUid := v, trailedSwitchUid := trailed }).sectionUid = some d) :
    exitUid = d ∧ (if exitUid.value = 0 then ({} : NextSectionInfo)
      else { sectionUid := some exitUid, fromUid := v, trailedSwitchUid := trailed }) =
        { sectionUid := some d, fromUid := v, trailedSwitchUid := trailed } ∧ d.value ≠ 0 := by
  by_cases hZero : exitUid.value = 0
  · rw [if_pos hZero] at h
    cases h
  · rw [if_neg hZero] at h ⊢
    cases h
    exact ⟨rfl, rfl, hZero⟩

theorem leg_of_traverseSwitch {sw : Switch} {currentUid nextUid toUid : UID}
    (h : (traverseSwitch sw currentUid nextUid).sectionUid = some toUid) :
    (traverseSwitch sw currentUid nextUid).fromUid = nextUid ∧ toUid.value ≠ 0 ∧
      ∃ leg ∈ [sw.trunk, sw.straight, sw.divergent], leg.neighborUid = toUid := by
  unfold traverseSwitch at h ⊢
  by_cases hMoving : sw.position = .moving
  · rw [if_pos hMoving] at h
    cases h
  · rw [if_neg hMoving] at h ⊢
    by_cases hTrunk : sw.trunk.neighborUid = currentUid
    · rw [if_pos hTrunk] at h ⊢
      obtain ⟨hExit, hInfo, hNonzero⟩ := eq_of_exit h
      refine ⟨congrArg NextSectionInfo.fromUid hInfo, hNonzero, ?_⟩
      split at hExit
      · exact ⟨sw.straight, by simp, hExit⟩
      · exact ⟨sw.divergent, by simp, hExit⟩
    · rw [if_neg hTrunk] at h ⊢
      obtain ⟨hExit, hInfo, hNonzero⟩ := eq_of_exit h
      exact ⟨congrArg NextSectionInfo.fromUid hInfo, hNonzero, sw.trunk, by simp, hExit⟩

/-- The next section lies right ahead, or behind a switch that lies ahead. -/
theorem ahead_of_sectionUid {state : EngineState} {currentUid fromUid toUid : UID}
    (h : (resolveNextSection state currentUid fromUid).sectionUid = some toUid) :
    ∃ sec, state.findTrackSection currentUid = some sec ∧
      ((aheadPort sec fromUid).neighborUid = toUid ∧ (state.findTrackSection toUid).isSome = true ∧
          (resolveNextSection state currentUid fromUid).fromUid = currentUid ∨
        state.findTrackSection (aheadPort sec fromUid).neighborUid = none ∧
          ∃ sw, state.findSwitch (aheadPort sec fromUid).neighborUid = some sw ∧
            (resolveNextSection state currentUid fromUid).fromUid = (aheadPort sec fromUid).neighborUid ∧
            toUid.value ≠ 0 ∧ ∃ leg ∈ [sw.trunk, sw.straight, sw.divergent], leg.neighborUid = toUid) := by
  unfold resolveNextSection at h ⊢
  cases hFind : state.findTrackSection currentUid with
  | none =>
    simp only [hFind] at h
    cases h
  | some sec =>
    refine ⟨sec, rfl, ?_⟩
    simp only [hFind] at h ⊢
    generalize (aheadPort sec fromUid).neighborUid = nextUid at h ⊢
    by_cases hZero : nextUid.value = 0
    · rw [if_pos hZero] at h
      cases h
    · rw [if_neg hZero] at h ⊢
      cases hNext : state.findTrackSection nextUid with
      | some next =>
        rw [hNext, Option.isSome_some, if_pos rfl] at h
        cases h
        exact Or.inl ⟨rfl, by rw [hNext]; rfl, rfl⟩
      | none =>
        rw [hNext, Option.isSome_none, if_neg Bool.false_ne_true] at h
        rw [Option.isSome_none, if_neg Bool.false_ne_true]
        cases hSwitch : state.findSwitch nextUid with
        | none =>
          rw [hSwitch] at h
          cases h
        | some sw =>
          rw [hSwitch] at h
          exact Or.inr ⟨rfl, sw, rfl, leg_of_traverseSwitch h⟩

/-- A train crosses into the section it was told is next, or keeps its section. -/
theorem tick_cases (sim : TrainSimState φ) (input : TrainSimTickInput) :
    (∃ next physics overshootM, input.nextSectionUid = some next ∧ sim.tick dynamics input =
      ({ sim with currentSectionUid := next, physics }, some ⟨sim.currentSectionUid, next, overshootM⟩)) ∨
    ∃ physics, sim.tick dynamics input = ({ sim with physics }, none) := by
  unfold TrainSimState.tick
  dsimp only
  generalize dynamics.advance _ _ = physics
  split
  · cases hNext : input.nextSectionUid with
    | some next => exact Or.inl ⟨next, _, _, rfl, rfl⟩
    | none => exact Or.inr ⟨_, rfl⟩
  · exact Or.inr ⟨_, rfl⟩

/-- A train crosses into the section found ahead, which is no edge then, or keeps its section. -/
theorem tick_ahead (state : EngineState) (entry : TrainEntry φ) (sec : TrackSection) :
    (∃ next physics overshootM,
      (resolveNextSection state entry.sim.currentSectionUid entry.fromUid).sectionUid = some next ∧
      ¬ (resolveNextSection state entry.sim.currentSectionUid entry.fromUid).isBoundaryCrossing = true ∧
      entry.sim.tick dynamics (tickInput dynamics state sec entry
          (resolveNextSection state entry.sim.currentSectionUid entry.fromUid)) =
        ({ entry.sim with currentSectionUid := next, physics },
          some ⟨entry.sim.currentSectionUid, next, overshootM⟩)) ∨
    ∃ physics, entry.sim.tick dynamics (tickInput dynamics state sec entry
      (resolveNextSection state entry.sim.currentSectionUid entry.fromUid)) =
        ({ entry.sim with physics }, none) := by
  rcases @tick_cases φ dynamics entry.sim (tickInput dynamics state sec entry
      (resolveNextSection state entry.sim.currentSectionUid entry.fromUid)) with
    ⟨next, physics, overshootM, hNext, hTick⟩ | hStays
  · exact Or.inl ⟨next, physics, overshootM, hNext, inside_of_sectionUid hNext, hTick⟩
  · exact Or.inr hStays

/-- A tick of a train writes what its move writes and takes the train where the move leads. -/
theorem tickTrain_spec (state : EngineState) (entry : TrainEntry φ) :
    (tickTrain dynamics state entry).1 = occupy entry state (trainMove dynamics state entry) ∧
      ∃ physics fromUid, ticked dynamics state entry =
        { sim := { entry.sim with
            currentSectionUid := (trainMove dynamics state entry).destination entry.sim.currentSectionUid
            physics }
          fromUid
          pendingBoundaryRemoval := trainMove dynamics state entry = .leaves ∨ entry.pendingBoundaryRemoval } := by
  unfold ticked tickTrain trainMove
  cases hFind : state.findTrackSection entry.sim.currentSectionUid with
  | none => exact ⟨rfl, entry.sim.physics, entry.fromUid, by simp [TrainMove.destination]⟩
  | some sec =>
    dsimp only
    rcases @tick_ahead φ dynamics state entry sec with
      ⟨next, physics, overshootM, -, hInside, hTick⟩ | ⟨physics, hTick⟩
    · simp [hTick, hInside, occupy, TrainMove.destination]
    · simp only [hTick]
      by_cases hLeaves :
          (resolveNextSection state entry.sim.currentSectionUid entry.fromUid).isBoundaryCrossing = true ∧
            ¬ entry.pendingBoundaryRemoval = true ∧ dynamics.positionM physics ≥ sec.lengthM - 1 / 1000
      · simp only [if_pos hLeaves]
        exact ⟨rfl, physics, entry.fromUid, by simp only [hLeaves]; rfl⟩
      · simp only [if_neg hLeaves]
        exact ⟨rfl, physics, entry.fromUid, by simp only [hLeaves, reduceCtorEq]; rfl⟩

/-- A train keeps its section and where it came from, or crosses to the section found ahead of it, come from
where that lies. -/
theorem ticked_cases (state : EngineState) (entry : TrainEntry φ) :
    (∃ physics, (ticked dynamics state entry).sim = { entry.sim with physics } ∧
        (ticked dynamics state entry).fromUid = entry.fromUid ∧
        ∀ next, trainMove dynamics state entry ≠ .crosses next) ∨
      ∃ next physics,
        (resolveNextSection state entry.sim.currentSectionUid entry.fromUid).sectionUid = some next ∧
        trainMove dynamics state entry = .crosses next ∧
        (ticked dynamics state entry).sim = { entry.sim with currentSectionUid := next, physics } ∧
        (ticked dynamics state entry).fromUid =
          (resolveNextSection state entry.sim.currentSectionUid entry.fromUid).fromUid := by
  unfold ticked tickTrain trainMove
  cases hFind : state.findTrackSection entry.sim.currentSectionUid with
  | none => exact Or.inl ⟨entry.sim.physics, rfl, rfl, fun next hNext => nomatch hNext⟩
  | some sec =>
    dsimp only
    rcases @tick_ahead φ dynamics state entry sec with
      ⟨next, physics, overshootM, hNext, -, hTick⟩ | ⟨physics, hTick⟩
    · rw [hTick]
      exact Or.inr ⟨next, physics, hNext, rfl, rfl, rfl⟩
    · rw [hTick]
      refine Or.inl ⟨physics, rfl, rfl, fun next hMove => ?_⟩
      dsimp only at hMove
      split at hMove <;> cases hMove

theorem isSome_of_crosses {state : EngineState} {entry : TrainEntry φ} {toUid : UID}
    (h : trainMove dynamics state entry = .crosses toUid) :
    (state.findTrackSection entry.sim.currentSectionUid).isSome := by
  cases hFind : state.findTrackSection entry.sim.currentSectionUid with
  | some sec => rfl
  | none =>
    simp only [trainMove, hFind] at h
    cases h

theorem ticked_sim (state : EngineState) (entry : TrainEntry φ) :
    (ticked dynamics state entry).sim.currentSectionUid =
        (trainMove dynamics state entry).destination entry.sim.currentSectionUid ∧
      (ticked dynamics state entry).sim.totalAxles = entry.sim.totalAxles ∧
      (ticked dynamics state entry).pendingBoundaryRemoval =
        decide (trainMove dynamics state entry = .leaves ∨ entry.pendingBoundaryRemoval) := by
  obtain ⟨-, physics, fromUid, hSpec⟩ := @tickTrain_spec φ dynamics state entry
  rw [hSpec]
  exact ⟨rfl, rfl, rfl⟩

/-- Occupancies have no say in where a train goes. -/
theorem tickTrain_congr {s t : EngineState} (h : SameTrack s t) (entry : TrainEntry φ) :
    trainMove dynamics t entry = trainMove dynamics s entry ∧ ticked dynamics t entry = ticked dynamics s entry := by
  have hInfo := h.resolveNextSection_eq entry.sim.currentSectionUid entry.fromUid
  unfold ticked tickTrain trainMove
  cases hFind : s.findTrackSection entry.sim.currentSectionUid with
  | none =>
    have hNone : t.findTrackSection entry.sim.currentSectionUid = none := by
      rw [← Option.not_isSome_iff_eq_none, h.isSome_find, hFind]
      exact Bool.false_ne_true
    rw [hNone]
    exact ⟨rfl, rfl⟩
  | some sec =>
    obtain ⟨sec', hFind', hVacant⟩ := h.find hFind
    have hSignals : t.findSignal = s.findSignal := by
      funext uid
      rw [h.rest]
      rfl
    have hInput : ∀ info, tickInput dynamics t sec'.vacant entry info = tickInput dynamics s sec.vacant entry info := by
      intro info
      simp only [tickInput, aheadSignalAspect, hVacant, hSignals]
    change ∀ info, tickInput dynamics t sec' entry info = tickInput dynamics s sec entry info at hInput
    have hLength : sec'.vacant.lengthM = sec.vacant.lengthM := by rw [hVacant]
    change sec'.lengthM = sec.lengthM at hLength
    rw [hFind']
    dsimp only
    rw [hInfo, hInput, hLength]
    constructor
    · rfl
    · split <;> rfl

theorem SameTrack.occupy (s : EngineState) (entry : TrainEntry φ) (move : TrainMove) :
    SameTrack s (occupy entry s move) := by
  cases move with
  | stays => exact SameTrack.refl s
  | leaves => exact SameTrack.apply _ _ _ _
  | crosses toUid => exact (SameTrack.apply _ _ _ _).trans (SameTrack.apply _ _ _ _)

theorem tickTrains_spec {s state : EngineState} (h : SameTrack s state) (entries : List (TrainEntry φ)) :
    (tickTrains dynamics state entries).1 =
        entries.foldl (fun t entry => occupy entry t (trainMove dynamics s entry)) state ∧
      (tickTrains dynamics state entries).2.1 = entries.map (ticked dynamics s) := by
  induction entries generalizing state with
  | nil => exact ⟨rfl, rfl⟩
  | cons entry entries ih =>
    obtain ⟨hMove, hTicked⟩ := @tickTrain_congr φ dynamics s state h entry
    have hState : (tickTrain dynamics state entry).1 = occupy entry state (trainMove dynamics s entry) := by
      rw [(tickTrain_spec state entry).1, hMove]
    obtain ⟨hRest, hEntries⟩ := ih (h.trans (SameTrack.occupy state entry (trainMove dynamics s entry)))
    rw [← hState] at hRest hEntries
    constructor
    · rw [List.foldl_cons, ← hState]
      exact hRest
    · rw [List.map_cons, ← hTicked, ← hEntries]
      rfl

/-- A tick moves every train by the state it began in, and drops the trains that left. -/
theorem tickAll_spec (state : EngineState) (entries : List (TrainEntry φ)) :
    (tickAll dynamics state entries).1 =
        entries.foldl (fun t entry => occupy entry t (trainMove dynamics state entry)) state ∧
      (tickAll dynamics state entries).2.1 =
        (entries.map (ticked dynamics state)).filter fun entry => ¬ entry.pendingBoundaryRemoval := by
  obtain ⟨hState, hEntries⟩ := @tickTrains_spec φ dynamics state state (SameTrack.refl state) entries
  exact ⟨hState, congrArg (List.filter _) hEntries⟩

theorem tickAll_sameTrack (state : EngineState) (entries : List (TrainEntry φ)) :
    SameTrack state (tickAll dynamics state entries).1 := by
  have hFold : ∀ (entries : List (TrainEntry φ)) t, SameTrack state t →
      SameTrack state (entries.foldl (fun t entry => occupy entry t (trainMove dynamics state entry)) t) := by
    intro entries
    induction entries with
    | nil => exact fun t h => h
    | cons entry entries ih => exact fun t h => ih _ (h.trans (SameTrack.occupy t entry _))
  rw [(tickAll_spec state entries).1]
  exact hFold entries state (SameTrack.refl state)

/-- What is left of a section after the move of one train. -/
def TrainMove.mark (entry : TrainEntry φ) (uid : UID) (ts : TrackSection) : TrainMove → TrackSection
  | .stays => ts
  | .leaves => if uid = entry.sim.currentSectionUid then ts.vacant else ts
  | .crosses toUid =>
    if uid = toUid then { ts with occupancy := .occupied, axleCount := entry.sim.totalAxles }
    else if uid = entry.sim.currentSectionUid then ts.vacant
    else ts

theorem findTrackSection_occupy (s : EngineState) (entry : TrainEntry φ) (move : TrainMove) (uid : UID) :
    (occupy entry s move).findTrackSection uid =
      (s.findTrackSection uid).map fun ts => move.mark entry uid ts := by
  cases move with
  | stays => simp [occupy, TrainMove.mark]
  | leaves => exact findTrackSection_applyTrackSectionOccupancy _ _ _ _ _
  | crosses toUid =>
    rw [occupy, findTrackSection_applyTrackSectionOccupancy, findTrackSection_applyTrackSectionOccupancy,
      Option.map_map]
    congr 1
    funext ts
    simp only [Function.comp_apply, TrainMove.mark]
    by_cases hTo : uid = toUid
    · rw [if_pos hTo, if_pos hTo]
      split <;> rfl
    · rw [if_neg hTo, if_neg hTo]
      rfl

/-! ## The commands of the fleet -/

theorem applyTrackSectionOccupancy_of_none {s : EngineState} {uid : UID} (h : s.findTrackSection uid = none)
    (occ : TrackOccupancy) (axleCount : Int) : s.applyTrackSectionOccupancy uid occ axleCount = s := by
  refine (SameTrack.apply s uid occ axleCount).eq_of_find fun u => ?_
  rw [findTrackSection_applyTrackSectionOccupancy]
  by_cases hu : u = uid
  · rw [hu, h]
    rfl
  · simp [if_neg hu]

theorem spawn_eq_ok {state t : EngineState} {entries entries' : List (TrainEntry φ)} {initial : TrainSimState φ}
    {fromUid : UID} : spawn state entries initial fromUid = .ok (t, entries') ↔
      (∃ sec, state.findTrackSection initial.currentSectionUid = some sec ∧ sec.occupancy = .free) ∧
        t = state.applyTrackSectionOccupancy initial.currentSectionUid .occupied initial.totalAxles ∧
        entries' = entries ++ [{ sim := initial, fromUid }] := by
  unfold spawn
  cases hFind : state.findTrackSection initial.currentSectionUid with
  | none => simp
  | some sec =>
    by_cases hFree : sec.occupancy = .free
    · simp [hFree, eq_comm]
    · simp [hFree]

theorem despawn_eq_ok {state t : EngineState} {entries entries' : List (TrainEntry φ)} {trainUid : UID} :
    despawn state entries trainUid = .ok (t, entries') ↔
      ∃ entry, entries.find? (fun entry => entry.sim.trainUid = trainUid) = some entry ∧
        t = state.applyTrackSectionOccupancy entry.sim.currentSectionUid .free 0 ∧
        entries' = entries.eraseP (fun entry => entry.sim.trainUid = trainUid) := by
  unfold despawn
  cases entries.find? fun entry => entry.sim.trainUid = trainUid with
  | none => simp
  | some entry =>
    cases hFind : state.findTrackSection entry.sim.currentSectionUid with
    | none => simp [hFind, applyTrackSectionOccupancy_of_none hFind, eq_comm]
    | some sec => simp [hFind, eq_comm]

end Tick

end Symulator.Engine
