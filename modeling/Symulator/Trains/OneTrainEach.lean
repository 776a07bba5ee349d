import Symulator.Srk.BlockSections

/-! # One train to a section

Spawning, crossing, leaving and despawning overwrite the occupancy of a section rather than count it. As long as
no two trains have to do with one section in the same tick, each section shows the one train on it, or none.
-/

namespace Symulator.Trains

open Symulator.Library Symulator.Engine Symulator.Srk

set_option autoImplicit false

section Guards

variable {φ : Type} (dynamics : TrainDynamics φ)

def StandsOn (entry : TrainEntry φ) (uid : UID) : Prop := entry.sim.currentSectionUid = uid

omit dynamics in
instance (entry : TrainEntry φ) (uid : UID) : Decidable (StandsOn entry uid) := inferInstanceAs (Decidable (_ = _))

/-- The train stands on the section, or the next tick takes it there. -/
def Visits (state : EngineState) (entry : TrainEntry φ) (uid : UID) : Prop :=
  StandsOn entry uid ∨ (trainMove dynamics state entry).destination entry.sim.currentSectionUid = uid

instance (state : EngineState) (entry : TrainEntry φ) (uid : UID) : Decidable (Visits dynamics state entry uid) :=
  inferInstanceAs (Decidable (_ ∨ _))

/-- In a tick each section is for one train only, and a train is despawned under a UID of its own. -/
def EachForOneTrain (w : World φ) : Action φ → Prop
  | .tickTrains =>
    ∀ uid, (w.state.findTrackSection uid).isSome → TouchedOnce (Visits dynamics w.state) uid w.fleet
  | .fleetCommand (.despawn trainUid) =>
    ∀ entry ∈ w.fleet, ∀ other ∈ w.fleet, entry.sim.trainUid = trainUid → other.sim.trainUid = trainUid →
      entry = other
  | .fleetCommand (.spawn ..) | .command _ | .onTick | .advanceTick => True

instance [DecidableEq φ] (w : World φ) : (a : Action φ) → Decidable (EachForOneTrain dynamics w a)
  | .tickTrains =>
    decidable_of_iff (∀ sec ∈ w.state.trackSections.values, w.fleet.Pairwise fun entry other =>
      ¬ (Visits dynamics w.state entry sec.uid ∧ Visits dynamics w.state other sec.uid))
      (KeyedMap.forall_isSome_find (P := fun uid => TouchedOnce (Visits dynamics w.state) uid w.fleet)).symm
  | .fleetCommand (.despawn trainUid) =>
    inferInstanceAs (Decidable (∀ entry ∈ w.fleet, ∀ other ∈ w.fleet, entry.sim.trainUid = trainUid →
      other.sim.trainUid = trainUid → entry = other))
  | .fleetCommand (.spawn ..) | .command _ | .onTick | .advanceTick => .isTrue trivial

omit dynamics in
/-- The action resets no axle counter of a section. -/
def NoReset (w : World φ) : Action φ → Prop
  | .command cmd => ∀ uid, ∀ c ∈ w.control.changesOf w.state cmd, sectionOccupancyWrite uid c = none
  | .fleetCommand _ | .tickTrains | .onTick | .advanceTick => True

end Guards

section Invariant

variable {φ : Type}

/-- No train anywhere, and every section free. -/
structure Vacant (w : World φ) : Prop where
  fleet : w.fleet = []
  sections : ∀ uid sec, w.state.findTrackSection uid = some sec → sec.occupancy = .free ∧ sec.axleCount = 0

/-- What a section shows is the train on it, if there is one. -/
structure Shows (fleet : List (TrainEntry φ)) (uid : UID) (held : TrackOccupancy × Int) : Prop where
  train : ∀ entry ∈ fleet, StandsOn entry uid → held = (.occupied, entry.sim.totalAxles)
  bare : (∀ entry ∈ fleet, ¬ StandsOn entry uid) → held = (.free, 0)

theorem Shows.congr {fleet fleet' : List (TrainEntry φ)} {uid : UID} {held : TrackOccupancy × Int}
    (h : Shows fleet uid held) (hFleet : ∀ entry, StandsOn entry uid → (entry ∈ fleet' ↔ entry ∈ fleet)) :
    Shows fleet' uid held where
  train entry hEntry hStands := h.train entry ((hFleet entry hStands).mp hEntry) hStands
  bare hNone := h.bare fun entry hEntry hStands => hNone entry ((hFleet entry hStands).mpr hEntry) hStands

/-- Each section shows the one train on it, or none. -/
structure OneTrainEach (w : World φ) : Prop where
  shows : ∀ uid held, (sectionOccupancy uid).read w.state = some held → Shows w.fleet uid held
  alone : ∀ uid, (w.state.findTrackSection uid).isSome → TouchedOnce StandsOn uid w.fleet
  staying : ∀ entry ∈ w.fleet, entry.pendingBoundaryRemoval = false

theorem Vacant.oneTrainEach {w : World φ} (h : Vacant w) : OneTrainEach w := by
  obtain ⟨hFleet, hSections⟩ := h
  refine ⟨fun uid held hHeld => ⟨by simp [hFleet], fun _ => ?_⟩, fun uid _ => ?_, by simp [hFleet]⟩
  · obtain ⟨sec, hFind, rfl⟩ := Option.map_eq_some_iff.mp hHeld
    obtain ⟨hOccupancy, hAxles⟩ := hSections uid sec hFind
    rw [hOccupancy, hAxles]
  · rw [hFleet]
    exact List.Pairwise.nil

/-- Only the trains and what the sections show count. -/
theorem OneTrainEach.congr {w w' : World φ} (h : OneTrainEach w) (hFleet : w'.fleet = w.fleet)
    (hRead : ∀ uid, (sectionOccupancy uid).read w'.state = (sectionOccupancy uid).read w.state) :
    OneTrainEach w' := by
  refine ⟨fun uid held hHeld => ?_, fun uid hSome => ?_, ?_⟩
  · rw [hFleet]
    exact h.shows uid held ((hRead uid).symm.trans hHeld)
  · have hSame := congrArg Option.isSome (hRead uid)
    simp only [sectionOccupancy, Option.isSome_map] at hSame
    rw [hFleet]
    exact h.alone uid (hSame ▸ hSome)
  · rw [hFleet]
    exact h.staying

theorem sectionOccupancy_applyTrackSectionOccupancy (s : EngineState) (u : UID) (occ : TrackOccupancy)
    (axleCount : Int) (uid : UID) :
    (sectionOccupancy uid).read (s.applyTrackSectionOccupancy u occ axleCount) =
      ((sectionOccupancy uid).read s).map fun held => if uid = u then (occ, axleCount) else held := by
  have hApply := (sectionOccupancy uid).read_apply s (.trackSectionOccupancyChange u occ axleCount {})
  refine Eq.trans hApply (congrArg (fun f => Option.map f ((sectionOccupancy uid).read s)) (funext fun held => ?_))
  by_cases hu : uid = u <;> simp [sectionOccupancy, sectionOccupancyWrite, hu]

theorem read_applyTrackSectionOccupancy {s : EngineState} {u : UID} {occ : TrackOccupancy} {axleCount : Int}
    {uid : UID} {held : TrackOccupancy × Int}
    (h : (sectionOccupancy uid).read (s.applyTrackSectionOccupancy u occ axleCount) = some held) :
    uid = u ∧ held = (occ, axleCount) ∨ uid ≠ u ∧ (sectionOccupancy uid).read s = some held := by
  rw [sectionOccupancy_applyTrackSectionOccupancy] at h
  obtain ⟨before, hBefore, rfl⟩ := Option.map_eq_some_iff.mp h
  by_cases hu : uid = u
  · exact Or.inl ⟨hu, if_pos hu⟩
  · exact Or.inr ⟨hu, by rw [hBefore, if_neg hu]⟩

theorem OneTrainEach.spawn {w w' : World φ} {initial : TrainSimState φ} {fromUid : UID} (h : OneTrainEach w)
    (hSpawn : Engine.spawn w.state w.fleet initial fromUid = .ok (w'.state, w'.fleet)) : OneTrainEach w' := by
  obtain ⟨⟨sec, hFind, hFree⟩, hState, hFleet⟩ := spawn_eq_ok.mp hSpawn
  have hNobody : ∀ entry ∈ w.fleet, ¬ StandsOn entry initial.currentSectionUid := by
    intro entry hEntry hStands
    have hShown := (h.shows _ (sec.occupancy, sec.axleCount) (by simp [sectionOccupancy, hFind])).train
      entry hEntry hStands
    rw [hFree] at hShown
    cases hShown
  refine ⟨fun uid held hHeld => ?_, fun uid hSome => ?_, ?_⟩
  · rw [hState] at hHeld
    rw [hFleet]
    rcases read_applyTrackSectionOccupancy hHeld with ⟨rfl, rfl⟩ | ⟨hOther, hHeld⟩
    · constructor
      · intro entry hEntry hStands
        rcases List.mem_append.mp hEntry with hEntry | hEntry
        · exact absurd hStands (hNobody entry hEntry)
        · rw [List.mem_singleton.mp hEntry]
      · intro hNone
        exact absurd rfl (hNone _ (List.mem_append_right _ (List.mem_singleton.mpr rfl)))
    · refine (h.shows uid held hHeld).congr fun entry hStands => ?_
      rw [List.mem_append, List.mem_singleton]
      refine or_iff_left ?_
      rintro rfl
      exact hOther hStands.symm
  · rw [hState, (SameTrack.apply _ _ _ _).isSome_find] at hSome
    rw [hFleet]
    have hBefore := h.alone uid hSome
    refine List.pairwise_append.mpr ⟨hBefore, List.pairwise_singleton _ _, ?_⟩
    rintro entry hEntry new hNew ⟨hStands, hStands'⟩
    rw [List.mem_singleton.mp hNew] at hStands'
    exact hNobody entry hEntry (hStands.trans hStands'.symm)
  · intro entry hEntry
    rw [hFleet] at hEntry
    rcases List.mem_append.mp hEntry with hEntry | hEntry
    · exact h.staying entry hEntry
    · rw [List.mem_singleton.mp hEntry]

theorem OneTrainEach.despawn {w w' : World φ} {trainUid : UID} (h : OneTrainEach w)
    (hDespawn : Engine.despawn w.state w.fleet trainUid = .ok (w'.state, w'.fleet)) : OneTrainEach w' := by
  obtain ⟨entry, hFind, hState, hFleet⟩ := despawn_eq_ok.mp hDespawn
  obtain ⟨hUid, before, after, hSplit, hBefore⟩ := List.find?_eq_some_iff_append.mp hFind
  have hErased : w'.fleet = before ++ after := by
    rw [hFleet, hSplit, List.eraseP_append_right _ (fun e he => by simpa using hBefore e he)]
    simp [of_decide_eq_true hUid]
  refine ⟨fun uid held hHeld => ?_, fun uid hSome => ?_, ?_⟩
  · have hSome : (w.state.findTrackSection uid).isSome := by
      have hSame := SameTrack.apply w.state entry.sim.currentSectionUid .free 0
      obtain ⟨sec, hSec, -⟩ := Option.map_eq_some_iff.mp hHeld
      rw [← hSame.isSome_find, ← hState, hSec]
      rfl
    rw [hState] at hHeld
    rw [hErased]
    rcases read_applyTrackSectionOccupancy hHeld with ⟨rfl, rfl⟩ | ⟨hOther, hHeld⟩
    · refine ⟨fun e he hStands => ?_, fun _ => rfl⟩
      have hAlone := h.alone _ hSome
      rw [hSplit] at hAlone
      obtain ⟨-, hAfter, hCross⟩ := List.pairwise_append.mp hAlone
      rcases List.mem_append.mp he with he | he
      · exact absurd ⟨hStands, rfl⟩ (hCross e he entry List.mem_cons_self)
      · exact absurd ⟨rfl, hStands⟩ ((List.pairwise_cons.mp hAfter).1 e he)
    · refine (h.shows uid held hHeld).congr fun e hStands => ?_
      have hNe : e ≠ entry := by
        rintro rfl
        exact hOther hStands.symm
      simp [hSplit, hNe]
  · rw [hState, (SameTrack.apply _ _ _ _).isSome_find] at hSome
    rw [hFleet]
    exact (h.alone uid hSome).sublist List.eraseP_sublist
  · intro e he
    rw [hFleet] at he
    exact h.staying e (List.mem_of_mem_eraseP he)

theorem footprint_occupy (dynamics : TrainDynamics φ) (s : EngineState) :
    Footprint EngineState.findTrackSection (fun t entry => occupy entry t (trainMove dynamics s entry))
      (Visits dynamics s) where
  frame t entry uid hUid := by
    rw [findTrackSection_occupy]
    have hMark : ∀ ts, (trainMove dynamics s entry).mark entry uid ts = ts := by
      intro ts
      have hStands : ¬ uid = entry.sim.currentSectionUid := fun h => hUid (Or.inl h.symm)
      have hReaches : ¬ uid = (trainMove dynamics s entry).destination entry.sim.currentSectionUid :=
        fun h => hUid (Or.inr h.symm)
      revert hReaches
      cases trainMove dynamics s entry with
      | stays => exact fun _ => rfl
      | leaves => exact fun _ => if_neg hStands
      | crosses toUid => exact fun hReaches => (if_neg hReaches).trans (if_neg hStands)
    simp [hMark]
  cellwise t u entry uid h := by rw [findTrackSection_occupy, findTrackSection_occupy, h]

section Tick

variable {dynamics : TrainDynamics φ} {w w' : World φ}

theorem visits_of_standsOn {state : EngineState} {entry : TrainEntry φ} {uid : UID}
    (h : StandsOn (ticked dynamics state entry) uid) : Visits dynamics state entry uid :=
  Or.inr ((ticked_sim state entry).1.symm.trans h)

def EndsOn (dynamics : TrainDynamics φ) (state : EngineState) (entry : TrainEntry φ) (uid : UID) : Prop :=
  (trainMove dynamics state entry).destination entry.sim.currentSectionUid = uid ∧
    trainMove dynamics state entry ≠ .leaves

/-- A train that has a part in a section and does not end there leaves it bare. -/
theorem mark_of_visits {state : EngineState} {entry : TrainEntry φ} {uid : UID}
    (hVisit : Visits dynamics state entry uid) (hAway : ¬ EndsOn dynamics state entry uid) (sec : TrackSection) :
    (trainMove dynamics state entry).mark entry uid sec = sec.vacant := by
  unfold EndsOn at hAway
  cases hMove : trainMove dynamics state entry with
  | stays =>
    rw [hMove] at hAway
    refine absurd ⟨hVisit.elim id fun hTo => ?_, by simp⟩ hAway
    rwa [hMove] at hTo
  | leaves =>
    have hStands : entry.sim.currentSectionUid = uid := hVisit.elim id fun hTo => by rwa [hMove] at hTo
    rw [TrainMove.mark, if_pos hStands.symm]
  | crosses toUid =>
    have hTo : ¬ uid = toUid := fun hTo => hAway (by rw [hMove]; exact ⟨hTo.symm, by simp⟩)
    have hStands : entry.sim.currentSectionUid = uid :=
      hVisit.elim id fun h => absurd (by rw [hMove] at h; exact h.symm) hTo
    rw [TrainMove.mark, if_neg hTo, if_pos hStands.symm]

/-- A section that one train visits shows that train if it ends its tick there. -/
theorem shows_of_visits (h : OneTrainEach w) (hStep : w.step dynamics .tickTrains = some w') {uid : UID}
    (hOnce : TouchedOnce (Visits dynamics w.state) uid w.fleet) {entry : TrainEntry φ} (hEntry : entry ∈ w.fleet)
    (hVisit : Visits dynamics w.state entry uid) {held : TrackOccupancy × Int}
    (hHeld : (sectionOccupancy uid).read w'.state = some held) : Shows w'.fleet uid held := by
  obtain ⟨hState, hFleet, -, -⟩ := World.step_tickTrains hStep
  obtain ⟨hTo, hAxles, hGone⟩ := @ticked_sim φ dynamics w.state entry
  have hRead : (sectionOccupancy uid).read w'.state = (w.state.findTrackSection uid).map fun ts =>
      (((trainMove dynamics w.state entry).mark entry uid ts).occupancy,
        ((trainMove dynamics w.state entry).mark entry uid ts).axleCount) := by
    simp only [sectionOccupancy]
    rw [hState, (footprint_occupy dynamics w.state).read_foldl_of_touches hOnce hEntry hVisit,
      findTrackSection_occupy, Option.map_map]
    rfl
  rw [hHeld] at hRead
  obtain ⟨sec, hFind, hMark⟩ := Option.map_eq_some_iff.mp hRead.symm
  have hBefore := h.shows uid (sec.occupancy, sec.axleCount) (by simp [sectionOccupancy, hFind])
  have hOnly : ∀ e ∈ w'.fleet, StandsOn e uid → e = ticked dynamics w.state entry := by
    intro e he hStands
    rw [hFleet] at he
    obtain ⟨entry', hEntry', rfl⟩ := List.mem_map.mp (List.mem_filter.mp he).1
    rw [hOnce.eq_of_touches hEntry' hEntry (visits_of_standsOn hStands) hVisit]
  have hMem : ticked dynamics w.state entry ∈ w'.fleet ↔ trainMove dynamics w.state entry ≠ .leaves := by
    rw [hFleet, List.mem_filter, hGone]
    simp [h.staying entry hEntry, List.mem_map_of_mem hEntry]
  -- A train that stays or arrives is shown by the section; one that leaves or crosses out leaves it bare.
  have hShown : StandsOn (ticked dynamics w.state entry) uid → trainMove dynamics w.state entry ≠ .leaves →
      held = (.occupied, entry.sim.totalAxles) → Shows w'.fleet uid held := by
    intro hStands hStays hEq
    refine ⟨fun e he hStands' => ?_, fun hNone => absurd hStands (hNone _ (hMem.mpr hStays))⟩
    rw [hOnly e he hStands', hEq, hAxles]
  have hBare : (StandsOn (ticked dynamics w.state entry) uid → trainMove dynamics w.state entry = .leaves) →
      held = (.free, 0) → Shows w'.fleet uid held := by
    intro hLeft hEq
    refine ⟨fun e he hStands => ?_, fun _ => hEq⟩
    obtain rfl := hOnly e he hStands
    exact absurd (hLeft hStands) (hMem.mp he)
  by_cases hEnds : EndsOn dynamics w.state entry uid
  · refine hShown (hTo.trans hEnds.1) hEnds.2 ?_
    obtain ⟨hUid, hStays⟩ := hEnds
    cases hMove : trainMove dynamics w.state entry with
    | stays =>
      rw [hMove] at hMark hUid
      rw [← hBefore.train entry hEntry hUid, ← hMark]
      rfl
    | leaves => exact absurd hMove hStays
    | crosses toUid =>
      rw [hMove] at hMark hUid
      rw [← hMark, TrainMove.mark, if_pos (show uid = toUid from hUid.symm)]
  · refine hBare (fun hStands => ?_) ?_
    · by_contra hStays
      exact hEnds ⟨hTo.symm.trans hStands, hStays⟩
    · rw [← hMark, mark_of_visits hVisit hEnds]
      rfl

theorem OneTrainEach.tick (h : OneTrainEach w) (hSolo : EachForOneTrain dynamics w .tickTrains)
    (hStep : w.step dynamics .tickTrains = some w') : OneTrainEach w' := by
  obtain ⟨hState, hFleet, hSame, -⟩ := World.step_tickTrains hStep
  refine ⟨fun uid held hHeld => ?_, fun uid hSome => ?_, fun entry hEntry => ?_⟩
  · have hSome : (w.state.findTrackSection uid).isSome := by
      obtain ⟨sec, hFind, -⟩ := Option.map_eq_some_iff.mp hHeld
      rw [← hSame.isSome_find, hFind]
      rfl
    by_cases hVisited : ∃ entry ∈ w.fleet, Visits dynamics w.state entry uid
    · obtain ⟨entry, hEntry, hVisit⟩ := hVisited
      exact shows_of_visits h hStep (hSolo uid hSome) hEntry hVisit hHeld
    · have hUntouched : ∀ entry ∈ w.fleet, ¬ Visits dynamics w.state entry uid :=
        fun entry hEntry hVisit => hVisited ⟨entry, hEntry, hVisit⟩
      have hRead : w'.state.findTrackSection uid = w.state.findTrackSection uid := by
        rw [hState, (footprint_occupy dynamics w.state).read_foldl_of_untouched hUntouched]
      have hBefore := h.shows uid held (by rw [← hHeld]; simp [sectionOccupancy, hRead])
      refine ⟨fun e he hStands => ?_, fun _ => hBefore.bare ?_⟩
      · rw [hFleet] at he
        obtain ⟨entry, hEntry, rfl⟩ := List.mem_map.mp (List.mem_filter.mp he).1
        exact absurd (visits_of_standsOn hStands) (hUntouched entry hEntry)
      · exact fun entry hEntry hStands => hUntouched entry hEntry (Or.inl hStands)
  · rw [hSame.isSome_find] at hSome
    rw [hFleet]
    refine List.Pairwise.filter _ (List.pairwise_map.mpr ((hSolo uid hSome).imp ?_))
    rintro entry other hApart ⟨hStands, hStands'⟩
    exact hApart ⟨visits_of_standsOn hStands, visits_of_standsOn hStands'⟩
  · rw [hFleet] at hEntry
    simpa using (List.mem_filter.mp hEntry).2

end Tick

/-! ## Every step -/

section Step

variable {dynamics : TrainDynamics φ} {w w' : World φ}

/-- Apart from the fleet, nothing moves a train and, short of a reset, nothing changes an occupancy. -/
theorem quiet_step {a : Action φ} (hNoReset : NoReset w a) (hCommand : ∀ cmd, a ≠ .fleetCommand cmd)
    (hTick : a ≠ .tickTrains) (hStep : w.step dynamics a = some w') : w'.fleet = w.fleet ∧
      ∀ uid, (sectionOccupancy uid).read w'.state = (sectionOccupancy uid).read w.state := by
  cases a with
  | command cmd =>
    obtain ⟨-, rfl⟩ := World.step_command.mp hStep
    exact ⟨rfl, fun uid => (sectionOccupancy uid).read_foldl_of_silent w.state (hNoReset uid)⟩
  | onTick =>
    cases hStep
    refine ⟨rfl, fun uid => (sectionOccupancy uid).read_foldl_of_silent w.state fun c hc => ?_⟩
    exact sectionOccupancyWrite_of_isRouteSide uid (isRouteSide_onTick c hc)
  | advanceTick =>
    cases hStep
    exact ⟨rfl, fun uid => rfl⟩
  | fleetCommand cmd => exact absurd rfl (hCommand cmd)
  | tickTrains => exact absurd rfl hTick

theorem OneTrainEach.step {a : Action φ} (h : OneTrainEach w) (hNoReset : NoReset w a)
    (hSolo : EachForOneTrain dynamics w a) (hStep : w.step dynamics a = some w') : OneTrainEach w' := by
  cases a with
  | fleetCommand cmd =>
    obtain ⟨hCommand, -⟩ := World.step_fleetCommand.mp hStep
    cases cmd with
    | spawn initial fromUid => exact h.spawn hCommand
    | despawn trainUid => exact h.despawn hCommand
  | tickTrains => exact h.tick hSolo hStep
  | command | onTick | advanceTick =>
    obtain ⟨hFleet, hRead⟩ := quiet_step hNoReset (by simp) (by simp) hStep
    exact h.congr hFleet hRead

end Step

end Invariant

end Symulator.Trains
