import Symulator.Srk.BlockSections
import Symulator.Validation.Layer1Validator

/-! # Trains on known track

A train whose next node is neither a section nor a switch is at a world edge and is taken off there. Behind a
switch the next node is not looked up: a leg may end at a boundary node, and a train led to it goes on to a
section that does not exist.
-/

namespace Symulator.Trains

open Symulator.Library Symulator.Engine Symulator.Srk Symulator.Validation

set_option autoImplicit false

section Moves

variable {φ : Type} (dynamics : TrainDynamics φ)

/-- A boundary, or a neighbour that was not loaded. -/
def isEdge (state : EngineState) (uid : UID) : Bool :=
  uid.value ≠ 0 ∧ (state.findTrackSection uid).isNone ∧ (state.findSwitch uid).isNone

/-- The train runs up to an edge, or over a switch on to one. -/
def reachesEdge (state : EngineState) (entry : TrainEntry φ) : Bool :=
  match state.findTrackSection entry.sim.currentSectionUid with
  | none => false
  | some sec =>
    match trainMove dynamics state entry with
    | .crosses toUid => (state.findTrackSection toUid).isNone
    | .stays | .leaves =>
      isEdge state (aheadPort sec entry.fromUid).neighborUid ∧
        dynamics.positionM (ticked dynamics state entry).sim.physics ≥ sec.lengthM - 1 / 1000

/-- A tick takes off the trains that reach an edge, and no other; the section of each is free unless another
train crosses into it. -/
structure EdgeCleared (w w' : World φ) : Prop where
  removed : w'.fleet =
    (w.fleet.filter fun entry => ¬ reachesEdge dynamics w.state entry).map (ticked dynamics w.state)
  freed : ∀ entry ∈ w.fleet, reachesEdge dynamics w.state entry = true →
    ∀ sec, w'.state.findTrackSection entry.sim.currentSectionUid = some sec → sec.occupancy = .free ∨
      ∃ other ∈ w.fleet, trainMove dynamics w.state other = .crosses entry.sim.currentSectionUid

def ClearsEdges (w : World φ) (a : Action φ) (w' : World φ) : Prop :=
  a = .tickTrains → EdgeCleared dynamics w w'

omit dynamics in
def OnKnownTrack (w : World φ) : Prop :=
  ∀ entry ∈ w.fleet, (w.state.findTrackSection entry.sim.currentSectionUid).isSome = true

/-- No train crosses to a boundary node of the loaded world. -/
def KeepsOffBoundaries (world : EngineState) (w : World φ) (a : Action φ) : Prop :=
  a = .tickTrains → ∀ entry ∈ w.fleet, ∀ toUid, trainMove dynamics w.state entry = .crosses toUid →
    ¬ ((world.findBoundaryNode toUid).isSome = true ∧ (world.findTrackSection toUid).isSome = false)

/-- Loaded from scenarios that both validators accept, and no train yet. -/
structure Validated (w : World φ) : Prop where
  loaded : ∃ dirs results, loadWorld {} dirs = .ok (w.state, results) ∧
    ∀ dir ∈ dirs, Layer1.Accepted dir ∧ Validation.Accepted dir
  noTrain : w.fleet = []

variable {dynamics}

theorem next_of_crosses {state : EngineState} {entry : TrainEntry φ} {toUid : UID}
    (h : trainMove dynamics state entry = .crosses toUid) :
    (resolveNextSection state entry.sim.currentSectionUid entry.fromUid).sectionUid = some toUid := by
  unfold trainMove at h
  split at h
  · cases h
  · rename_i sec hFind
    rcases @tick_ahead φ dynamics state entry sec with
      ⟨next, physics, overshootM, hNext, -, hTick⟩ | ⟨physics, hTick⟩
    · simp only [hTick] at h
      cases h
      exact hNext
    · simp only [hTick] at h
      split at h <;> cases h

theorem destination_cases {state : EngineState} {currentUid fromUid toUid : UID}
    (h : (resolveNextSection state currentUid fromUid).sectionUid = some toUid) :
    (state.findTrackSection toUid).isSome = true ∨ toUid.value ≠ 0 ∧ ∃ u sw, state.findSwitch u = some sw ∧
      ∃ leg ∈ [sw.trunk, sw.straight, sw.divergent], leg.neighborUid = toUid := by
  obtain ⟨sec, -, ⟨-, hSection, -⟩ | ⟨-, sw, hFind, -, hNonzero, hLeg⟩⟩ := ahead_of_sectionUid h
  · exact Or.inl hSection
  · exact Or.inr ⟨hNonzero, _, sw, hFind, hLeg⟩

/-- In a validated world a train crosses into a known section or on to a boundary node. -/
theorem Validated.destination {world w : World φ} (h : Validated world)
    (hTopology : w.state.topology = world.state.topology) {entry : TrainEntry φ} {toUid : UID}
    (hCrosses : trainMove dynamics w.state entry = .crosses toUid) :
    (w.state.findTrackSection toUid).isSome = true ∨ (world.state.findBoundaryNode toUid).isSome = true := by
  obtain ⟨dirs, results, hLoad, hAccepted⟩ := h.loaded
  rcases destination_cases (next_of_crosses hCrosses) with hSome | ⟨hNonzero, u, sw, hFind, leg, hLeg, rfl⟩
  · exact Or.inl hSome
  · have hSwitch := findSwitch_topology hTopology u
    rw [hFind, Option.map_some] at hSwitch
    obtain ⟨sw₀, hFind₀, hSame⟩ := Option.map_eq_some_iff.mp hSwitch.symm
    have hLegs : ∃ leg₀ ∈ [sw₀.trunk, sw₀.straight, sw₀.divergent], leg₀.neighborUid = leg.neighborUid := by
      simp only [List.mem_cons, List.not_mem_nil, or_false] at hLeg
      rcases hLeg with rfl | rfl | rfl
      · exact ⟨sw₀.trunk, by simp, congrArg SwitchTopology.trunk hSame⟩
      · exact ⟨sw₀.straight, by simp, congrArg SwitchTopology.straight hSame⟩
      · exact ⟨sw₀.divergent, by simp, congrArg SwitchTopology.divergent hSame⟩
    obtain ⟨leg₀, hLeg₀, hNeighbor⟩ := hLegs
    rw [← hNeighbor] at hNonzero ⊢
    rcases leg_of_accepted hLoad (fun dir hDir => (hAccepted dir hDir).2) hFind₀ hLeg₀ with hZero | hSome | hNode
    · exact absurd hZero hNonzero
    · exact Or.inl ((isSome_findTrackSection hTopology _).trans hSome)
    · exact Or.inr hNode

/-! ## One tick -/

theorem isBoundaryCrossing_eq {state : EngineState} {currentUid fromUid : UID} {sec : TrackSection}
    (hFind : state.findTrackSection currentUid = some sec) :
    (resolveNextSection state currentUid fromUid).isBoundaryCrossing =
      isEdge state (aheadPort sec fromUid).neighborUid := by
  simp only [resolveNextSection, hFind, isEdge]
  generalize (aheadPort sec fromUid).neighborUid = nextUid
  by_cases hZero : nextUid.value = 0
  · simp [hZero]
  · cases hSection : state.findTrackSection nextUid with
    | some next => simp [hZero]
    | none =>
      cases hSwitch : state.findSwitch nextUid with
      | some sw => simp [hZero, isBoundaryCrossing_traverseSwitch]
      | none => simp [hZero]

theorem leaves_iff {state : EngineState} {entry : TrainEntry φ} {sec : TrackSection}
    (hFind : state.findTrackSection entry.sim.currentSectionUid = some sec)
    (hStaying : entry.pendingBoundaryRemoval = false)
    (hInside : ∀ toUid, trainMove dynamics state entry ≠ .crosses toUid) :
    trainMove dynamics state entry = .leaves ↔ isEdge state (aheadPort sec entry.fromUid).neighborUid = true ∧
      dynamics.positionM (ticked dynamics state entry).sim.physics ≥ sec.lengthM - 1 / 1000 := by
  rw [← isBoundaryCrossing_eq hFind]
  unfold ticked tickTrain trainMove at *
  simp only [hFind] at hInside ⊢
  rcases @tick_ahead φ dynamics state entry sec with
    ⟨next, physics, overshootM, -, -, hTick⟩ | ⟨physics, hTick⟩
  · simp only [hTick] at hInside
    exact absurd rfl (hInside next)
  · simp [hTick, hStaying]

/-- The trains that reach an edge are those that leave, as long as every train crosses into a known section. -/
theorem reachesEdge_iff_leaves {state : EngineState} {entry : TrainEntry φ}
    (hSome : (state.findTrackSection entry.sim.currentSectionUid).isSome = true)
    (hStaying : entry.pendingBoundaryRemoval = false)
    (hKnown : ∀ toUid, trainMove dynamics state entry = .crosses toUid →
      (state.findTrackSection toUid).isSome = true) :
    reachesEdge dynamics state entry = true ↔ trainMove dynamics state entry = .leaves := by
  obtain ⟨sec, hFind⟩ := Option.isSome_iff_exists.mp hSome
  cases hMove : trainMove dynamics state entry with
  | crosses toUid => simp [reachesEdge, hFind, hMove, Option.ne_none_iff_isSome, hKnown toUid hMove]
  | stays | leaves =>
    have hLeaves := @leaves_iff φ dynamics state entry sec hFind hStaying (by simp [hMove])
    rw [hMove] at hLeaves
    rw [hLeaves]
    simp only [reachesEdge, hFind, hMove, Bool.decide_and, Bool.and_eq_true, decide_eq_true_eq]

theorem free_foldl {state : EngineState} {uid : UID} {entries : List (TrainEntry φ)}
    (hNone : ∀ entry ∈ entries, trainMove dynamics state entry ≠ .crosses uid) (t : EngineState)
    (hLeaves : ∃ entry ∈ entries, trainMove dynamics state entry = .leaves ∧ entry.sim.currentSectionUid = uid) :
    ∀ sec, (entries.foldl (fun t entry => occupy entry t (trainMove dynamics state entry)) t).findTrackSection uid =
      some sec → sec.occupancy = .free := by
  refine @foldl_of_mended _ _ (fun t entry => occupy entry t (trainMove dynamics state entry))
    (fun t => ∀ sec, t.findTrackSection uid = some sec → sec.occupancy = .free)
    (fun entry => trainMove dynamics state entry = .crosses uid)
    (fun entry => trainMove dynamics state entry = .leaves ∧ entry.sim.currentSectionUid = uid)
    ?_ ?_ entries ?_ t (Or.inr hLeaves)
  · rintro t entry ⟨hMove, hStands⟩ sec hFind
    rw [findTrackSection_occupy, hMove] at hFind
    obtain ⟨before, -, rfl⟩ := Option.map_eq_some_iff.mp hFind
    rw [TrainMove.mark, if_pos hStands.symm]
    rfl
  · intro t entry hFree hOther sec hFind
    rw [findTrackSection_occupy] at hFind
    obtain ⟨before, hBefore, rfl⟩ := Option.map_eq_some_iff.mp hFind
    cases hMove : trainMove dynamics state entry with
    | stays => exact hFree before hBefore
    | leaves =>
      rw [TrainMove.mark]
      split
      · rfl
      · exact hFree before hBefore
    | crosses toUid =>
      rw [TrainMove.mark, if_neg fun hTo => hOther (by rw [hMove, hTo])]
      split
      · rfl
      · exact hFree before hBefore
  · rintro before entry after hSplit hCrosses
    exact absurd hCrosses (hNone entry (by simp [hSplit]))

variable {w w' : World φ}

theorem edgeCleared_of_known (hKnown : OnKnownTrack w)
    (hStaying : ∀ entry ∈ w.fleet, entry.pendingBoundaryRemoval = false)
    (hInto : ∀ entry ∈ w.fleet, ∀ toUid, trainMove dynamics w.state entry = .crosses toUid →
      (w.state.findTrackSection toUid).isSome = true)
    (hStep : w.step dynamics .tickTrains = some w') : EdgeCleared dynamics w w' := by
  obtain ⟨hState, hFleet, -, -⟩ := World.step_tickTrains hStep
  have hReaches : ∀ entry ∈ w.fleet,
      reachesEdge dynamics w.state entry = true ↔ trainMove dynamics w.state entry = .leaves :=
    fun entry hEntry => reachesEdge_iff_leaves (hKnown entry hEntry) (hStaying entry hEntry) (hInto entry hEntry)
  constructor
  · rw [hFleet, List.filter_map]
    congr 1
    refine List.filter_congr fun entry hEntry => ?_
    obtain ⟨-, -, hGone⟩ := @ticked_sim φ dynamics w.state entry
    simp [hGone, hStaying entry hEntry, hReaches entry hEntry]
  · intro entry hEntry hEdge sec hFind
    by_cases hOther : ∃ other ∈ w.fleet, trainMove dynamics w.state other = .crosses entry.sim.currentSectionUid
    · exact Or.inr hOther
    · refine Or.inl (free_foldl (fun other hMem hInto => hOther ⟨other, hMem, hInto⟩) w.state
        ⟨entry, hEntry, (hReaches entry hEntry).mp hEdge, rfl⟩ sec ?_)
      rw [← hState]
      exact hFind

/-! ## Every step -/

/-- Every train is on a section of the loaded topology and has not been marked for removal. -/
structure OnTopology (world : EngineState) (w : World φ) : Prop where
  topology : w.state.topology = world.topology
  known : OnKnownTrack w
  staying : ∀ entry ∈ w.fleet, entry.pendingBoundaryRemoval = false

theorem OnTopology.step {world : EngineState} {a : Action φ} (h : OnTopology world w)
    (hStep : w.step dynamics a = some w') (hKnown : OnKnownTrack w') : OnTopology world w' := by
  refine ⟨(World.topology_step hStep).trans h.topology, hKnown, fun entry hEntry => ?_⟩
  by_cases hTick : a = .tickTrains
  · rw [hTick] at hStep
    obtain ⟨-, hFleet, -, -⟩ := World.step_tickTrains hStep
    rw [hFleet] at hEntry
    simpa using (List.mem_filter.mp hEntry).2
  · rcases World.mem_fleet_step hTick hStep hEntry with hEntry | ⟨initial, fromUid, -, rfl, -⟩
    · exact h.staying entry hEntry
    · rfl

/-- Away from the tick of the trains no train comes to be anywhere new, but for one that is spawned on a section. -/
theorem OnKnownTrack.step {a : Action φ} (h : OnKnownTrack w) (hTick : a ≠ .tickTrains)
    (hStep : w.step dynamics a = some w') : OnKnownTrack w' := by
  intro entry hEntry
  rw [isSome_findTrackSection (World.topology_step hStep)]
  rcases World.mem_fleet_step hTick hStep hEntry with hEntry | ⟨initial, fromUid, -, rfl, sec, hFind, -⟩
  · exact h entry hEntry
  · rw [hFind]
    rfl

theorem onKnownTrack_tick_iff (hKnown : OnKnownTrack w)
    (hStaying : ∀ entry ∈ w.fleet, entry.pendingBoundaryRemoval = false)
    (hStep : w.step dynamics .tickTrains = some w') : OnKnownTrack w' ↔
      ∀ entry ∈ w.fleet, ∀ toUid, trainMove dynamics w.state entry = .crosses toUid →
        (w.state.findTrackSection toUid).isSome = true := by
  obtain ⟨-, hFleet, hSame, -⟩ := World.step_tickTrains hStep
  constructor
  · intro h entry hEntry toUid hMove
    obtain ⟨hTo, -, hGone⟩ := @ticked_sim φ dynamics w.state entry
    have hMem : ticked dynamics w.state entry ∈ w'.fleet := by
      rw [hFleet]
      exact List.mem_filter.mpr ⟨List.mem_map_of_mem hEntry, by simp [hGone, hMove, hStaying entry hEntry]⟩
    have hSome := h _ hMem
    rwa [hSame.isSome_find, hTo, hMove] at hSome
  · intro hInto moved hMoved
    rw [hFleet] at hMoved
    obtain ⟨entry, hEntry, rfl⟩ := List.mem_map.mp (List.mem_filter.mp hMoved).1
    rw [hSame.isSome_find, (ticked_sim w.state entry).1]
    cases hMove : trainMove dynamics w.state entry with
    | stays | leaves => exact hKnown entry hEntry
    | crosses toUid => exact hInto entry hEntry toUid hMove

theorem step_iff_keepsOffBoundaries {world : World φ} {a : Action φ} (hValid : Validated world)
    (h : OnTopology world.state w) (hStep : w.step dynamics a = some w') :
    ClearsEdges dynamics w a w' ∧ OnKnownTrack w' ↔ KeepsOffBoundaries dynamics world.state w a := by
  by_cases hTick : a = .tickTrains
  · rw [hTick] at hStep
    have hInto := onKnownTrack_tick_iff h.known h.staying hStep
    constructor
    · rintro ⟨-, hKnown⟩ - entry hEntry toUid hMove ⟨-, hNone⟩
      have hSome := hInto.mp hKnown entry hEntry toUid hMove
      rw [isSome_findTrackSection h.topology, hNone] at hSome
      cases hSome
    · intro hKeeps
      have hCrosses : ∀ entry ∈ w.fleet, ∀ toUid, trainMove dynamics w.state entry = .crosses toUid →
          (w.state.findTrackSection toUid).isSome = true := by
        intro entry hEntry toUid hMove
        rcases hValid.destination h.topology hMove with hSome | hNode
        · exact hSome
        · by_contra hNone
          rw [Bool.not_eq_true, isSome_findTrackSection h.topology] at hNone
          exact hKeeps hTick entry hEntry toUid hMove ⟨hNode, hNone⟩
      exact ⟨fun _ => edgeCleared_of_known h.known h.staying hCrosses hStep, hInto.mpr hCrosses⟩
  · exact ⟨fun _ hTick' => absurd hTick' hTick, fun _ => ⟨fun hTick' => absurd hTick' hTick, h.known.step hTick hStep⟩⟩

/-- In a validated world all trains stay on known track and are taken off at its edges exactly when none runs over
a switch on to a leg that ends at a boundary node. -/
theorem knownTrack_iff {w₀ : World φ} {actions : List (Action φ)} (h : Validated w₀)
    (hRun : run (World.step dynamics) w₀ actions = some w) :
    Always (World.step dynamics) OnKnownTrack w₀ actions ∧
        EachStep (World.step dynamics) (ClearsEdges dynamics) w₀ actions ↔
      Guarded (World.step dynamics) (KeepsOffBoundaries dynamics w₀.state) w₀ actions := by
  have hStart : OnTopology w₀.state w₀ := ⟨rfl, by simp [OnKnownTrack, h.noTrain], by simp [h.noTrain]⟩
  rw [← eachStep_and_iff hStart.known]
  refine eachStep_iff_guarded_within (fun u a u' => ClearsEdges dynamics u a u' ∧ OnKnownTrack u')
    (OnTopology w₀.state) (fun _ _ => True) (KeepsOffBoundaries dynamics w₀.state) ?_ ?_ hStart
    (guarded_of_forall_mem (fun _ _ _ => trivial) w₀) hRun
  · intro u a u' hu _ hStep
    exact step_iff_keepsOffBoundaries h hu hStep
  · intro u a u' hu _ hGuard hStep
    exact hu.step hStep ((step_iff_keepsOffBoundaries h hu hStep).mpr hGuard).2

end Moves

/-- Section 1 leads from boundary node 1 over switch 1 straight on to boundary node 2, and diverging to section 2. -/
def edgeStation : ScenarioDir where
  path := "station"
  metaJson := { stationSid := "ST", controlSystem := "estw_ml8" }
  topologyJson :=
    { boundaryNodes := [1, 2, 3].map fun n => { uid := .unsigned (stationObject .boundaryNode n), pid := "node" }
      trackSections :=
        [{ TrackSectionDoc.between (stationObject .trackSection 1) (stationObject .boundaryNode 1)
              (stationObject .switch 1) with pid := "tor1", lengthM := some 100 },
          { TrackSectionDoc.between (stationObject .trackSection 2) (stationObject .switch 1)
              (stationObject .boundaryNode 3) with pid := "tor2", lengthM := some 100 }]
      switches :=
        [{ SwitchDoc.joining (stationObject .switch 1) (stationObject .trackSection 1) (stationObject .boundaryNode 2)
            (stationObject .trackSection 2) with pid := "zwr1" }] }

def edgeTrack : World (Rat × Rat) where
  state := loadedState edgeStation
  control := { kind := .ml8 }

theorem validated_edgeTrack : Validated edgeTrack where
  loaded := by
    have hLayer1 : (Layer1.validate edgeStation.topologyJson {}).toOption.any ValidationResult.ok = true := by
      decide +kernel
    have hLayer2 : (validate 1 edgeStation.topologyJson {}).ok = true := by decide +kernel
    refine ⟨[edgeStation], _, rfl, fun dir hDir => ?_⟩
    obtain rfl := List.mem_singleton.mp hDir
    refine ⟨?_, 1, hLayer2⟩
    cases hResult : Layer1.validate edgeStation.topologyJson {} with
    | error e =>
      rw [hResult] at hLayer1
      cases hLayer1
    | ok result =>
      rw [hResult] at hLayer1
      exact ⟨result, hResult, hLayer1⟩
  noTrain := rfl

def edgeRun (fromUid : Nat) : List (Action (Rat × Rat)) :=
  [World.runOn 51 (stationObject .trackSection 1) fromUid 20, .tickTrains]

/-- A train that runs to boundary node 1 is taken off there. -/
theorem knownTrack_edge : Always (World.step World.steadyTrains) OnKnownTrack edgeTrack
      (edgeRun (stationObject .switch 1)) ∧
    EachStep (World.step World.steadyTrains) (ClearsEdges World.steadyTrains) edgeTrack
      (edgeRun (stationObject .switch 1)) := by
  have hRun : (run (World.step World.steadyTrains) edgeTrack (edgeRun (stationObject .switch 1))).isSome = true := by
    decide +kernel
  have hMoves : (edgeTrack.step World.steadyTrains
      (World.runOn 51 (stationObject .trackSection 1) (stationObject .switch 1) 20)).all (fun w =>
        w.fleet.all fun entry => trainMove World.steadyTrains w.state entry = .leaves) = true := by decide +kernel
  obtain ⟨w, hRun⟩ := Option.isSome_iff_exists.mp hRun
  refine (knownTrack_iff validated_edgeTrack hRun).mpr ?_
  rw [edgeRun]
  refine ⟨fun hTick => (by cases hTick), fun u hStep => ⟨?_, fun _ _ => trivial⟩⟩
  intro _ entry hEntry toUid hMove
  have hLeaves := List.all_eq_true.mp ((Option.all_eq_true _ _).mp hMoves u hStep) entry hEntry
  rw [hMove] at hLeaves
  cases hLeaves

/-- A train that runs to boundary node 2 goes on to a section that does not exist. -/
theorem boundaryLeg_strands : ¬ ∀ (w₀ w : World (Rat × Rat)) (actions : List (Action (Rat × Rat))), Validated w₀ →
    run (World.step World.steadyTrains) w₀ actions = some w →
      Always (World.step World.steadyTrains) OnKnownTrack w₀ actions ∧
      EachStep (World.step World.steadyTrains) (ClearsEdges World.steadyTrains) w₀ actions := by
  intro h
  have hLost : (edgeTrack.step World.steadyTrains
      (World.runOn 51 (stationObject .trackSection 1) (stationObject .boundaryNode 1) 20)).any (fun u =>
        (u.step World.steadyTrains .tickTrains).any fun w => w.fleet.any fun entry =>
          (w.state.findTrackSection entry.sim.currentSectionUid).isNone) = true := by decide +kernel
  obtain ⟨u, hSpawn, hTick⟩ := (Option.any_eq_true _ _).mp hLost
  obtain ⟨w, hTick, hOff⟩ := (Option.any_eq_true _ _).mp hTick
  obtain ⟨entry, hEntry, hNone⟩ := List.any_eq_true.mp hOff
  have hRun : run (World.step World.steadyTrains) edgeTrack (edgeRun (stationObject .boundaryNode 1)) = some w :=
    run_cons.mpr ⟨u, hSpawn, run_cons.mpr ⟨w, hTick, rfl⟩⟩
  have hKnown := (((h edgeTrack w _ validated_edgeTrack hRun).1.2 u hSpawn).2 w hTick) entry hEntry
  rw [Option.isNone_iff_eq_none.mp hNone] at hKnown
  cases hKnown

end Symulator.Trains
