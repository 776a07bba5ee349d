import Mathlib.Algebra.Order.BigOperators.Group.List
import Mathlib.Algebra.Order.Ring.Int
import Symulator.Trains.OneTrainEach

/-! # Occupancy follows the trains

Spawning, crossing, leaving and despawning overwrite the occupancy of a section rather than count it. It
shows the trains as long as no two of them have to do with one section in the same tick: then each section
is written by the one train that enters or leaves it, whatever the order of the fleet.
-/

namespace Symulator.Trains

open Symulator.Library Symulator.Engine Symulator.Srk

set_option autoImplicit false

section Statement

variable {φ : Type} (dynamics : TrainDynamics φ)

omit dynamics in
def axlesOn (fleet : List (TrainEntry φ)) (uid : UID) : Int :=
  ((fleet.filter fun entry => entry.sim.currentSectionUid = uid).map fun entry => entry.sim.totalAxles).sum

omit dynamics in
/-- A section is occupied exactly when a train stands on it, and counts the axles of the trains on it. -/
def OccupancyExact (w : World φ) : Prop :=
  ∀ uid sec, w.state.findTrackSection uid = some sec →
    (sec.occupancy = .occupied ↔ ∃ entry ∈ w.fleet, entry.sim.currentSectionUid = uid) ∧
      sec.axleCount = axlesOn w.fleet uid

/-- The step comes to the same with the trains stored in any other order. -/
def OrderFree (w : World φ) (a : Action φ) (w' : World φ) : Prop :=
  ∀ fleet : List (TrainEntry φ), fleet.Perm w.fleet →
    ∃ fleet', ({ w with fleet } : World φ).step dynamics a = some { w' with fleet := fleet' } ∧
      fleet'.Perm w'.fleet

omit dynamics in
def WithAxles : Action φ → Prop
  | .fleetCommand (.spawn initial _) => 0 < initial.totalAxles
  | _ => True

end Statement

section Exact

variable {φ : Type} {dynamics : TrainDynamics φ} {w w' : World φ}

theorem OneTrainEach.occupancyExact {w : World φ} (h : OneTrainEach w) : OccupancyExact w := by
  intro uid sec hFind
  have hShows := h.shows uid (sec.occupancy, sec.axleCount) (by simp [sectionOccupancy, hFind])
  by_cases hTrain : ∃ entry ∈ w.fleet, StandsOn entry uid
  · obtain ⟨entry, hEntry, hStands⟩ := hTrain
    obtain ⟨hOccupancy, hAxles⟩ := Prod.mk.inj (hShows.train entry hEntry hStands)
    have hOnly : w.fleet.filter (fun entry => entry.sim.currentSectionUid = uid) = [entry] :=
      (h.alone uid (by simp [hFind])).filter_eq (fun _ => by simp [StandsOn]) hEntry hStands
    rw [hOccupancy, hAxles, axlesOn, hOnly]
    exact ⟨⟨fun _ => ⟨entry, hEntry, hStands⟩, fun _ => rfl⟩, by simp⟩
  · have hNone : ∀ entry ∈ w.fleet, ¬ StandsOn entry uid := fun entry hEntry hStands => hTrain ⟨entry, hEntry, hStands⟩
    obtain ⟨hOccupancy, hAxles⟩ := Prod.mk.inj (hShows.bare hNone)
    have hEmpty : w.fleet.filter (fun entry => entry.sim.currentSectionUid = uid) = [] :=
      List.filter_eq_nil_iff.mpr fun entry hEntry hStands => hNone entry hEntry (by simpa [StandsOn] using hStands)
    rw [hOccupancy, hAxles, axlesOn, hEmpty]
    refine ⟨⟨fun hOccupied => ?_, fun hStands => absurd hStands hTrain⟩, rfl⟩
    cases hOccupied

theorem orderFree_tick (hSolo : EachForOneTrain dynamics w .tickTrains)
    (hStep : w.step dynamics .tickTrains = some w') : OrderFree dynamics w .tickTrains w' := by
  intro fleet hPerm
  obtain ⟨hState, hFleet, hSame, hControl⟩ := World.step_tickTrains hStep
  obtain ⟨permuted, hPermuted⟩ : ∃ permuted, ({ w with fleet } : World φ).step dynamics .tickTrains = some permuted :=
    ⟨_, rfl⟩
  obtain ⟨hState', hFleet', hSame', hControl'⟩ := World.step_tickTrains hPermuted
  have hStates : permuted.state = w'.state := by
    have hBoth : SameTrack w'.state permuted.state := hSame.symm.trans hSame'
    refine hBoth.eq_of_find fun uid => ?_
    rw [hState, hState']
    cases hSome : (w.state.findTrackSection uid).isSome with
    | true =>
      exact ((footprint_occupy dynamics w.state).read_foldl_perm hPerm.symm (hSolo uid hSome) w.state).symm
    | false =>
      rw [← hState, ← hState']
      have hNone := hSame.isSome_find uid
      have hNone' := hSame'.isSome_find uid
      rw [hSome, Option.isSome_eq_false_iff, Option.isNone_iff_eq_none] at hNone hNone'
      rw [hNone, hNone']
  refine ⟨permuted.fleet, ?_, ?_⟩
  · rw [hPermuted, ← hStates, hControl, ← hControl']
  · rw [hFleet, hFleet']
    exact (hPerm.map _).filter _

theorem perm_of_find? {entries : List (TrainEntry φ)} {p : TrainEntry φ → Bool} {entry : TrainEntry φ}
    (h : entries.find? p = some entry) : entries.Perm (entry :: entries.eraseP p) := by
  obtain ⟨hEntry, before, after, rfl, hBefore⟩ := List.find?_eq_some_iff_append.mp h
  rw [List.eraseP_append_right _ (fun e he => by simpa using hBefore e he), List.eraseP_cons_of_pos hEntry]
  exact List.perm_middle

theorem orderFree_step {a : Action φ} (hSolo : EachForOneTrain dynamics w a) (hStep : w.step dynamics a = some w') :
    OrderFree dynamics w a w' := by
  cases a with
  | command cmd =>
    intro fleet hPerm
    obtain ⟨hCheck, rfl⟩ := World.step_command.mp hStep
    exact ⟨fleet, World.step_command.mpr ⟨hCheck, rfl⟩, hPerm⟩
  | onTick | advanceTick =>
    intro fleet hPerm
    cases hStep
    exact ⟨fleet, rfl, hPerm⟩
  | fleetCommand cmd =>
    intro fleet hPerm
    obtain ⟨hCommand, hControl⟩ := World.step_fleetCommand.mp hStep
    cases cmd with
    | spawn initial fromUid =>
      obtain ⟨hFree, hState, hFleet⟩ := spawn_eq_ok.mp hCommand
      refine ⟨fleet ++ [{ sim := initial, fromUid }], World.step_fleetCommand.mpr ⟨?_, hControl⟩, ?_⟩
      · exact spawn_eq_ok.mpr ⟨hFree, hState, rfl⟩
      · rw [hFleet]
        exact hPerm.append_right _
    | despawn trainUid =>
      obtain ⟨entry, hFind, hState, hFleet⟩ := despawn_eq_ok.mp hCommand
      have hUid : entry.sim.trainUid = trainUid := by simpa using List.find?_some hFind
      have hEntry : entry ∈ w.fleet := List.mem_of_find?_eq_some hFind
      have hFind' : fleet.find? (fun entry => entry.sim.trainUid = trainUid) = some entry := by
        cases hFound : fleet.find? (fun entry => entry.sim.trainUid = trainUid) with
        | none =>
          exact absurd (decide_eq_true hUid) (List.find?_eq_none.mp hFound entry (hPerm.mem_iff.mpr hEntry))
        | some other =>
          have hOther : other.sim.trainUid = trainUid := by simpa using List.find?_some hFound
          rw [hSolo other (hPerm.mem_iff.mp (List.mem_of_find?_eq_some hFound)) entry hEntry hOther hUid]
      refine ⟨fleet.eraseP (fun entry => entry.sim.trainUid = trainUid), World.step_fleetCommand.mpr ⟨?_, hControl⟩, ?_⟩
      · exact despawn_eq_ok.mpr ⟨entry, hFind', hState, rfl⟩
      · rw [hFleet, ← List.perm_cons entry]
        exact ((perm_of_find? hFind').symm.trans hPerm).trans (perm_of_find? hFind)
  | tickTrains => exact orderFree_tick hSolo hStep

end Exact

/-! ## Two trains in one section -/

section Clash

variable {φ : Type} {dynamics : TrainDynamics φ} {w w' : World φ}

theorem axlesOn_cons_of_standsOn {entry : TrainEntry φ} {uid : UID} (h : StandsOn entry uid)
    (fleet : List (TrainEntry φ)) : axlesOn (entry :: fleet) uid = entry.sim.totalAxles + axlesOn fleet uid := by
  rw [axlesOn, List.filter_cons_of_pos (by simpa [StandsOn] using h), List.map_cons, List.sum_cons]
  rfl

theorem axlesOn_nonneg {fleet : List (TrainEntry φ)} (h : ∀ entry ∈ fleet, 0 < entry.sim.totalAxles) (uid : UID) :
    0 ≤ axlesOn fleet uid := by
  apply List.sum_nonneg
  intro axles hAxles
  obtain ⟨entry, hEntry, rfl⟩ := List.mem_map.mp hAxles
  exact (h entry (List.mem_of_mem_filter hEntry)).le

theorem axlesOn_perm {fleet fleet' : List (TrainEntry φ)} (h : fleet.Perm fleet') (uid : UID) :
    axlesOn fleet uid = axlesOn fleet' uid := ((h.filter _).map _).sum_eq

/-- Where the order does not matter, any train may be taken for the last one to move. -/
theorem read_of_orderFree (hFree : OrderFree dynamics w .tickTrains w') {entry : TrainEntry φ}
    {rest : List (TrainEntry φ)} (hPerm : w.fleet.Perm (entry :: rest)) {uid : UID}
    (hSome : (w.state.findTrackSection uid).isSome) : ∃ sec, (sectionOccupancy uid).read w'.state =
      some (((trainMove dynamics w.state entry).mark entry uid sec).occupancy,
        ((trainMove dynamics w.state entry).mark entry uid sec).axleCount) := by
  have hLast : (rest ++ [entry]).Perm w.fleet := List.perm_append_comm.trans hPerm.symm
  obtain ⟨fleet', hPermuted, -⟩ := hFree (rest ++ [entry]) hLast
  obtain ⟨hState, -, hSame, -⟩ := World.step_tickTrains hPermuted
  have hFind := findTrackSection_occupy (rest.foldl (fun t e => occupy e t (trainMove dynamics w.state e)) w.state)
    entry (trainMove dynamics w.state entry) uid
  rw [List.foldl_append] at hState
  change w'.state = occupy entry _ _ at hState
  rw [← hState] at hFind
  have hIs := hSame.isSome_find uid
  rw [hSome, hFind, Option.isSome_map] at hIs
  obtain ⟨sec, hSec⟩ := Option.isSome_iff_exists.mp hIs
  exact ⟨sec, by simp [sectionOccupancy, hFind, hSec]⟩

/-- Two trains that end a tick on the same section count there with the axles of both at least. -/
theorem axlesOn_ge_of_both (hAxles : ∀ entry ∈ w.fleet, 0 < entry.sim.totalAxles)
    (hStaying : ∀ entry ∈ w.fleet, entry.pendingBoundaryRemoval = false)
    (hStep : w.step dynamics .tickTrains = some w') {entry other : TrainEntry φ} {rest : List (TrainEntry φ)}
    (hPerm : w.fleet.Perm (entry :: other :: rest)) {uid : UID}
    (hTo : EndsOn dynamics w.state entry uid) (hTo' : EndsOn dynamics w.state other uid) :
    entry.sim.totalAxles + other.sim.totalAxles ≤ axlesOn w'.fleet uid := by
  obtain ⟨-, hFleet, -, -⟩ := World.step_tickTrains hStep
  obtain ⟨hPlace, hOwn, hGone⟩ := @ticked_sim φ dynamics w.state entry
  obtain ⟨hPlace', hOwn', hGone'⟩ := @ticked_sim φ dynamics w.state other
  have hMem : entry ∈ w.fleet ∧ other ∈ w.fleet := ⟨hPerm.mem_iff.mpr (by simp), hPerm.mem_iff.mpr (by simp)⟩
  let others := (rest.map (ticked dynamics w.state)).filter fun entry => ¬ entry.pendingBoundaryRemoval
  have hAfter : w'.fleet.Perm (ticked dynamics w.state entry :: ticked dynamics w.state other :: others) := by
    have hFilter := (hPerm.map (ticked dynamics w.state)).filter fun entry => ¬ entry.pendingBoundaryRemoval
    rw [← hFleet, List.map_cons, List.map_cons,
      List.filter_cons_of_pos (by simp [hGone, hTo.2, hStaying entry hMem.1]),
      List.filter_cons_of_pos (by simp [hGone', hTo'.2, hStaying other hMem.2])] at hFilter
    exact hFilter
  have hOthers : 0 ≤ axlesOn others uid := by
    refine axlesOn_nonneg (fun e he => ?_) uid
    obtain ⟨e, heRest, rfl⟩ := List.mem_map.mp (List.mem_of_mem_filter he)
    rw [(ticked_sim w.state e).2.1]
    exact hAxles e (hPerm.mem_iff.mpr (by simp [heRest]))
  rw [axlesOn_perm hAfter, axlesOn_cons_of_standsOn (hPlace.trans hTo.1),
    axlesOn_cons_of_standsOn (hPlace'.trans hTo'.1), hOwn, hOwn']
  omega

/-- A train that enters a section in which another train has a part is missed or hides the other. -/
theorem not_exact_of_enters (hAxles : ∀ entry ∈ w.fleet, 0 < entry.sim.totalAxles)
    (hStaying : ∀ entry ∈ w.fleet, entry.pendingBoundaryRemoval = false)
    (hStep : w.step dynamics .tickTrains = some w') (hFree : OrderFree dynamics w .tickTrains w')
    {entry other : TrainEntry φ} {rest : List (TrainEntry φ)} (hPerm : w.fleet.Perm (entry :: other :: rest))
    {uid : UID}
    (hSome : (w.state.findTrackSection uid).isSome) (hEnters : trainMove dynamics w.state entry = .crosses uid)
    (hVisit : Visits dynamics w.state other uid) : ¬ OccupancyExact w' := by
  intro hExact
  obtain ⟨sec, hRead⟩ := read_of_orderFree hFree hPerm hSome
  rw [hEnters, TrainMove.mark, if_pos rfl] at hRead
  by_cases hBoth : EndsOn dynamics w.state other uid
  · -- Both end the tick in the section, which counts the axles of one.
    obtain ⟨sec', hFind, hHeld⟩ := Option.map_eq_some_iff.mp hRead
    obtain ⟨-, hCount⟩ := hExact uid sec' hFind
    rw [(Prod.mk.inj hHeld).2] at hCount
    dsimp only at hCount
    have hTwo := axlesOn_ge_of_both hAxles hStaying hStep hPerm ⟨by rw [hEnters]; rfl, by simp [hEnters]⟩ hBoth
    have hPositive := hAxles other (hPerm.mem_iff.mpr (by simp))
    omega
  · -- The other train leaves the section bare when it is the last to move.
    obtain ⟨sec', hRead'⟩ := read_of_orderFree hFree (hPerm.trans (List.Perm.swap other entry rest)) hSome
    rw [mark_of_visits hVisit hBoth, hRead] at hRead'
    cases hRead'

theorem enters_of_visits {entry : TrainEntry φ} {uid : UID} (hVisit : Visits dynamics w.state entry uid)
    (hStands : ¬ StandsOn entry uid) : trainMove dynamics w.state entry = .crosses uid := by
  have hTo := hVisit.resolve_left hStands
  cases hMove : trainMove dynamics w.state entry with
  | stays =>
    rw [hMove] at hTo
    exact absurd hTo hStands
  | leaves =>
    rw [hMove] at hTo
    exact absurd hTo hStands
  | crosses toUid =>
    rw [hMove] at hTo
    exact congrArg TrainMove.crosses hTo

theorem eachForOneTrain_tick (h : OneTrainEach w) (hAxles : ∀ entry ∈ w.fleet, 0 < entry.sim.totalAxles)
    (hStep : w.step dynamics .tickTrains = some w') (hFree : OrderFree dynamics w .tickTrains w')
    (hExact : OccupancyExact w') : EachForOneTrain dynamics w .tickTrains := by
  intro uid hSome
  refine List.pairwise_of_forall_sublist fun {entry other} hSub hVisits => ?_
  obtain ⟨hVisit, hVisit'⟩ := hVisits
  obtain ⟨rest, hPerm⟩ := hSub.exists_perm_append
  have hAlone := (h.alone uid hSome).forall_sublist hSub
  by_cases hStands : StandsOn entry uid
  · have hEnters := enters_of_visits hVisit' fun hStands' => hAlone ⟨hStands, hStands'⟩
    exact not_exact_of_enters hAxles h.staying hStep hFree (hPerm.trans (List.Perm.swap other entry rest)) hSome
      hEnters hVisit hExact
  · exact not_exact_of_enters hAxles h.staying hStep hFree hPerm hSome (enters_of_visits hVisit hStands) hVisit' hExact

/-- Where the order does not matter, trains despawned under one UID are one train. -/
theorem eachForOneTrain_despawn {trainUid : UID} (hFree : OrderFree dynamics w (.fleetCommand (.despawn trainUid)) w') :
    EachForOneTrain dynamics w (.fleetCommand (.despawn trainUid)) := by
  classical
  have hErased : ∀ entry, entry.sim.trainUid = trainUid → ∀ rest, w.fleet.Perm (entry :: rest) →
      rest.Perm w'.fleet := by
    intro entry hUid rest hPerm
    obtain ⟨fleet', hDespawn, hAfter⟩ := hFree (entry :: rest) hPerm.symm
    obtain ⟨hCommand, -⟩ := World.step_fleetCommand.mp hDespawn
    obtain ⟨_, _, _, hFleet⟩ := despawn_eq_ok.mp hCommand
    have hHead : (entry :: rest).eraseP (fun entry => entry.sim.trainUid = trainUid) = rest :=
      List.eraseP_cons_of_pos (decide_eq_true hUid)
    rw [← hHead]
    exact hFleet ▸ hAfter
  intro entry hEntry other hOther hUid hUid'
  have hPerm := List.perm_cons_erase hEntry
  have hPerm' := List.perm_cons_erase hOther
  have hRests := (hErased entry hUid _ hPerm).trans (hErased other hUid' _ hPerm').symm
  have hBoth := (hPerm.symm.trans hPerm').trans (hRests.symm.cons other)
  by_contra hne
  have hCount := hBoth.count_eq entry
  rw [List.count_cons_self, List.count_cons_of_ne (Ne.symm hne)] at hCount
  omega

theorem eachForOneTrain_of_exact {a : Action φ} (h : OneTrainEach w)
    (hAxles : ∀ entry ∈ w.fleet, 0 < entry.sim.totalAxles) (hStep : w.step dynamics a = some w')
    (hFree : OrderFree dynamics w a w') (hExact : OccupancyExact w') : EachForOneTrain dynamics w a := by
  cases a with
  | tickTrains => exact eachForOneTrain_tick h hAxles hStep hFree hExact
  | fleetCommand cmd =>
    cases cmd with
    | spawn initial fromUid => trivial
    | despawn trainUid => exact eachForOneTrain_despawn hFree
  | command cmd => trivial
  | onTick => trivial
  | advanceTick => trivial

theorem axles_step {a : Action φ} (h : ∀ entry ∈ w.fleet, 0 < entry.sim.totalAxles) (hAxles : WithAxles a)
    (hStep : w.step dynamics a = some w') : ∀ entry ∈ w'.fleet, 0 < entry.sim.totalAxles := by
  intro entry hEntry
  obtain rfl | hTick := eq_or_ne a .tickTrains
  · obtain ⟨-, hFleet, -, -⟩ := World.step_tickTrains hStep
    rw [hFleet] at hEntry
    obtain ⟨before, hBefore, rfl⟩ := List.mem_map.mp (List.mem_of_mem_filter hEntry)
    rw [(ticked_sim w.state before).2.1]
    exact h before hBefore
  · obtain hBefore | ⟨initial, fromUid, rfl, rfl, -⟩ := World.mem_fleet_step hTick hStep hEntry
    · exact h entry hBefore
    · exact hAxles

end Clash

/-- From a vacant world, a run without resets in which no two trains have to do with one section in the same
tick keeps the occupancies exact, and its steps do not depend on the order of the trains. Where the trains have
axles these are the only runs that do. -/
theorem occupancy_exact_of_solo {φ : Type} {dynamics : TrainDynamics φ} {w₀ w : World φ} {actions : List (Action φ)}
    (hVacant : Vacant w₀) (hNoReset : Guarded (World.step dynamics) NoReset w₀ actions)
    (hRun : run (World.step dynamics) w₀ actions = some w) :
    (Guarded (World.step dynamics) (EachForOneTrain dynamics) w₀ actions →
      Always (World.step dynamics) OccupancyExact w₀ actions ∧
        EachStep (World.step dynamics) (OrderFree dynamics) w₀ actions) ∧
    ((∀ a ∈ actions, WithAxles a) → Always (World.step dynamics) OccupancyExact w₀ actions →
      EachStep (World.step dynamics) (OrderFree dynamics) w₀ actions →
      Guarded (World.step dynamics) (EachForOneTrain dynamics) w₀ actions) := by
  have hStart := hVacant.oneTrainEach
  constructor
  · intro hSolo
    refine (eachStep_and_iff hStart.occupancyExact).mp
      (eachStep_of_guarded _ OneTrainEach _ (fun w a w' h hGuard hStep => ?_) hStart (hNoReset.and hSolo))
    have hNext := h.step hGuard.1 hGuard.2 hStep
    exact ⟨⟨orderFree_step hGuard.2 hStep, hNext.occupancyExact⟩, hNext⟩
  · intro hAxles hExact hFree
    refine (eachStep_iff_guarded_within (fun w a w' => OrderFree dynamics w a w' ∧ OccupancyExact w')
      (fun w => OneTrainEach w ∧ ∀ entry ∈ w.fleet, 0 < entry.sim.totalAxles) (fun w a => NoReset w a ∧ WithAxles a)
      (EachForOneTrain dynamics) ?_ ?_ ⟨hStart, by simp [hVacant.fleet]⟩
      (hNoReset.and (guarded_of_forall_mem (fun a ha _ => hAxles a ha) w₀)) hRun).mp
      ((eachStep_and_iff hStart.occupancyExact).mpr ⟨hExact, hFree⟩)
    · rintro w a w' ⟨h, hAxles⟩ ⟨hNoReset, -⟩ hStep
      refine ⟨fun ⟨hFree, hExact⟩ => eachForOneTrain_of_exact h hAxles hStep hFree hExact, fun hSolo => ?_⟩
      exact ⟨orderFree_step hSolo hStep, (h.step hNoReset hSolo hStep).occupancyExact⟩
    · rintro w a w' ⟨h, hAxles⟩ ⟨hNoReset, hWith⟩ hSolo hStep
      exact ⟨h.step hNoReset hSolo hStep, axles_step hAxles hWith hStep⟩

theorem vacant_steadyTrack : Vacant World.steadyTrack where
  fleet := rfl
  sections := by
    have hFree : World.steadyTrack.state.trackSections.values.all (fun sec =>
        sec.occupancy = .free ∧ sec.axleCount = 0) = true := by decide +kernel
    intro uid sec hFind
    exact of_decide_eq_true (List.all_eq_true.mp hFree sec (KeyedMap.find_eq_some_iff.mp hFind).1)

/-- A train stands on section 3 while another runs from section 1 to section 2. -/
def besideEachOther : List (Action (Rat × Rat)) := [World.runOn 51 3 2 0, World.runOn 52 1 91 20, .tickTrains]

theorem occupancy_exact_track : ∃ w, run (World.step World.steadyTrains) World.steadyTrack besideEachOther = some w ∧
    w.fleet.map (fun entry => entry.sim.currentSectionUid) = [⟨3⟩, ⟨2⟩] ∧
    Always (World.step World.steadyTrains) OccupancyExact World.steadyTrack besideEachOther ∧
    EachStep (World.step World.steadyTrains) (OrderFree World.steadyTrains) World.steadyTrack besideEachOther := by
  have hTaken : (run (World.step World.steadyTrains) World.steadyTrack besideEachOther).any (fun w =>
      w.fleet.map (fun entry => entry.sim.currentSectionUid) = [⟨3⟩, ⟨2⟩]) = true := by decide +kernel
  obtain ⟨w, hRun, hFleet⟩ := (Option.any_eq_true _ _).mp hTaken
  refine ⟨w, hRun, of_decide_eq_true hFleet,
    (occupancy_exact_of_solo vacant_steadyTrack (guarded_of_forall_mem ?_ _) hRun).1 (by decide +kernel)⟩
  simp [besideEachOther, World.runOn, NoReset]

/-- The second train runs into the section of the first, which then counts four axles for eight. -/
theorem meeting_miscounted : ¬ ∀ (w₀ w : World (Rat × Rat)) (actions : List (Action (Rat × Rat))),
    Vacant w₀ → (∀ a ∈ actions, a = .tickTrains ∨ ∃ cmd, a = .fleetCommand cmd) →
    run (World.step World.steadyTrains) w₀ actions = some w → OccupancyExact w := by
  intro h
  let actions := [World.runOn 51 2 1 0, World.runOn 52 1 91 20, .tickTrains]
  have hTaken : (run (World.step World.steadyTrains) World.steadyTrack actions).any (fun w =>
      (w.state.findTrackSection ⟨2⟩).any fun sec => sec.axleCount ≠ axlesOn w.fleet ⟨2⟩) = true := by
    decide +kernel
  obtain ⟨w, hRun, hCount⟩ := (Option.any_eq_true _ _).mp hTaken
  obtain ⟨sec, hFind, hWrong⟩ := (Option.any_eq_true _ _).mp hCount
  have hFleet : ∀ a ∈ actions, a = .tickTrains ∨ ∃ cmd, a = .fleetCommand cmd := by
    simp [actions, World.runOn]
  exact of_decide_eq_true hWrong (h World.steadyTrack w actions vacant_steadyTrack hFleet hRun ⟨2⟩ sec hFind).2

end Symulator.Trains
