import Symulator.Engine.PipEvents
import Symulator.Library.Json
import Symulator.Trains.Occupancy

/-! # Pending tracks

The pip writer keeps one row for each section, with the array of the trains on it. Every event overwrites the
row of its section, with one slot or with none, so a row never shows two trains, and it shows the one on the
section as long as the trains of a tick do not overwrite each other.
-/

namespace Symulator.Server

open Symulator.Library Symulator.Engine Symulator.Srk Symulator.Trains

set_option autoImplicit false

def slotJson (slot : TrainSlot) : Json :=
  .object [("number", .string slot.number), ("has_extra_info", .boolean slot.hasExtraInfo),
    ("manually_placed", .boolean slot.manuallyPlaced),
    ("entry_side", .string (if slot.entrySide = .left then "LEFT" else "RIGHT"))]

/-- The rows of `pip.track_state`, found by session and section. -/
abbrev TrackStateTable : Type := String → Nat → Option Json

def upsertPipTrackState (table : TrackStateTable) (sessionId : String) (sectionUid : Nat) (trains : Json) :
    TrackStateTable :=
  fun session uid => if session = sessionId ∧ uid = sectionUid then some trains else table session uid

structure PipWriter where
  sessionId : String

namespace PipWriter

def trainsOf (ev : PipEvent) : Json :=
  match ev.slot with
  | some slot => if ev.occupancy = .occupied then .array [slotJson slot] else .array []
  | none => .array []

def onPipEvents (writer : PipWriter) (table : TrackStateTable) (events : List PipEvent) : TrackStateTable :=
  events.foldl (fun table ev => upsertPipTrackState table writer.sessionId ev.sectionUid.value (trainsOf ev)) table

/-- The array a row shows for a section, empty where none was written. -/
def trainsShown (writer : PipWriter) (table : TrackStateTable) (uid : UID) : List Json :=
  ((table writer.sessionId uid.value).map Json.elements).getD []

theorem trainsShown_onPipEvents (writer : PipWriter) {table : TrackStateTable} {uid : UID} {held : Option TrainSlot}
    (h : writer.trainsShown table uid = held.toList.map slotJson) (events : List PipEvent) :
    writer.trainsShown (writer.onPipEvents table events) uid =
      (events.foldl (shownAt uid) held).toList.map slotJson := by
  induction events generalizing table held with
  | nil => exact h
  | cons ev events ih =>
    refine ih ?_
    unfold trainsShown upsertPipTrackState shownAt
    by_cases hUid : ev.sectionUid = uid
    · subst hUid
      dsimp only
      rw [if_pos ⟨rfl, rfl⟩, if_pos rfl]
      unfold trainsOf
      cases ev.slot with
      | none => simp
      | some slot => by_cases hOccupied : ev.occupancy = .occupied <;> simp [hOccupied]
    · have hValue : ¬ (writer.sessionId = writer.sessionId ∧ uid.value = ev.sectionUid.value) := by
        rintro ⟨-, hValue⟩
        refine hUid ?_
        cases uid
        cases hEv : ev.sectionUid
        rw [hEv] at hValue
        exact congrArg UID.mk hValue.symm
      dsimp only
      rw [if_neg hValue, if_neg hUid]
      exact h

end PipWriter

/-! ## A world with its pending tracks -/

section Run

variable {φ : Type} (dynamics : TrainDynamics φ)

structure PendingWorld (φ : Type) where
  world : World φ
  table : TrackStateTable := fun _ _ => none

omit dynamics in
/-- The events the fleet pushes in a step. -/
def pipEventsOf (dynamics : TrainDynamics φ) (w : World φ) : Action φ → List PipEvent
  | .fleetCommand cmd => fleetPipEvents w.state w.fleet cmd
  | .tickTrains => tickPipEvents dynamics w.state w.fleet
  | .command _ | .onTick | .advanceTick => []

/-- A step of the world, after which the writer takes in the events of the step. -/
def PendingWorld.step (writer : PipWriter) (p : PendingWorld φ) (a : Action φ) : Option (PendingWorld φ) :=
  (p.world.step dynamics a).map fun world =>
    { world, table := writer.onPipEvents p.table (pipEventsOf dynamics p.world a) }

omit dynamics in
/-- One slot for each train on the section. -/
def slotsOn (fleet : List (TrainEntry φ)) (uid : UID) : List Json :=
  (fleet.filter fun entry => entry.sim.currentSectionUid = uid).map fun entry =>
    slotJson (makeTrainSlot entry.sim.trainUid)

omit dynamics in
/-- Every section of the topology shows one slot for each train on it, and nothing where there is none. -/
def PendingShown (writer : PipWriter) (p : PendingWorld φ) : Prop :=
  ∀ uid, (p.world.state.findTrackSection uid).isSome →
    (writer.trainsShown p.table uid).Perm (slotsOn p.world.fleet uid)

def Quits (state : EngineState) (entry : TrainEntry φ) (uid : UID) : Prop :=
  StandsOn entry uid ∧ ¬ EndsOn dynamics state entry uid

/-- Of two trains of a tick the later one neither ends on the section the earlier one ends on nor quits it, and
no train is spawned where another stands. -/
def LastWord (p : PendingWorld φ) : Action φ → Prop
  | .tickTrains =>
    ∀ uid, (p.world.state.findTrackSection uid).isSome →
      p.world.fleet.Pairwise fun entry later => EndsOn dynamics p.world.state entry uid →
        ¬ EndsOn dynamics p.world.state later uid ∧ ¬ Quits dynamics p.world.state later uid
  | .fleetCommand (.spawn initial _) => ∀ entry ∈ p.world.fleet, ¬ StandsOn entry initial.currentSectionUid
  | .fleetCommand (.despawn _) | .command _ | .onTick | .advanceTick => True

end Run

/-! ## The tick of the trains -/

section Tick

variable {φ : Type} {dynamics : TrainDynamics φ} {s : EngineState} {uid : UID}

instance (entry : TrainEntry φ) : Decidable (EndsOn dynamics s entry uid) := inferInstanceAs (Decidable (_ ∧ _))

instance (entry : TrainEntry φ) : Decidable (Quits dynamics s entry uid) := inferInstanceAs (Decidable (_ ∧ _))

instance (p : PendingWorld φ) : (a : Action φ) → Decidable (LastWord dynamics p a)
  | .tickTrains =>
    decidable_of_iff (∀ sec ∈ p.world.state.trackSections.values, p.world.fleet.Pairwise fun entry later =>
      EndsOn dynamics p.world.state entry sec.uid →
        ¬ EndsOn dynamics p.world.state later sec.uid ∧ ¬ Quits dynamics p.world.state later sec.uid)
      (KeyedMap.forall_isSome_find (P := fun uid => p.world.fleet.Pairwise fun entry later =>
        EndsOn dynamics p.world.state entry uid →
          ¬ EndsOn dynamics p.world.state later uid ∧ ¬ Quits dynamics p.world.state later uid)).symm
  | .fleetCommand (.spawn initial _) =>
    inferInstanceAs (Decidable (∀ entry ∈ p.world.fleet, ¬ StandsOn entry initial.currentSectionUid))
  | .fleetCommand (.despawn _) | .command _ | .onTick | .advanceTick => .isTrue trivial

theorem slotJson_injective : Function.Injective slotJson := by
  rintro ⟨number, extra, placed, side⟩ ⟨number', extra', placed', side'⟩ h
  cases side <;> cases side' <;> simp_all [slotJson]

theorem shown_of_away {entry : TrainEntry φ} (hAway : ¬ EndsOn dynamics s entry uid) (held : Option TrainSlot) :
    (trainMove dynamics s entry).shown entry uid held =
      if entry.sim.currentSectionUid = uid then none else held := by
  unfold EndsOn at hAway
  cases hMove : trainMove dynamics s entry with
  | stays =>
    rw [hMove] at hAway
    have hOther : ¬ entry.sim.currentSectionUid = uid := fun h => hAway ⟨h, by simp⟩
    rw [if_neg hOther]
    rfl
  | leaves => rfl
  | crosses toUid =>
    rw [hMove] at hAway
    have hOther : ¬ toUid = uid := fun h => hAway ⟨h, by simp⟩
    exact if_neg hOther

/-- A train that ends on a section shows there, or has stood there all along. -/
theorem shown_of_ends {entry : TrainEntry φ} (hEnds : EndsOn dynamics s entry uid) :
    (∀ held, (trainMove dynamics s entry).shown entry uid held = some (makeTrainSlot entry.sim.trainUid)) ∨
      StandsOn entry uid ∧ ∀ held, (trainMove dynamics s entry).shown entry uid held = held := by
  obtain ⟨hTo, hStays⟩ := hEnds
  cases hMove : trainMove dynamics s entry with
  | stays =>
    rw [hMove] at hTo
    exact Or.inr ⟨hTo, fun _ => rfl⟩
  | leaves => exact absurd hMove hStays
  | crosses toUid =>
    rw [hMove] at hTo
    exact Or.inl fun _ => if_pos hTo

variable (dynamics s uid) in
/-- The slot a section shows after the moves of the trains. -/
def shownAfter (entries : List (TrainEntry φ)) (held : Option TrainSlot) : Option TrainSlot :=
  entries.foldl (fun held entry => (trainMove dynamics s entry).shown entry uid held) held

theorem shownAfter_of_none {entries : List (TrainEntry φ)}
    (hNone : ∀ entry ∈ entries, ¬ EndsOn dynamics s entry uid) {held : Option TrainSlot}
    (hHeld : held = none ∨ ∃ entry ∈ entries, StandsOn entry uid) : shownAfter dynamics s uid entries held = none := by
  refine @foldl_of_mended _ _ _ (· = none) (fun entry => EndsOn dynamics s entry uid)
    (fun entry => StandsOn entry uid ∧ ¬ EndsOn dynamics s entry uid) ?_ ?_ entries ?_ held ?_
  · rintro held entry ⟨hStands, hAway⟩
    rw [shown_of_away hAway]
    exact if_pos hStands
  · rintro held entry rfl hAway
    rw [shown_of_away hAway, ite_self]
  · rintro before entry after rfl hEnds
    exact absurd hEnds (hNone entry (by simp))
  · refine hHeld.imp id fun ⟨entry, hEntry, hStands⟩ => ?_
    exact ⟨entry, hEntry, hStands, hNone entry hEntry⟩

/-- The train that ends on a section shows there, when no other ends there and none quits the section after it. -/
theorem shownAfter_of_ends {entries : List (TrainEntry φ)} (hAlone : TouchedOnce StandsOn uid entries)
    (hLast : entries.Pairwise fun entry later => EndsOn dynamics s entry uid →
      ¬ EndsOn dynamics s later uid ∧ ¬ Quits dynamics s later uid)
    {entry : TrainEntry φ} (hEntry : entry ∈ entries) (hEnds : EndsOn dynamics s entry uid) {held : Option TrainSlot}
    (hHeld : StandsOn entry uid → held = some (makeTrainSlot entry.sim.trainUid)) :
    shownAfter dynamics s uid entries held = some (makeTrainSlot entry.sim.trainUid) := by
  let mends (other : TrainEntry φ) : Prop :=
    ∀ held, (trainMove dynamics s other).shown other uid held = some (makeTrainSlot entry.sim.trainUid)
  refine @foldl_of_mended _ _ _ (· = some (makeTrainSlot entry.sim.trainUid)) (fun other =>
    (trainMove dynamics s other).shown other uid (some (makeTrainSlot entry.sim.trainUid)) ≠
      some (makeTrainSlot entry.sim.trainUid)) mends (fun held other hMends => hMends held) ?_ entries ?_ held ?_
  · rintro held other rfl hKept
    exact not_not.mp hKept
  · rintro before other after rfl hBroken
    have hNotEnds : EndsOn dynamics s other uid → other ≠ entry := by
      rintro hEnds' rfl
      rcases shown_of_ends hEnds' with hShown | ⟨-, hShown⟩
      · exact hBroken (hShown _)
      · exact hBroken (hShown _)
    obtain ⟨-, hRest, hCross⟩ := List.pairwise_append.mp hLast
    rcases List.mem_append.mp hEntry with hBefore | hHere
    · obtain ⟨hAway, hStays⟩ := hCross entry hBefore other List.mem_cons_self hEnds
      refine absurd ?_ hBroken
      rw [shown_of_away hAway]
      exact if_neg fun hStands => hStays ⟨hStands, hAway⟩
    · rcases List.mem_cons.mp hHere with rfl | hAfter
      · exact absurd rfl (hNotEnds hEnds)
      · have hAway : ¬ EndsOn dynamics s other uid := fun hEnds' =>
          ((List.pairwise_cons.mp hRest).1 entry hAfter hEnds').1 hEnds
        have hStands : StandsOn other uid := by
          by_contra hElsewhere
          refine hBroken ?_
          rw [shown_of_away hAway]
          exact if_neg hElsewhere
        refine ⟨entry, hAfter, (shown_of_ends hEnds).resolve_right fun hThere => ?_⟩
        obtain ⟨-, hRest, -⟩ := List.pairwise_append.mp hAlone
        exact (List.pairwise_cons.mp hRest).1 entry hAfter ⟨hStands, hThere.1⟩
  · rcases shown_of_ends hEnds with hMends | ⟨hStands, -⟩
    · exact Or.inr ⟨entry, hEntry, hMends⟩
    · exact Or.inl (hHeld hStands)

/-- The later trains show last: where the one row of a section tells of all trains that end there, no train
ends on the section after another, or quits it after another. -/
theorem lastWord_of_shown {entries : List (TrainEntry φ)} {held : Option TrainSlot}
    (hShown : (shownAfter dynamics s uid entries held).toList.length =
      (entries.filter fun entry => EndsOn dynamics s entry uid).length) :
    entries.Pairwise fun entry later => EndsOn dynamics s entry uid →
      ¬ EndsOn dynamics s later uid ∧ ¬ Quits dynamics s later uid := by
  rw [List.pairwise_iff_getElem]
  intro i j hi hj hBefore hEnds
  have hSplit : entries = entries.take j ++ entries[j] :: entries.drop (j + 1) := by
    rw [← List.drop_eq_getElem_cons hj, List.take_append_drop]
  have hIn : entries[i] ∈ (entries.take j).filter fun entry => EndsOn dynamics s entry uid :=
    List.mem_filter.mpr ⟨List.mem_take_iff_getElem.mpr ⟨i, by omega, rfl⟩, decide_eq_true hEnds⟩
  have hOne : (shownAfter dynamics s uid entries held).toList.length ≤ 1 := by
    cases shownAfter dynamics s uid entries held <;> simp
  have hPositive := List.length_pos_of_mem hIn
  have hRest : (entries[j] :: entries.drop (j + 1)).filter (fun entry => EndsOn dynamics s entry uid) = [] := by
    rw [hSplit, List.filter_append, List.length_append, ← hSplit] at hShown
    exact List.eq_nil_of_length_eq_zero (by omega)
  have hNone : ∀ entry ∈ entries[j] :: entries.drop (j + 1), ¬ EndsOn dynamics s entry uid := fun entry hEntry hEnds' =>
    List.filter_eq_nil_iff.mp hRest entry hEntry (decide_eq_true hEnds')
  refine ⟨hNone _ List.mem_cons_self, fun hQuits => ?_⟩
  have hBare : shownAfter dynamics s uid entries held = none := by
    unfold shownAfter
    rw [hSplit, List.foldl_append]
    exact shownAfter_of_none hNone (Or.inr ⟨_, List.mem_cons_self, hQuits.1⟩)
  rw [hBare, hSplit, List.filter_append, List.length_append] at hShown
  simp only [Option.toList_none, List.length_nil] at hShown
  omega

end Tick

/-! ## A step -/

section Step

variable {φ : Type} {dynamics : TrainDynamics φ} {writer : PipWriter} {p p' : PendingWorld φ}

/-- A row shows one slot or none, and the trains of the fleet are on the track. -/
structure SlotEach (writer : PipWriter) (p : PendingWorld φ) : Prop where
  slot : ∀ uid, ∃ held : Option TrainSlot, writer.trainsShown p.table uid = held.toList.map slotJson
  staying : ∀ entry ∈ p.world.fleet, entry.pendingBoundaryRemoval = false

theorem trainUid_ticked (s : EngineState) (entry : TrainEntry φ) :
    (ticked dynamics s entry).sim.trainUid = entry.sim.trainUid := by
  obtain ⟨-, physics, fromUid, hSpec⟩ := @tickTrain_spec φ dynamics s entry
  rw [hSpec]

theorem slotsOn_tick (s : EngineState) {fleet : List (TrainEntry φ)}
    (hStaying : ∀ entry ∈ fleet, entry.pendingBoundaryRemoval = false) (uid : UID) :
    slotsOn ((fleet.map (ticked dynamics s)).filter fun entry => ¬ entry.pendingBoundaryRemoval) uid =
      (fleet.filter fun entry => EndsOn dynamics s entry uid).map fun entry =>
        slotJson (makeTrainSlot entry.sim.trainUid) := by
  induction fleet with
  | nil => rfl
  | cons entry fleet ih =>
    have hRest := ih fun e he => hStaying e (List.mem_cons_of_mem _ he)
    obtain ⟨hPlace, -, hGone⟩ := @ticked_sim φ dynamics s entry
    rw [hStaying entry List.mem_cons_self] at hGone
    unfold slotsOn at hRest ⊢
    by_cases hEnds : EndsOn dynamics s entry uid
    · have hKept : (ticked dynamics s entry).pendingBoundaryRemoval = false := by simp [hGone, hEnds.2]
      rw [List.map_cons, List.filter_cons_of_pos (by simp [hKept]),
        List.filter_cons_of_pos (by simp [hPlace, hEnds.1]), List.filter_cons_of_pos (by simp [hEnds]),
        List.map_cons, List.map_cons, hRest, trainUid_ticked]
    · rw [List.filter_cons_of_neg (by simp [hEnds]), ← hRest, List.map_cons]
      by_cases hLeaves : trainMove dynamics s entry = .leaves
      · rw [List.filter_cons_of_neg (by simp [hGone, hLeaves])]
      · have hElsewhere : ¬ (ticked dynamics s entry).sim.currentSectionUid = uid := fun h =>
          hEnds ⟨hPlace.symm.trans h, hLeaves⟩
        rw [List.filter_cons_of_pos (by simp [hGone, hLeaves]), List.filter_cons_of_neg (by simp [hElsewhere])]

theorem step_eq_some {a : Action φ} : p.step dynamics writer a = some p' ↔
    p.world.step dynamics a = some p'.world ∧
      p'.table = writer.onPipEvents p.table (pipEventsOf dynamics p.world a) := by
  unfold PendingWorld.step
  rw [Option.map_eq_some_iff]
  obtain ⟨world', table'⟩ := p'
  constructor
  · rintro ⟨w, hStep, ⟨⟩⟩
    exact ⟨hStep, rfl⟩
  · rintro ⟨hStep, rfl⟩
    exact ⟨world', hStep, rfl⟩

theorem isSome_find_step {a : Action φ} (hStep : p.step dynamics writer a = some p') (uid : UID) :
    (p'.world.state.findTrackSection uid).isSome = (p.world.state.findTrackSection uid).isSome :=
  isSome_findTrackSection (World.topology_step (step_eq_some.mp hStep).1) uid

theorem SlotEach.trainsShown_step (h : SlotEach writer p) {a : Action φ}
    (hStep : p.step dynamics writer a = some p') (uid : UID) : ∃ held : Option TrainSlot,
      writer.trainsShown p.table uid = held.toList.map slotJson ∧ writer.trainsShown p'.table uid =
        ((pipEventsOf dynamics p.world a).foldl (shownAt uid) held).toList.map slotJson := by
  obtain ⟨held, hHeld⟩ := h.slot uid
  rw [(step_eq_some.mp hStep).2]
  exact ⟨held, hHeld, writer.trainsShown_onPipEvents hHeld _⟩

theorem SlotEach.step (h : SlotEach writer p) {a : Action φ} (hStep : p.step dynamics writer a = some p') :
    SlotEach writer p' := by
  obtain ⟨hWorld, -⟩ := step_eq_some.mp hStep
  refine ⟨fun uid => ?_, fun entry hEntry => ?_⟩
  · obtain ⟨held, -, hShown⟩ := h.trainsShown_step hStep uid
    exact ⟨_, hShown⟩
  · obtain rfl | hTick := eq_or_ne a .tickTrains
    · obtain ⟨-, hFleet, -, -⟩ := World.step_tickTrains hWorld
      rw [hFleet] at hEntry
      simpa using List.of_mem_filter hEntry
    · obtain hBefore | ⟨initial, fromUid, -, rfl, -⟩ := World.mem_fleet_step hTick hWorld hEntry
      · exact h.staying entry hBefore
      · rfl

theorem standsOn_iff_slotsOn {fleet : List (TrainEntry φ)} {uid : UID} :
    slotsOn fleet uid = [] ↔ ∀ entry ∈ fleet, ¬ StandsOn entry uid := by
  simp [slotsOn, StandsOn]

theorem slotsOn_perm {fleet fleet' : List (TrainEntry φ)} (h : fleet.Perm fleet') (uid : UID) :
    (slotsOn fleet uid).Perm (slotsOn fleet' uid) := (h.filter _).map _

theorem slotsOn_cons (entry : TrainEntry φ) (fleet : List (TrainEntry φ)) (uid : UID) :
    slotsOn (entry :: fleet) uid = if entry.sim.currentSectionUid = uid then
      slotJson (makeTrainSlot entry.sim.trainUid) :: slotsOn fleet uid else slotsOn fleet uid := by
  unfold slotsOn
  by_cases hStands : entry.sim.currentSectionUid = uid
  · rw [if_pos hStands, List.filter_cons_of_pos (by simp [hStands]), List.map_cons]
  · rw [if_neg hStands, List.filter_cons_of_neg (by simp [hStands])]

theorem PendingShown.length_le_one (h : PendingShown writer p) (hSlot : SlotEach writer p) {uid : UID}
    (hSome : (p.world.state.findTrackSection uid).isSome) : (slotsOn p.world.fleet uid).length ≤ 1 := by
  obtain ⟨held, hHeld⟩ := hSlot.slot uid
  rw [← (h uid hSome).length_eq, hHeld]
  cases held <;> simp

theorem touchedOnce_of_length {fleet : List (TrainEntry φ)} {uid : UID} (h : (slotsOn fleet uid).length ≤ 1) :
    TouchedOnce StandsOn uid fleet := by
  refine List.pairwise_of_forall_sublist fun {entry other} hSub hBoth => ?_
  obtain ⟨hEntry, hOther⟩ := hBoth
  unfold StandsOn at hEntry hOther
  obtain ⟨rest, hPerm⟩ := hSub.exists_perm_append
  have hLength := (slotsOn_perm hPerm uid).length_eq
  rw [List.cons_append, List.cons_append, List.nil_append, slotsOn_cons, slotsOn_cons, if_pos hEntry, if_pos hOther,
    List.length_cons, List.length_cons] at hLength
  omega

theorem held_of_shown {fleet : List (TrainEntry φ)} {uid : UID} {held : Option TrainSlot}
    (hShown : (held.toList.map slotJson).Perm (slotsOn fleet uid)) :
    ((∀ entry ∈ fleet, ¬ StandsOn entry uid) → held = none) ∧
      ∀ entry ∈ fleet, StandsOn entry uid → held = some (makeTrainSlot entry.sim.trainUid) := by
  constructor
  · intro hNone
    rw [standsOn_iff_slotsOn.mpr hNone, List.perm_nil, List.map_eq_nil_iff, Option.toList_eq_nil_iff] at hShown
    exact hShown
  · intro entry hEntry hStands
    have hIn : slotJson (makeTrainSlot entry.sim.trainUid) ∈ held.toList.map slotJson :=
      hShown.mem_iff.mpr (List.mem_map.mpr ⟨entry, List.mem_filter.mpr ⟨hEntry, decide_eq_true hStands⟩, rfl⟩)
    obtain ⟨slot, hSlot, hSame⟩ := List.mem_map.mp hIn
    rw [← slotJson_injective hSame]
    exact Option.mem_toList.mp hSlot

/-- A row that shows the one train of its section shows after the moves whoever ends there, as long as the last
word is his. -/
theorem shownAfter_of_lastWord {s : EngineState} {fleet : List (TrainEntry φ)} {uid : UID} {held : Option TrainSlot}
    (hShown : (held.toList.map slotJson).Perm (slotsOn fleet uid)) (hAlone : TouchedOnce StandsOn uid fleet)
    (hLast : fleet.Pairwise fun entry later => EndsOn dynamics s entry uid →
      ¬ EndsOn dynamics s later uid ∧ ¬ Quits dynamics s later uid) :
    (shownAfter dynamics s uid fleet held).toList.map slotJson =
      (fleet.filter fun entry => EndsOn dynamics s entry uid).map fun entry =>
        slotJson (makeTrainSlot entry.sim.trainUid) := by
  obtain ⟨hBare, hStood⟩ := held_of_shown hShown
  by_cases hEnds : ∃ entry ∈ fleet, EndsOn dynamics s entry uid
  · obtain ⟨entry, hEntry, hEnds⟩ := hEnds
    have hOnly : fleet.filter (fun entry => EndsOn dynamics s entry uid) = [entry] := by
      refine @TouchedOnce.filter_eq _ _ (EndsOn dynamics s) uid _ ?_ _ (fun _ => by simp) _ hEntry hEnds
      exact hLast.imp fun h' hBoth => (h' hBoth.1).1 hBoth.2
    rw [shownAfter_of_ends hAlone hLast hEntry hEnds (hStood entry hEntry), hOnly]
    rfl
  · have hNone : ∀ entry ∈ fleet, ¬ EndsOn dynamics s entry uid :=
      fun entry hEntry hEnds' => hEnds ⟨entry, hEntry, hEnds'⟩
    have hEmpty : fleet.filter (fun entry => EndsOn dynamics s entry uid) = [] :=
      List.filter_eq_nil_iff.mpr fun entry hEntry hEnds' => hNone entry hEntry (of_decide_eq_true hEnds')
    have hNow : shownAfter dynamics s uid fleet held = none := by
      refine shownAfter_of_none hNone ?_
      by_cases hStands : ∃ entry ∈ fleet, StandsOn entry uid
      · exact Or.inr hStands
      · exact Or.inl (hBare fun entry hEntry hStands' => hStands ⟨entry, hEntry, hStands'⟩)
    rw [hNow, hEmpty]
    rfl

theorem pendingShown_tick_iff (h : PendingShown writer p) (hSlot : SlotEach writer p)
    (hStep : p.step dynamics writer .tickTrains = some p') :
    PendingShown writer p' ↔ LastWord dynamics p .tickTrains := by
  obtain ⟨-, hFleet, -, -⟩ := World.step_tickTrains (step_eq_some.mp hStep).1
  have hSlots : ∀ uid, slotsOn p'.world.fleet uid =
      (p.world.fleet.filter fun entry => EndsOn dynamics p.world.state entry uid).map fun entry =>
        slotJson (makeTrainSlot entry.sim.trainUid) := by
    intro uid
    rw [hFleet]
    exact slotsOn_tick p.world.state hSlot.staying uid
  have hRow : ∀ uid, (p.world.state.findTrackSection uid).isSome → ∃ held,
      writer.trainsShown p.table uid = held.toList.map slotJson ∧ writer.trainsShown p'.table uid =
        (shownAfter dynamics p.world.state uid p.world.fleet held).toList.map slotJson := by
    intro uid hSome
    obtain ⟨held, hHeld, hShown⟩ := hSlot.trainsShown_step hStep uid
    refine ⟨held, hHeld, hShown.trans ?_⟩
    rw [pipEventsOf, shown_tickPipEvents (SameTrack.refl _) hSome]
    rfl
  constructor
  · intro hNext uid hSome
    obtain ⟨held, -, hShown⟩ := hRow uid hSome
    have hLength := (hNext uid (by rwa [isSome_find_step hStep])).length_eq
    rw [hShown, hSlots, List.length_map, List.length_map] at hLength
    exact lastWord_of_shown hLength
  · intro hLast uid hKnown
    have hSome : (p.world.state.findTrackSection uid).isSome := by rwa [← isSome_find_step hStep]
    have hAlone := touchedOnce_of_length (h.length_le_one hSlot hSome)
    obtain ⟨held, hHeld, hShown⟩ := hRow uid hSome
    have hBefore := h uid hSome
    rw [hHeld] at hBefore
    rw [hShown, hSlots, shownAfter_of_lastWord hBefore hAlone (hLast uid hSome)]

theorem pendingShown_spawn_iff {initial : TrainSimState φ} {fromUid : UID} (h : PendingShown writer p)
    (hSlot : SlotEach writer p) (hStep : p.step dynamics writer (.fleetCommand (.spawn initial fromUid)) = some p') :
    PendingShown writer p' ↔ LastWord dynamics p (.fleetCommand (.spawn initial fromUid)) := by
  obtain ⟨hCommand, -⟩ := World.step_fleetCommand.mp (step_eq_some.mp hStep).1
  obtain ⟨⟨sec, hFind, hFree⟩, -, hFleet⟩ := spawn_eq_ok.mp hCommand
  have hRow := fun uid => hSlot.trainsShown_step hStep uid
  simp only [pipEventsOf, fleetPipEvents, shown_spawnPipEvents hFind hFree] at hRow
  have hSlots : ∀ uid, (slotsOn p'.world.fleet uid).Perm (if initial.currentSectionUid = uid then
      slotJson (makeTrainSlot initial.trainUid) :: slotsOn p.world.fleet uid else slotsOn p.world.fleet uid) := by
    intro uid
    have hPerm : p'.world.fleet.Perm ({ sim := initial, fromUid } :: p.world.fleet) := by
      rw [hFleet]
      exact List.perm_append_comm
    have hCons := slotsOn_perm hPerm uid
    rw [slotsOn_cons] at hCons
    exact hCons
  constructor
  · intro hNext
    obtain ⟨held, -, hShown⟩ := hRow initial.currentSectionUid
    have hHere := (hNext initial.currentSectionUid (by rw [isSome_find_step hStep, hFind]; rfl)).trans
      (hSlots initial.currentSectionUid)
    rw [hShown, if_pos rfl, if_pos rfl] at hHere
    have hLength := hHere.length_eq
    rw [List.length_cons, Option.toList_some, List.length_map, List.length_singleton] at hLength
    exact standsOn_iff_slotsOn.mp (List.eq_nil_of_length_eq_zero (by omega))
  · intro hNobody uid hKnown
    have hSome : (p.world.state.findTrackSection uid).isSome := by rwa [← isSome_find_step hStep]
    obtain ⟨held, hHeld, hShown⟩ := hRow uid
    rw [hShown]
    refine List.Perm.trans ?_ (hSlots uid).symm
    by_cases hHere : initial.currentSectionUid = uid
    · rw [if_pos hHere, if_pos hHere, ← hHere, standsOn_iff_slotsOn.mpr hNobody]
      exact List.Perm.refl _
    · rw [if_neg hHere, if_neg hHere, ← hHeld]
      exact h uid hSome

theorem pendingShown_despawn {trainUid : UID} (h : PendingShown writer p) (hSlot : SlotEach writer p)
    (hStep : p.step dynamics writer (.fleetCommand (.despawn trainUid)) = some p') : PendingShown writer p' := by
  obtain ⟨hCommand, -⟩ := World.step_fleetCommand.mp (step_eq_some.mp hStep).1
  obtain ⟨entry, hFind, -, hFleet⟩ := despawn_eq_ok.mp hCommand
  intro uid hKnown
  have hSome : (p.world.state.findTrackSection uid).isSome := by rwa [← isSome_find_step hStep]
  obtain ⟨held, hHeld, hShown⟩ := hSlot.trainsShown_step hStep uid
  rw [pipEventsOf, fleetPipEvents, shown_despawnPipEvents hFind hSome] at hShown
  have hPerm := slotsOn_perm (perm_of_find? hFind) uid
  rw [slotsOn_cons, ← hFleet] at hPerm
  rw [hShown]
  by_cases hHere : entry.sim.currentSectionUid = uid
  · have hLength := hPerm.length_eq
    have hOne := h.length_le_one hSlot hSome
    rw [if_pos hHere, List.length_cons] at hLength
    rw [if_pos hHere, List.eq_nil_of_length_eq_zero (l := slotsOn p'.world.fleet uid) (by omega)]
    exact List.Perm.refl _
  · rw [if_neg hHere] at hPerm ⊢
    rw [← hHeld]
    exact (h uid hSome).trans hPerm

theorem pendingShown_step_iff {a : Action φ} (h : PendingShown writer p) (hSlot : SlotEach writer p)
    (hStep : p.step dynamics writer a = some p') : PendingShown writer p' ↔ LastWord dynamics p a := by
  have hQuiet : p'.world.fleet = p.world.fleet → pipEventsOf dynamics p.world a = [] → PendingShown writer p' := by
    intro hFleet hEvents uid hKnown
    rw [(step_eq_some.mp hStep).2, hEvents, hFleet]
    exact h uid (by rwa [← isSome_find_step hStep])
  cases a with
  | tickTrains => exact pendingShown_tick_iff h hSlot hStep
  | fleetCommand cmd =>
    cases cmd with
    | spawn initial fromUid => exact pendingShown_spawn_iff h hSlot hStep
    | despawn trainUid => exact iff_of_true (pendingShown_despawn h hSlot hStep) trivial
  | command cmd =>
    refine iff_of_true (hQuiet ?_ rfl) trivial
    rw [(World.step_command.mp (step_eq_some.mp hStep).1).2]
  | onTick | advanceTick =>
    refine iff_of_true (hQuiet ?_ rfl) trivial
    rw [← Option.some.inj (step_eq_some.mp hStep).1]

end Step

/-- From an empty fleet and an empty table, the rows show every train on its section throughout the runs in which
no later train of a tick ends on the section an earlier one ends on, or quits it after it, and no train is spawned
where another stands; and throughout no other runs. -/
theorem pendingShown_iff_guarded {φ : Type} {dynamics : TrainDynamics φ} {writer : PipWriter} {w : World φ}
    (hFleet : w.fleet = []) {actions : List (Action φ)} {p : PendingWorld φ}
    (hRun : run (PendingWorld.step dynamics writer) { world := w } actions = some p) :
    Always (PendingWorld.step dynamics writer) (PendingShown writer) { world := w } actions ↔
      Guarded (PendingWorld.step dynamics writer) (LastWord dynamics) { world := w } actions := by
  have hShown : PendingShown writer { world := w } := by
    intro uid _
    rw [standsOn_iff_slotsOn.mpr (by simp [hFleet])]
    exact List.Perm.refl _
  have hSlot : SlotEach writer { world := w } := ⟨fun _ => ⟨none, rfl⟩, by simp [hFleet]⟩
  exact always_iff_guarded (PendingShown writer) (SlotEach writer) (LastWord dynamics)
    (fun _ _ _ h hSlot hStep => pendingShown_step_iff h hSlot hStep) (fun _ _ _ _ hSlot _ hStep => hSlot.step hStep)
    hShown hSlot hRun

theorem pendingShown_track : ∃ p,
    run (PendingWorld.step World.steadyTrains ⟨"s"⟩) { world := World.steadyTrack } besideEachOther = some p ∧
    p.world.fleet.map (fun entry => entry.sim.currentSectionUid) = [⟨3⟩, ⟨2⟩] ∧
    Always (PendingWorld.step World.steadyTrains ⟨"s"⟩) (PendingShown ⟨"s"⟩) { world := World.steadyTrack }
      besideEachOther := by
  have hTaken : (run (PendingWorld.step World.steadyTrains ⟨"s"⟩) { world := World.steadyTrack }
      besideEachOther).any (fun p =>
        p.world.fleet.map (fun entry => entry.sim.currentSectionUid) = [⟨3⟩, ⟨2⟩]) = true := by decide +kernel
  obtain ⟨p, hRun, hFleet⟩ := (Option.any_eq_true _ _).mp hTaken
  exact ⟨p, hRun, of_decide_eq_true hFleet, (pendingShown_iff_guarded rfl hRun).mpr (by decide +kernel)⟩

/-- The second train runs into the section of the first, whose row then shows one slot for the two. -/
theorem meeting_hidden : ¬ ∀ (writer : PipWriter) (w : World (Rat × Rat)) (actions : List (Action (Rat × Rat)))
    (p : PendingWorld (Rat × Rat)), w.fleet = [] → (∀ a ∈ actions, a = .tickTrains ∨ ∃ cmd, a = .fleetCommand cmd) →
    run (PendingWorld.step World.steadyTrains writer) { world := w } (actions ++ [.tickTrains]) = some p →
    PendingShown writer p := by
  intro h
  let actions := [World.runOn 51 2 1 0, World.runOn 52 1 91 20]
  have hTaken : (run (PendingWorld.step World.steadyTrains ⟨"s"⟩) { world := World.steadyTrack }
      (actions ++ [.tickTrains])).any (fun p => (p.world.state.findTrackSection ⟨2⟩).isSome &&
        decide ((PipWriter.trainsShown ⟨"s"⟩ p.table ⟨2⟩).length = 1) &&
          decide ((slotsOn p.world.fleet ⟨2⟩).length = 2)) = true := by
    decide +kernel
  obtain ⟨p, hRun, hSeen⟩ := (Option.any_eq_true _ _).mp hTaken
  rw [Bool.and_eq_true, Bool.and_eq_true, decide_eq_true_eq, decide_eq_true_eq] at hSeen
  obtain ⟨⟨hSome, hOne⟩, hTwo⟩ := hSeen
  have hFleet : ∀ a ∈ actions, a = .tickTrains ∨ ∃ cmd, a = .fleetCommand cmd := by simp [actions, World.runOn]
  have hLength := (h ⟨"s"⟩ World.steadyTrack actions p rfl hFleet hRun ⟨2⟩ hSome).length_eq
  omega

end Symulator.Server
