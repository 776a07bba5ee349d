import Symulator.Srk.EngineLoop
import Symulator.Srk.RouteGraph

/-! # A train never turns round

Each tick a train's direction is told from where it came from, a section or a switch. Where neighbours list each
other and switches lie between sections, the train came from one of the two neighbours of its section and leaves
towards the other.
-/

namespace Symulator.Trains

open Symulator.Library Symulator.Engine Symulator.Srk

set_option autoImplicit false

/-- What the ports of a section or the legs of a switch lead to. -/
def portNeighbors (s : EngineState) (uid : UID) : List UID :=
  match s.findTrackSection uid with
  | some ts => [ts.sideA.neighborUid, ts.sideB.neighborUid]
  | none =>
    match s.findSwitch uid with
    | some sw => [sw.trunk.neighborUid, sw.straight.neighborUid, sw.divergent.neighborUid]
    | none => []

/-- Neighbours list each other, the neighbours of a section differ, and the legs of a switch end at sections. -/
structure TwoWay (s : EngineState) : Prop where
  back : ∀ x y, isTraversableNode s x = true → isTraversableNode s y = true →
    y ∈ portNeighbors s x → x ∈ portNeighbors s y
  apart : ∀ uid ts, s.findTrackSection uid = some ts → ts.sideA.neighborUid ≠ ts.sideB.neighborUid
  legs : ∀ uid sw, s.findSwitch uid = some sw → ∀ leg, leg = sw.trunk ∨ leg = sw.straight ∨ leg = sw.divergent →
    leg.neighborUid.value ≠ 0 → (s.findTrackSection leg.neighborUid).isSome = true

section Onward

variable {φ : Type} (dynamics : TrainDynamics φ)

/-- The train's section exists and has a side to where the train came from. -/
def Oriented (s : EngineState) (entry : TrainEntry φ) : Prop :=
  ∃ ts, s.findTrackSection entry.sim.currentSectionUid = some ts ∧
    (ts.sideA.neighborUid = entry.fromUid ∨ ts.sideB.neighborUid = entry.fromUid)

/-- From `entry` to `entry'` the train leaves its section on the side opposite the one it came from, straight into
the next section or over a switch that has both sections at its legs. -/
def Onward (s : EngineState) (entry entry' : TrainEntry φ) : Prop :=
  ∃ ts out, s.findTrackSection entry.sim.currentSectionUid = some ts ∧
    (ts.sideA.neighborUid = entry.fromUid ∧ out = ts.sideB.neighborUid ∨
      ts.sideB.neighborUid = entry.fromUid ∧ out = ts.sideA.neighborUid) ∧
    (entry'.sim.currentSectionUid = out ∧ entry'.fromUid = entry.sim.currentSectionUid ∨
      s.findTrackSection out = none ∧ (s.findSwitch out).isSome = true ∧ entry'.fromUid = out ∧
        entry.sim.currentSectionUid ∈ portNeighbors s out ∧ entry'.sim.currentSectionUid ∈ portNeighbors s out)

/-- The states and fleets that ticks of the fleet lead to, with any changes between them that leave the topology
as it is. -/
inductive Reached (s₀ : EngineState) (fleet₀ : List (TrainEntry φ)) : EngineState → List (TrainEntry φ) → Prop
  | start : Reached s₀ fleet₀ s₀ fleet₀
  | tick {s : EngineState} {fleet : List (TrainEntry φ)} (hReached : Reached s₀ fleet₀ s fleet) :
    Reached s₀ fleet₀ (tickAll dynamics s fleet).1 (tickAll dynamics s fleet).2.1
  | change {s t : EngineState} {fleet : List (TrainEntry φ)} (hReached : Reached s₀ fleet₀ s fleet)
      (hTopology : t.topology = s.topology) : Reached s₀ fleet₀ t fleet

variable {dynamics}

/-! ## The same topology -/

section SameTopology

variable {s t : EngineState} (h : s.topology = t.topology)

include h

theorem sides_of_topology {uid : UID} {ts : TrackSection} (hFind : s.findTrackSection uid = some ts) :
    ∃ ts', t.findTrackSection uid = some ts' ∧ ts'.sideA.neighborUid = ts.sideA.neighborUid ∧
      ts'.sideB.neighborUid = ts.sideB.neighborUid := by
  have hSection := findTrackSection_topology h uid
  rw [hFind, Option.map_some] at hSection
  obtain ⟨ts', hFind', hPorts⟩ := Option.map_eq_some_iff.mp hSection.symm
  simp only [TrackSection.topology, SectionTopology.mk.injEq] at hPorts
  exact ⟨ts', hFind', hPorts.2.1, hPorts.2.2⟩

theorem legs_of_topology {uid : UID} {sw : Switch} (hFind : s.findSwitch uid = some sw) :
    ∃ sw', t.findSwitch uid = some sw' ∧ sw'.trunk.neighborUid = sw.trunk.neighborUid ∧
      sw'.straight.neighborUid = sw.straight.neighborUid ∧ sw'.divergent.neighborUid = sw.divergent.neighborUid := by
  have hSwitch := findSwitch_topology h uid
  rw [hFind, Option.map_some] at hSwitch
  obtain ⟨sw', hFind', hLegs⟩ := Option.map_eq_some_iff.mp hSwitch.symm
  simp only [Switch.topology, SwitchTopology.mk.injEq] at hLegs
  exact ⟨sw', hFind', hLegs.2.1, hLegs.2.2.1, hLegs.2.2.2⟩

theorem portNeighbors_congr : portNeighbors s = portNeighbors t := by
  funext uid
  have hSome := isSome_findTrackSection h uid
  unfold portNeighbors
  cases hFind : s.findTrackSection uid with
  | some ts =>
    obtain ⟨ts', hFind', hSideA, hSideB⟩ := sides_of_topology h hFind
    simp only [hFind', hSideA, hSideB]
  | none =>
    rw [hFind] at hSome
    rw [Option.isNone_iff_eq_none.mp (Option.isSome_eq_false_iff.mp hSome.symm)]
    cases hSwitch : s.findSwitch uid with
    | some sw =>
      obtain ⟨sw', hSwitch', hTrunk, hStraight, hDivergent⟩ := legs_of_topology h hSwitch
      simp only [hSwitch', hTrunk, hStraight, hDivergent]
    | none =>
      have hNone := isSome_findSwitch h uid
      rw [hSwitch] at hNone
      rw [Option.isNone_iff_eq_none.mp (Option.isSome_eq_false_iff.mp hNone.symm)]

theorem TwoWay.congr (w : TwoWay s) : TwoWay t where
  back := by
    rw [← portNeighbors_congr h, ← isTraversableNode_congr h]
    exact w.back
  apart uid ts hFind := by
    obtain ⟨ts', hFind', hSideA, hSideB⟩ := sides_of_topology h.symm hFind
    rw [← hSideA, ← hSideB]
    exact w.apart uid ts' hFind'
  legs uid sw hFind leg hLeg hNonzero := by
    obtain ⟨sw', hFind', hTrunk, hStraight, hDivergent⟩ := legs_of_topology h.symm hFind
    have hLegs := w.legs uid sw' hFind'
    rw [← isSome_findTrackSection h]
    rcases hLeg with rfl | rfl | rfl
    · rw [← hTrunk] at hNonzero ⊢
      exact hLegs sw'.trunk (Or.inl rfl) hNonzero
    · rw [← hStraight] at hNonzero ⊢
      exact hLegs sw'.straight (Or.inr (Or.inl rfl)) hNonzero
    · rw [← hDivergent] at hNonzero ⊢
      exact hLegs sw'.divergent (Or.inr (Or.inr rfl)) hNonzero

theorem Oriented.congr {entry : TrainEntry φ} (o : Oriented s entry) : Oriented t entry := by
  obtain ⟨ts, hFind, hSide⟩ := o
  obtain ⟨ts', hFind', hSideA, hSideB⟩ := sides_of_topology h hFind
  exact ⟨ts', hFind', by rwa [hSideA, hSideB]⟩

end SameTopology

/-! ## One tick -/

section Tick

variable {s : EngineState} {entry : TrainEntry φ}

theorem opposite_of_aheadPort {ts : TrackSection} {fromUid : UID} (hApart : ts.sideA.neighborUid ≠ ts.sideB.neighborUid)
    (hSide : ts.sideA.neighborUid = fromUid ∨ ts.sideB.neighborUid = fromUid) :
    ts.sideA.neighborUid = fromUid ∧ aheadPort ts fromUid = ts.sideB ∨
      ts.sideB.neighborUid = fromUid ∧ aheadPort ts fromUid = ts.sideA := by
  rw [aheadPort]
  rcases hSide with hA | hB
  · exact Or.inl ⟨hA, by rw [if_pos hA]⟩
  · have hNotA : ts.sideA.neighborUid ≠ fromUid := fun hA => hApart (hA.trans hB.symm)
    exact Or.inr ⟨hB, by rw [if_neg hNotA]⟩

theorem oriented_of_listed {uid : UID} (hSection : (s.findTrackSection entry.sim.currentSectionUid).isSome = true)
    (hFrom : entry.fromUid = uid) (hListed : uid ∈ portNeighbors s entry.sim.currentSectionUid) : Oriented s entry := by
  obtain ⟨ts, hFind⟩ := Option.isSome_iff_exists.mp hSection
  simp only [portNeighbors, hFind, List.mem_cons, List.not_mem_nil, or_false] at hListed
  exact ⟨ts, hFind, by rw [hFrom]; exact hListed.imp Eq.symm Eq.symm⟩

/-- A crossing takes the train onward, and where it arrives it has a side to where it came from. -/
theorem onward_of_crossing (w : TwoWay s) (o : Oriented s entry) {entry' : TrainEntry φ} {next : UID}
    (hNext : (resolveNextSection s entry.sim.currentSectionUid entry.fromUid).sectionUid = some next)
    (hCurrent : entry'.sim.currentSectionUid = next)
    (hFrom : entry'.fromUid = (resolveNextSection s entry.sim.currentSectionUid entry.fromUid).fromUid) :
    Onward s entry entry' ∧ Oriented s entry' := by
  obtain ⟨ts, hFind, hSide⟩ := o
  have hHere : isTraversableNode s entry.sim.currentSectionUid = true := by
    rw [isTraversableNode, hFind]
    rfl
  obtain ⟨sec, hSec, hAhead⟩ := ahead_of_sectionUid hNext
  obtain rfl : sec = ts := Option.some.inj (hSec.symm.trans hFind)
  have hSides : sec.sideA.neighborUid = entry.fromUid ∧
        (aheadPort sec entry.fromUid).neighborUid = sec.sideB.neighborUid ∨
      sec.sideB.neighborUid = entry.fromUid ∧
        (aheadPort sec entry.fromUid).neighborUid = sec.sideA.neighborUid :=
    (opposite_of_aheadPort (w.apart _ sec hFind) hSide).imp (And.imp_right (congrArg TrackPort.neighborUid))
      (And.imp_right (congrArg TrackPort.neighborUid))
  have hListed : (aheadPort sec entry.fromUid).neighborUid ∈ portNeighbors s entry.sim.currentSectionUid := by
    simp only [portNeighbors, hFind, List.mem_cons, List.not_mem_nil, or_false]
    rcases hSides with ⟨-, hOut⟩ | ⟨-, hOut⟩
    · exact Or.inr hOut
    · exact Or.inl hOut
  subst hCurrent
  rcases hAhead with ⟨hOut, hSection, hInfo⟩ | ⟨hNone, sw, hSwitch, hInfo, hNonzero, leg, hLeg, hEnd⟩
  · -- straight into the next section
    rw [hOut] at hListed
    have hThere : isTraversableNode s entry'.sim.currentSectionUid = true := by
      rw [isTraversableNode, hSection]
      rfl
    have hBack := w.back _ _ hHere hThere hListed
    refine ⟨⟨sec, _, hFind, hSides, Or.inl ⟨hOut.symm, hFrom.trans hInfo⟩⟩, ?_⟩
    exact oriented_of_listed hSection (hFrom.trans hInfo) hBack
  · -- over a switch
    have hOver : isTraversableNode s (aheadPort sec entry.fromUid).neighborUid = true := by
      rw [isTraversableNode, hSwitch, Option.isSome_some, Bool.or_true]
    have hLegs : entry'.sim.currentSectionUid ∈ portNeighbors s (aheadPort sec entry.fromUid).neighborUid := by
      simp only [portNeighbors, hNone, hSwitch, List.mem_cons, List.not_mem_nil, or_false] at hLeg ⊢
      rcases hLeg with rfl | rfl | rfl
      · exact Or.inl hEnd.symm
      · exact Or.inr (Or.inl hEnd.symm)
      · exact Or.inr (Or.inr hEnd.symm)
    have hSection : (s.findTrackSection entry'.sim.currentSectionUid).isSome = true := by
      simp only [List.mem_cons, List.not_mem_nil, or_false] at hLeg
      have hFound := w.legs _ sw hSwitch leg hLeg
      rw [hEnd] at hFound
      exact hFound hNonzero
    have hThere : isTraversableNode s entry'.sim.currentSectionUid = true := by
      rw [isTraversableNode, hSection]
      rfl
    have hSomeSwitch : (s.findSwitch (aheadPort sec entry.fromUid).neighborUid).isSome = true := by
      rw [hSwitch]
      rfl
    refine ⟨⟨sec, _, hFind, hSides, Or.inr ⟨hNone, hSomeSwitch, hFrom.trans hInfo, ?_, hLegs⟩⟩, ?_⟩
    · exact w.back _ _ hHere hOver hListed
    · exact oriented_of_listed hSection (hFrom.trans hInfo) (w.back _ _ hOver hThere hLegs)

theorem oriented_ticked (w : TwoWay s) (o : Oriented s entry) : Oriented s (ticked dynamics s entry) := by
  rcases @ticked_cases φ dynamics s entry with ⟨physics, hSim, hFrom, -⟩ | ⟨next, physics, hNext, -, hSim, hFrom⟩
  · obtain ⟨ts, hFind, hSide⟩ := o
    exact ⟨ts, by rwa [hSim], by rwa [hFrom]⟩
  · exact (onward_of_crossing w o hNext (by rw [hSim]) hFrom).2

theorem onward_ticked (w : TwoWay s) (o : Oriented s entry) {next : UID}
    (hCrosses : trainMove dynamics s entry = .crosses next) : Onward s entry (ticked dynamics s entry) := by
  rcases @ticked_cases φ dynamics s entry with ⟨-, -, -, hStays⟩ | ⟨next, physics, hNext, -, hSim, hFrom⟩
  · exact absurd hCrosses (hStays next)
  · exact (onward_of_crossing w o hNext (by rw [hSim]) hFrom).1

theorem trainUid_ticked : (ticked dynamics s entry).sim.trainUid = entry.sim.trainUid := by
  rcases @ticked_cases φ dynamics s entry with ⟨physics, hSim, -⟩ | ⟨next, physics, -, -, hSim, -⟩
  · rw [hSim]
  · rw [hSim]

end Tick

/-! ## Runs -/

theorem Reached.topology_eq {s₀ s : EngineState} {fleet₀ fleet : List (TrainEntry φ)}
    (h : Reached dynamics s₀ fleet₀ s fleet) : s₀.topology = s.topology := by
  induction h with
  | start => rfl
  | tick hReached ih => exact ih.trans (tickAll_onlyOccupancy _ _).2.symm
  | change hReached hTopology ih => exact ih.trans hTopology.symm

theorem oriented_reached {s₀ : EngineState} (w : TwoWay s₀) {fleet₀ : List (TrainEntry φ)} {trainUid : UID}
    (hStart : ∀ entry ∈ fleet₀, entry.sim.trainUid = trainUid → Oriented s₀ entry) {s : EngineState}
    {fleet : List (TrainEntry φ)} (hReached : Reached dynamics s₀ fleet₀ s fleet) :
    ∀ entry ∈ fleet, entry.sim.trainUid = trainUid → Oriented s entry := by
  induction hReached with
  | start => exact hStart
  | @tick s fleet hReached ih =>
    intro entry hEntry hTrain
    rw [(tickAll_spec s fleet).2] at hEntry
    obtain ⟨before, hBefore, rfl⟩ := List.mem_map.mp (List.mem_filter.mp hEntry).1
    rw [trainUid_ticked] at hTrain
    exact (oriented_ticked (w.congr hReached.topology_eq) (ih before hBefore hTrain)).congr
      (tickAll_onlyOccupancy s fleet).2.symm
  | change hReached hTopology ih => exact fun entry hEntry hTrain => (ih entry hEntry hTrain).congr hTopology.symm

/-- A train that came from a neighbour of its section never turns round: in every state its section exists and the
train came from one of the two neighbours, and by every crossing it leaves towards the other. -/
theorem never_turns {s₀ : EngineState} (w : TwoWay s₀) {fleet₀ : List (TrainEntry φ)} {trainUid : UID}
    (hStart : ∀ entry ∈ fleet₀, entry.sim.trainUid = trainUid → Oriented s₀ entry) {s : EngineState}
    {fleet : List (TrainEntry φ)} (hReached : Reached dynamics s₀ fleet₀ s fleet) {entry : TrainEntry φ}
    (hEntry : entry ∈ fleet) (hTrain : entry.sim.trainUid = trainUid) :
    Oriented s entry ∧ ∀ next, trainMove dynamics s entry = .crosses next →
      Onward s entry (ticked dynamics s entry) := by
  have hOriented := oriented_reached w hStart hReached entry hEntry hTrain
  exact ⟨hOriented, fun next hCrosses => onward_ticked (w.congr hReached.topology_eq) hOriented hCrosses⟩

end Onward

/-! ## A train before a fork -/

theorem twoWay_of_listed {s : EngineState}
    (hBack : ∀ x ∈ traversableNodes s, ∀ y ∈ traversableNodes s, y ∈ portNeighbors s x → x ∈ portNeighbors s y)
    (hApart : ∀ ts ∈ s.trackSections.values, ts.sideA.neighborUid ≠ ts.sideB.neighborUid)
    (hLegs : ∀ sw ∈ s.switches.values, ∀ leg ∈ [sw.trunk, sw.straight, sw.divergent],
      (s.findTrackSection leg.neighborUid).isSome = true) : TwoWay s where
  back x y hx hy := hBack x (mem_traversableNodes hx) y (mem_traversableNodes hy)
  apart uid ts hFind := hApart ts (KeyedMap.find_eq_some_iff.mp hFind).1
  legs uid sw hFind leg hLeg _ := hLegs sw (KeyedMap.find_eq_some_iff.mp hFind).1 leg (by simpa using hLeg)

/-- A fork whose sections are a hundred metres long. -/
def measuredFork : ScenarioDir :=
  .station ([(1, 91, 10), (2, 10, 92), (3, 10, 93)].map fun (uid, a, b) =>
    { TrackSectionDoc.between uid a b with lengthM := some 100 }) [.joining 10 1 2 3] []

/-- On section 1, come from boundary node 91. -/
def beforeFork : TrainEntry (Rat × Rat) where
  sim := { trainUid := ⟨51⟩, currentSectionUid := ⟨1⟩, physics := (90, 20), totalAxles := 4 }
  fromUid := ⟨91⟩

/-- Over switch 10 the train goes on to section 2, come from the switch. -/
theorem never_turns_fork :
    Onward (loadedState measuredFork) beforeFork (ticked World.steadyTrains (loadedState measuredFork) beforeFork) := by
  have hTwoWay : TwoWay (loadedState measuredFork) :=
    twoWay_of_listed (by decide +kernel) (by decide +kernel) (by decide +kernel)
  have hSide : ((loadedState measuredFork).findTrackSection ⟨1⟩).map (fun ts => ts.sideA.neighborUid) = some ⟨91⟩ := by
    decide +kernel
  obtain ⟨ts, hFind, hA⟩ := Option.map_eq_some_iff.mp hSide
  have hMove : trainMove World.steadyTrains (loadedState measuredFork) beforeFork = .crosses ⟨2⟩ := by decide +kernel
  have hStart : ∀ entry ∈ [beforeFork], entry.sim.trainUid = ⟨51⟩ → Oriented (loadedState measuredFork) entry := by
    intro entry hEntry _
    rw [List.mem_singleton.mp hEntry]
    exact ⟨ts, hFind, Or.inl hA⟩
  exact (never_turns hTwoWay hStart Reached.start (List.mem_singleton_self beforeFork) rfl).2 ⟨2⟩ hMove

end Symulator.Trains
