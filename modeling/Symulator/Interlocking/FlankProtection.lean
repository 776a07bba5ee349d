import Symulator.Srk.RouteCommands
import Symulator.Validation.Layer2Validator

/-! # Flank protection

A switch beside a route is to be locked in a position that leads trains away from the route. The policy
looks for it at the unused leg of a path switch itself, where an accepted layout has a section or a
boundary node.
-/

namespace Symulator.Interlocking

open Symulator.Library Symulator.Engine Symulator.Srk Symulator.Validation

set_option autoImplicit false

/-! ## Switches beside a route -/

/-- Coming from `came`, the track leads over `node` and on over sections to the switch `f`, reached from
`last`. -/
inductive LeadsTo (s : EngineState) : UID → UID → UID → UID → Prop
  | switch {came f : UID} {sw : Switch} (hNonzero : f.value ≠ 0) (hSection : s.findTrackSection f = none)
      (hFind : s.findSwitch f = some sw) : LeadsTo s came f f came
  | onward {came node f last : UID} {sec : TrackSection} (hNonzero : node.value ≠ 0)
      (hFind : s.findTrackSection node = some sec)
      (hRest : LeadsTo s node (aheadPort sec came).neighborUid f last) : LeadsTo s came node f last

def Adjacent (uids : List UID) (a b : UID) : Prop := [a, b] <:+: uids ∨ [b, a] <:+: uids

/-- The unused leg of a switch on the path leads to the switch `f` off the path, reached from `last`. -/
def IsFlank (s : EngineState) (rp : RoutePath) (f last : UID) : Prop :=
  f ∉ rp.nodes.map RoutePathNode.uid ∧
    ∃ node ∈ rp.nodes, node.kind = .switch ∧ ∃ sw, s.findSwitch node.uid = some sw ∧
      ∃ leg ∈ [sw.trunk, sw.straight, sw.divergent],
        ¬ Adjacent (rp.nodes.map RoutePathNode.uid) node.uid leg.neighborUid ∧
          LeadsTo s node.uid leg.neighborUid f last

/-- No train reaching `f` over another leg than the one to `last` goes on to `last`. -/
def Deflects (s : EngineState) (f last : UID) : Prop :=
  ∀ currentUid fromUid current, s.findTrackSection currentUid = some current →
    (aheadPort current fromUid).neighborUid = f → currentUid ≠ last →
    (resolveNextSection s currentUid fromUid).sectionUid ≠ some last

/-- Once the request is carried out, every switch beside its route is locked by it and leads away from it,
unless its trunk lies towards the route. -/
def FlanksProtected (sys : ControlSystem) (s : EngineState) (cmd : RequestRouteCmd) : Prop :=
  ∀ rp f last, findRoutePath s cmd.fromSignalUid cmd.toSignalUid kPolicies = some rp → IsFlank s rp f last →
    ∃ sw, (applyAll s (sys.executeCommand s (.requestRoute cmd)).1).findSwitch f = some sw ∧
      sw.lockedByRouteUid = some (makeRouteUid cmd.fromSignalUid cmd.toSignalUid s.currentTick) ∧
      (sw.trunk.neighborUid ≠ last → Deflects (applyAll s (sys.executeCommand s (.requestRoute cmd)).1) f last)

/-! ## What the policy covers -/

/-- What a path switch asks of the switch `f` directly at the leg that its position leaves unused. -/
def flankPosition (s : EngineState) (f : Switch) (node : RoutePathNode) : Option SwitchPosition :=
  match s.findSwitch node.uid with
  | none => none
  | some sw =>
    let unused := if node.requiredPosition = .straight then sw.divergent else sw.straight
    if node.kind = .switch ∧ unused.neighborUid = f.uid then some (deflectPosition f sw.uid) else none

/-- The last position asked of `f`, among those it does not stand in already. -/
def settledPosition (s : EngineState) (rp : RoutePath) (f : Switch) : SwitchPosition :=
  ((rp.nodes.filterMap (flankPosition s f)).filter (· ≠ f.position)).getLastD f.position

/-- Standing in `position`, the switch leads no train from its trunk section to `last`. -/
def LeadsAway (s : EngineState) (sw : Switch) (last : UID) (position : SwitchPosition) : Prop :=
  ∀ sec, s.findTrackSection sw.trunk.neighborUid = some sec →
    sec.sideA.neighborUid = sw.uid ∨ sec.sideB.neighborUid = sw.uid →
    (traverseSwitch { sw with position } sw.trunk.neighborUid sw.uid).sectionUid ≠ some last

/-- The switch has the UID of a boundary node and stands at the unused leg of a path switch, or it carries
the lock of the route already; and where it settles it leads away. -/
def FlankCovered (world s : EngineState) (rp : RoutePath) (routeUid f last : UID) : Prop :=
  ∃ sw, s.findSwitch f = some sw ∧
    (sw.lockedByRouteUid = some routeUid ∨
      (world.findBoundaryNode f).isSome = true ∧ ∃ node ∈ rp.nodes, (flankPosition s sw node).isSome = true) ∧
    (sw.trunk.neighborUid ≠ last → LeadsAway s sw last (settledPosition s rp sw))

theorem LeadsTo.isSwitch {s : EngineState} {came node f last : UID} (h : LeadsTo s came node f last) :
    f.value ≠ 0 ∧ s.findTrackSection f = none ∧ ∃ sw, s.findSwitch f = some sw := by
  induction h with
  | switch hNonzero hSection hFind => exact ⟨hNonzero, hSection, _, hFind⟩
  | onward _ _ _ ih => exact ih

theorem leadsTo_iff_of_section {s : EngineState} {came node f last : UID} {sec : TrackSection}
    (hFind : s.findTrackSection node = some sec) :
    LeadsTo s came node f last ↔ node.value ≠ 0 ∧ LeadsTo s node (aheadPort sec came).neighborUid f last := by
  constructor
  · intro h
    cases h with
    | switch _ hSection _ =>
      rw [hFind] at hSection
      cases hSection
    | onward hNonzero hFind' hRest =>
      rw [hFind] at hFind'
      cases hFind'
      exact ⟨hNonzero, hRest⟩
  · rintro ⟨hNonzero, hRest⟩
    exact .onward hNonzero hFind hRest

/-- The entries of the policy for the switch `f`, as positions asked of it. -/
theorem flankPosition_eq_bind {s : EngineState} {f : Switch} (hFind : s.findSwitch f.uid = some f)
    (node : RoutePathNode) : flankPosition s f node =
      (flankNode s node).bind fun fnode => if fnode.uid = f.uid then some fnode.requiredPosition else none := by
  unfold flankNode flankPosition
  cases hSw : s.findSwitch node.uid with
  | none => simp
  | some sw =>
    by_cases hKind : node.kind = .switch
    · simp only [hKind, if_true, true_and, apply_ite SwitchLeg.neighborUid]
      generalize (if node.requiredPosition = .straight then sw.divergent.neighborUid
        else sw.straight.neighborUid) = unused
      by_cases hUnused : unused = f.uid
      · subst hUnused
        simp [hFind]
      · rw [if_neg hUnused]
        cases hOther : s.findSwitch unused with
        | none => rfl
        | some other =>
          have hUid : other.uid = unused := KeyedMap.key_of_find hOther
          simp [hUid, hUnused]
    · simp [hKind]

/-! ## After the request -/

section Request

variable {s : EngineState} {cmd : RequestRouteCmd} {rp : RoutePath} {f : Switch}
  (hFound : findRoutePath s cmd.fromSignalUid cmd.toSignalUid kPolicies = some rp)
  (hFind : s.findSwitch f.uid = some f) (hOff : f.uid ∉ rp.nodes.map RoutePathNode.uid)

include hFound hFind hOff

theorem mem_switchUids_iff_asked (tick : Nat) : f.uid ∈ (newRoute cmd tick rp).switchUids ↔
    ∃ node ∈ rp.nodes, (flankPosition s f node).isSome = true := by
  rw [mem_switchUids]
  constructor
  · rintro ⟨fnode, hMem, hUid⟩
    rcases List.mem_append.mp hMem with hPath | hFlank
    · exact absurd (hUid ▸ List.mem_map_of_mem (List.mem_of_mem_filter hPath)) hOff
    · rw [(isRoutePath_of_findRoutePath hFound).flank, List.mem_filterMap] at hFlank
      obtain ⟨node, hNode, hCase⟩ := hFlank
      refine ⟨node, hNode, ?_⟩
      rw [flankPosition_eq_bind hFind, hCase, Option.bind_some, if_pos hUid]
      rfl
  · rintro ⟨node, hNode, hAsked⟩
    obtain ⟨position, hAsked⟩ := Option.isSome_iff_exists.mp hAsked
    rw [flankPosition_eq_bind hFind, Option.bind_eq_some_iff] at hAsked
    obtain ⟨fnode, hCase, hUid⟩ := hAsked
    rw [Option.ite_none_right_eq_some] at hUid
    refine ⟨fnode, List.mem_append_right _ ?_, hUid.1⟩
    rw [(isRoutePath_of_findRoutePath hFound).flank, List.mem_filterMap]
    exact ⟨node, hNode, hCase⟩

theorem getLastD_askedPositions :
    (askedPositions (switchNodes rp) f.uid f.position).getLastD f.position = settledPosition s rp f := by
  have hPath : askedPositions (rp.nodes.filter fun node => node.kind = .switch) f.uid f.position = [] := by
    rw [askedPositions, List.filterMap_eq_nil_iff]
    intro node hNode
    have hNe : node.uid ≠ f.uid := fun hUid =>
      hOff (hUid ▸ List.mem_map_of_mem (List.mem_of_mem_filter hNode))
    simp [hNe]
  have hFlank : askedPositions rp.flankSwitches f.uid f.position =
      (rp.nodes.filterMap (flankPosition s f)).filter (· ≠ f.position) := by
    rw [(isRoutePath_of_findRoutePath hFound).flank, askedPositions, List.filterMap_filterMap,
      List.filter_filterMap]
    congr 1
    funext node
    rw [flankPosition_eq_bind hFind]
    cases flankNode s node with
    | none => rfl
    | some fnode =>
      by_cases hUid : fnode.uid = f.uid
      · simp [hUid, Option.filter_some]
      · simp [hUid]
  rw [settledPosition, switchNodes, ← hFlank]
  simp only [askedPositions] at hPath ⊢
  rw [List.filterMap_append, hPath, List.nil_append]

/-- The switch after the request: its legs are the same, its lock is the route's when it was asked for
anything, and it has settled. -/
theorem switch_afterRequest (tick : Nat) :
    ∃ sw, (applyAll s (executeRequestRoute s cmd tick kPolicies)).findSwitch f.uid = some sw ∧
      sw.topology = f.topology ∧
      (sw.lockedByRouteUid = some (newRoute cmd tick rp).uid ↔
        f.lockedByRouteUid = some (newRoute cmd tick rp).uid ∨
          ∃ node ∈ rp.nodes, (flankPosition s f node).isSome = true) ∧
      sw.position = settledPosition s rp f := by
  have hTopology := findSwitch_topology (topology_applyAll s (executeRequestRoute s cmd tick kPolicies)) f.uid
  rw [hFind, Option.map_some, Option.map_eq_some_iff] at hTopology
  obtain ⟨sw, hAfter, hLegs⟩ := hTopology
  refine ⟨sw, hAfter, hLegs, ?_, ?_⟩
  · have hLock := switchLock_request hFound tick f.uid
    rw [switchLock_of_find hAfter, switchLock_of_find hFind, Option.map_some, Option.some.injEq] at hLock
    rw [hLock, ← mem_switchUids_iff_asked hFound hFind hOff tick]
    split
    · rename_i hMem
      exact iff_of_true rfl (Or.inr hMem)
    · rename_i hMem
      rw [or_iff_left hMem]
  · have hPosition := switchPosition_settles hFound tick f.uid (switchPosition_of_find hFind)
    rw [switchPosition_of_find hAfter, Option.some.injEq] at hPosition
    rw [hPosition, getLastD_askedPositions hFound hFind hOff]

end Request

/-! ## Trains at the switch -/

theorem aheadPort_cases {sec : TrackSection} {fromUid f : UID} (h : (aheadPort sec fromUid).neighborUid = f) :
    sec.sideA.neighborUid = f ∨ sec.sideB.neighborUid = f := by
  unfold aheadPort at h
  split at h
  · exact Or.inr h
  · exact Or.inl h

theorem exists_aheadPort {sec : TrackSection} {f : UID}
    (h : sec.sideA.neighborUid = f ∨ sec.sideB.neighborUid = f) :
    ∃ fromUid, (aheadPort sec fromUid).neighborUid = f := by
  rcases h with h | h
  · refine ⟨⟨f.value + 1⟩, ?_⟩
    have hNe : sec.sideA.neighborUid ≠ ⟨f.value + 1⟩ := by
      rw [h]
      intro hEq
      have := congrArg UID.value hEq
      simp at this
    rw [aheadPort, if_neg hNe, h]
  · exact ⟨sec.sideA.neighborUid, by rw [aheadPort, if_pos rfl, h]⟩

/-- A train from a leg goes on to the trunk, if it goes on at all. -/
theorem sectionUid_ne_of_leg {sw : Switch} {currentUid nextUid last : UID}
    (hFrom : sw.trunk.neighborUid ≠ currentUid) (hTrunk : sw.trunk.neighborUid ≠ last) :
    (traverseSwitch sw currentUid nextUid).sectionUid ≠ some last := by
  rw [traverseSwitch, if_neg hFrom]
  dsimp only
  split
  · nofun
  · split
    · nofun
    · intro hEq
      exact hTrunk (Option.some.inj hEq)

theorem deflects_iff {s : EngineState} {sw : Switch} {last : UID} (hNonzero : sw.uid.value ≠ 0)
    (hSection : s.findTrackSection sw.uid = none) (hFind : s.findSwitch sw.uid = some sw)
    (hTrunk : sw.trunk.neighborUid ≠ last) : Deflects s sw.uid last ↔ LeadsAway s sw last sw.position := by
  have hResolve : ∀ {currentUid fromUid current}, s.findTrackSection currentUid = some current →
      (aheadPort current fromUid).neighborUid = sw.uid →
      resolveNextSection s currentUid fromUid = traverseSwitch sw currentUid sw.uid := by
    intro currentUid fromUid current hCurrent hAhead
    simp only [resolveNextSection, hCurrent, hAhead, hNonzero, if_false, hSection, hFind, Option.isSome_none,
      Bool.false_eq_true]
  constructor
  · intro hDeflects sec hSec hSide
    obtain ⟨fromUid, hAhead⟩ := exists_aheadPort hSide
    have hAway := hDeflects _ fromUid sec hSec hAhead hTrunk
    rwa [hResolve hSec hAhead] at hAway
  · intro hAway currentUid fromUid current hCurrent hAhead _
    rw [hResolve hCurrent hAhead]
    by_cases hFrom : sw.trunk.neighborUid = currentUid
    · subst hFrom
      exact hAway current hCurrent (aheadPort_cases hAhead)
    · exact sectionUid_ne_of_leg hFrom hTrunk

theorem leadsAway_congr {s t : EngineState} (h : s.topology = t.topology) {sw sw' : Switch}
    (hLegs : sw.topology = sw'.topology) {last : UID} {position : SwitchPosition}
    (hAway : LeadsAway s sw last position) : LeadsAway t sw' last position := by
  simp only [Switch.topology, SwitchTopology.mk.injEq] at hLegs
  obtain ⟨hUid, hTrunk, hStraight, hDivergent⟩ := hLegs
  intro sec hSec hSide
  have hSections := findTrackSection_topology h sw'.trunk.neighborUid
  rw [hSec, Option.map_some, Option.map_eq_some_iff] at hSections
  obtain ⟨sec', hSec', hPorts⟩ := hSections
  simp only [TrackSection.topology, SectionTopology.mk.injEq] at hPorts
  have := hAway sec' (hTrunk ▸ hSec') (by rw [hPorts.2.1, hPorts.2.2, hUid]; exact hSide)
  simpa only [traverseSwitch, hUid, hTrunk, hStraight, hDivergent] using this

/-! ## Accepted layouts -/

section Accepted

variable {dirs : List ScenarioDir} {s₀ s : EngineState} {results : List ScenarioMeta}
  (hLoad : loadWorld {} dirs = .ok (s₀, results)) (hAccepted : ∀ dir ∈ dirs, Accepted dir)
  (hTopology : s.topology = s₀.topology)

include hLoad hAccepted hTopology

/-- Where the layout is accepted, the policy asks nothing of a switch that shares its UID with no boundary
node. -/
theorem boundaryNode_of_flankPosition {f : Switch} {node : RoutePathNode} (hNonzero : f.uid.value ≠ 0)
    (hSection : s.findTrackSection f.uid = none) (hAsked : (flankPosition s f node).isSome = true) :
    (s₀.findBoundaryNode f.uid).isSome = true := by
  have hSwitch := findSwitch_topology hTopology node.uid
  unfold flankPosition at hAsked
  cases hFind : s.findSwitch node.uid with
  | none => simp [hFind] at hAsked
  | some sw =>
    rw [hFind, Option.map_some, eq_comm, Option.map_eq_some_iff] at hSwitch
    obtain ⟨sw₀, hFind₀, hLegs⟩ := hSwitch
    simp only [Switch.topology, SwitchTopology.mk.injEq] at hLegs
    obtain ⟨-, -, hStraight, hDivergent⟩ := hLegs
    have hKnown : ∀ leg ∈ [sw₀.trunk, sw₀.straight, sw₀.divergent], leg.neighborUid = f.uid →
        (s₀.findBoundaryNode f.uid).isSome = true := by
      intro leg hLeg hUid
      rcases hUid ▸ leg_of_accepted hLoad hAccepted hFind₀ hLeg with hZero | hOther | hNode
      · exact absurd hZero hNonzero
      · rw [← isSome_findTrackSection hTopology, hSection] at hOther
        cases hOther
      · exact hNode
    simp only [hFind, Option.isSome_ite] at hAsked
    obtain ⟨-, hUnused⟩ := hAsked
    split at hUnused
    · exact hKnown sw₀.divergent (by simp) (hDivergent.trans hUnused)
    · exact hKnown sw₀.straight (by simp) (hStraight.trans hUnused)

/-- In an accepted layout a request protects the flanks of its route exactly when every switch beside the
route is covered. -/
theorem flanks_protected_iff (sys : ControlSystem) (cmd : RequestRouteCmd) :
    FlanksProtected sys s cmd ↔ ∀ rp f last,
      findRoutePath s cmd.fromSignalUid cmd.toSignalUid kPolicies = some rp → IsFlank s rp f last →
      FlankCovered s₀ s rp (makeRouteUid cmd.fromSignalUid cmd.toSignalUid s.currentTick) f last := by
  refine forall_congr' fun rp => forall_congr' fun f => forall_congr' fun last =>
    forall_congr' fun hFound => forall_congr' fun hFlank => ?_
  obtain ⟨hOff, node, hNode, hKind, pathSw, hPathSw, leg, hLeg, hUnused, hLeads⟩ := hFlank
  obtain ⟨hNonzero, hSection, sw, hFind⟩ := hLeads.isSwitch
  obtain rfl : sw.uid = f := KeyedMap.key_of_find hFind
  obtain ⟨sw', hAfter, hLegs, hLock, hPosition⟩ := switch_afterRequest hFound hFind hOff s.currentTick
  have hAfterTopology := topology_applyAll s (executeRequestRoute s cmd s.currentTick kPolicies)
  have hTrunk : sw'.trunk.neighborUid = sw.trunk.neighborUid := congrArg SwitchTopology.trunk hLegs
  have hUid : sw'.uid = sw.uid := congrArg SwitchTopology.uid hLegs
  have hAway : ∀ position, LeadsAway (applyAll s (executeRequestRoute s cmd s.currentTick kPolicies)) sw' last
      position ↔ LeadsAway s sw last position := fun position =>
    ⟨leadsAway_congr hAfterTopology hLegs, leadsAway_congr hAfterTopology.symm hLegs.symm⟩
  have hDeflects : sw'.trunk.neighborUid ≠ last →
      (Deflects (applyAll s (executeRequestRoute s cmd s.currentTick kPolicies)) sw.uid last ↔
        LeadsAway s sw last (settledPosition s rp sw)) := by
    intro hFaces
    have hGone : (applyAll s (executeRequestRoute s cmd s.currentTick kPolicies)).findTrackSection sw'.uid = none := by
      rw [← Option.isNone_iff_eq_none, ← Option.not_isSome, isSome_findTrackSection hAfterTopology, hUid, hSection]
      rfl
    rw [← hUid, deflects_iff (hUid ▸ hNonzero) hGone (hUid ▸ hAfter) hFaces, hPosition]
    exact hAway _
  have hHeld : (sw'.lockedByRouteUid =
        some (makeRouteUid cmd.fromSignalUid cmd.toSignalUid s.currentTick)) ↔
      (sw.lockedByRouteUid = some (makeRouteUid cmd.fromSignalUid cmd.toSignalUid s.currentTick) ∨
        (s₀.findBoundaryNode sw.uid).isSome = true ∧
          ∃ node ∈ rp.nodes, (flankPosition s sw node).isSome = true) := by
    refine hLock.trans (or_congr_right ⟨fun hAsked => ⟨?_, hAsked⟩, And.right⟩)
    obtain ⟨node, _, hAsked⟩ := hAsked
    exact boundaryNode_of_flankPosition hLoad hAccepted hTopology hNonzero hSection hAsked
  constructor
  · rintro ⟨sw'', hSw'', hLocked, hFaces⟩
    obtain rfl : sw' = sw'' := Option.some.inj (hAfter.symm.trans hSw'')
    refine ⟨sw, hFind, hHeld.mp hLocked, fun hNe => ?_⟩
    exact (hDeflects (hTrunk ▸ hNe)).mp (hFaces (hTrunk ▸ hNe))
  · rintro ⟨sw'', hSw'', hLocked, hFaces⟩
    obtain rfl : sw = sw'' := Option.some.inj (hFind.symm.trans hSw'')
    refine ⟨sw', hAfter, hHeld.mpr hLocked, fun hNe => ?_⟩
    exact (hDeflects hNe).mpr (hFaces (hTrunk ▸ hNe))

end Accepted

theorem accepted_turnoutStation : ∀ dir ∈ [turnoutStation], Accepted dir := by
  intro dir hDir
  rw [List.mem_singleton.mp hDir]
  exact ⟨1, by decide +kernel⟩

/-- The turnout with signals on the sections that switch 2 joins. -/
def flankStation : ScenarioDir :=
  { turnoutStation with
    objectsJson :=
      some
        { signals := [(1, 1), (2, 2), (4, 4), (7, 5)].map fun (n, governed) =>
            .governing (stationObject .signal n) (stationObject .trackSection governed) } }

/-- The route from section 4 over switch 2 to section 5 is active. -/
def flankState : EngineState :=
  let s := loadedState flankStation
  applyAll s (executeRequestRoute s ⟨⟨stationObject .signal 4⟩, ⟨stationObject .signal 7⟩⟩ 0 kPolicies)

theorem accepted_flankStation : ∀ dir ∈ [flankStation], Accepted dir := by
  intro dir hDir
  rw [List.mem_singleton.mp hDir]
  exact ⟨1, by decide +kernel⟩

/-- Switch 2 stands beside the straight route over switch 1 and is covered: the route over it, requested in the same
tick, has got the same UID. In an accepted layout there is hardly another way, for at the leg of a switch stands no
other, unless it has the UID of a boundary node. -/
theorem flanks_protected_held : FlanksProtected { kind := .ml8 } flankState
      ⟨⟨stationObject .signal 1⟩, ⟨stationObject .signal 2⟩⟩ ∧
    ∃ rp, findRoutePath flankState ⟨stationObject .signal 1⟩ ⟨stationObject .signal 2⟩ kPolicies = some rp ∧
      IsFlank flankState rp ⟨stationObject .switch 2⟩ ⟨stationObject .trackSection 3⟩ := by
  have hPath : (findRoutePath flankState ⟨stationObject .signal 1⟩ ⟨stationObject .signal 2⟩ kPolicies).any
      (fun rp => rp.nodes = [⟨.trackSection, ⟨stationObject .trackSection 1⟩, .straight⟩,
        ⟨.switch, ⟨stationObject .switch 1⟩, .straight⟩,
        ⟨.trackSection, ⟨stationObject .trackSection 2⟩, .straight⟩]) = true := by decide +kernel
  have hLegs : (flankState.findSwitch ⟨stationObject .switch 1⟩).any (fun sw =>
      sw.topology = ⟨⟨stationObject .switch 1⟩, ⟨stationObject .trackSection 1⟩, ⟨stationObject .trackSection 2⟩,
        ⟨stationObject .trackSection 3⟩⟩) = true := by decide +kernel
  have hBeyond : (flankState.findTrackSection ⟨stationObject .trackSection 3⟩).any (fun sec =>
      (aheadPort sec ⟨stationObject .switch 1⟩).neighborUid = ⟨stationObject .switch 2⟩) = true := by
    decide +kernel
  have hHeld : (flankState.findSwitch ⟨stationObject .switch 2⟩).any (fun sw =>
      sw.lockedByRouteUid = some (makeRouteUid ⟨stationObject .signal 1⟩ ⟨stationObject .signal 2⟩ 0) ∧
        (findRoutePath flankState ⟨stationObject .signal 1⟩ ⟨stationObject .signal 2⟩ kPolicies).all fun rp =>
          (traverseSwitch { sw with position := settledPosition flankState rp sw } sw.trunk.neighborUid
            sw.uid).sectionUid ≠ some ⟨stationObject .trackSection 3⟩) = true := by decide +kernel
  have hNoSection : flankState.findTrackSection ⟨stationObject .switch 2⟩ = none := by decide +kernel
  obtain ⟨rp, hFound, hNodes⟩ := (Option.any_eq_true _ _).mp hPath
  obtain ⟨sw, hSw, hTopology⟩ := (Option.any_eq_true _ _).mp hLegs
  obtain ⟨sec, hSec, hAhead⟩ := (Option.any_eq_true _ _).mp hBeyond
  obtain ⟨flank, hFlankSw, hCovers⟩ := (Option.any_eq_true _ _).mp hHeld
  replace hNodes := of_decide_eq_true hNodes
  replace hTopology := of_decide_eq_true hTopology
  obtain ⟨hLocked, hAway⟩ := of_decide_eq_true hCovers
  simp only [Switch.topology, SwitchTopology.mk.injEq] at hTopology
  obtain ⟨-, hTrunk, hStraight, hDivergent⟩ := hTopology
  have hLeads : ∀ f last, LeadsTo flankState ⟨stationObject .switch 1⟩ sw.divergent.neighborUid f last ↔
      f = ⟨stationObject .switch 2⟩ ∧ last = ⟨stationObject .trackSection 3⟩ := by
    intro f last
    rw [hDivergent, leadsTo_iff_of_section hSec, of_decide_eq_true hAhead]
    constructor
    · rintro ⟨-, hRest⟩
      cases hRest with
      | switch => exact ⟨rfl, rfl⟩
      | onward _ hFind _ =>
        rw [hNoSection] at hFind
        cases hFind
    · rintro ⟨rfl, rfl⟩
      exact ⟨by decide +kernel, .switch (by decide +kernel) hNoSection hFlankSw⟩
  constructor
  · have hIff := @flanks_protected_iff [flankStation] (loadedState flankStation) flankState _ rfl accepted_flankStation
      (topology_applyAll _ _) { kind := .ml8 } ⟨⟨stationObject .signal 1⟩, ⟨stationObject .signal 2⟩⟩
    refine hIff.mpr fun rp' f last hFound' hFlank => ?_
    cases hFound.symm.trans hFound'
    obtain ⟨-, node, hNode, hKind, sw', hSw', leg, hLeg, hUnused, hTo⟩ := hFlank
    rw [hNodes] at hNode hUnused
    simp only [List.mem_cons, List.not_mem_nil, or_false] at hNode hLeg
    rcases hNode with rfl | rfl | rfl
    case inl | inr.inr => cases hKind
    cases hSw.symm.trans hSw'
    rcases hLeg with rfl | rfl | rfl
    · exact absurd (Or.inr (hTrunk ▸ ⟨[], [_], rfl⟩)) hUnused
    · exact absurd (Or.inl (hStraight ▸ ⟨[_], [], rfl⟩)) hUnused
    · obtain ⟨rfl, rfl⟩ := (hLeads f last).mp hTo
      exact ⟨flank, hFlankSw, Or.inl hLocked, fun _ _ _ _ =>
        of_decide_eq_true ((Option.all_eq_true _ _).mp hAway rp hFound)⟩
  · refine ⟨rp, hFound, ?_⟩
    rw [IsFlank, hNodes]
    refine ⟨by decide +kernel, _, List.mem_cons_of_mem _ List.mem_cons_self, rfl, sw, hSw, sw.divergent, by simp, ?_,
      (hLeads _ _).mpr ⟨rfl, rfl⟩⟩
    rw [hDivergent, Adjacent]
    decide +kernel

/-- Switch 2 stands beside the straight route over switch 1, with a section between the two, and stays free. -/
theorem flankSwitch_free : ¬ ∀ (dirs : List ScenarioDir) (s₀ : EngineState) (results : List ScenarioMeta),
    loadWorld {} dirs = .ok (s₀, results) → (∀ dir ∈ dirs, Accepted dir) →
    ∀ s, s.topology = s₀.topology → ∀ (sys : ControlSystem) (cmd : RequestRouteCmd),
      sys.checkCommand s (.requestRoute cmd) = none → FlanksProtected sys s cmd := by
  intro h
  have hPath : (findRoutePath (loadedState turnoutStation) ⟨stationObject .signal 1⟩ ⟨stationObject .signal 2⟩
      kPolicies).any (fun rp => rp.nodes = [⟨.trackSection, ⟨stationObject .trackSection 1⟩, .straight⟩,
        ⟨.switch, ⟨stationObject .switch 1⟩, .straight⟩,
        ⟨.trackSection, ⟨stationObject .trackSection 2⟩, .straight⟩]) = true := by decide +kernel
  have hLegs : ((loadedState turnoutStation).findSwitch ⟨stationObject .switch 1⟩).any (fun sw =>
      sw.divergent.neighborUid = ⟨stationObject .trackSection 3⟩) = true := by decide +kernel
  have hBeyond : ((loadedState turnoutStation).findTrackSection ⟨stationObject .trackSection 3⟩).any (fun sec =>
      (aheadPort sec ⟨stationObject .switch 1⟩).neighborUid = ⟨stationObject .switch 2⟩) = true := by
    decide +kernel
  have hOther : ((loadedState turnoutStation).findSwitch ⟨stationObject .switch 2⟩).isSome = true := by
    decide +kernel
  obtain ⟨rp, hFound, hNodes⟩ := (Option.any_eq_true _ _).mp hPath
  replace hNodes := of_decide_eq_true hNodes
  obtain ⟨sw, hSw, hDivergent⟩ := (Option.any_eq_true _ _).mp hLegs
  obtain ⟨sec, hSec, hAhead⟩ := (Option.any_eq_true _ _).mp hBeyond
  obtain ⟨sw₂, hSw₂⟩ := Option.isSome_iff_exists.mp hOther
  have hLeads : LeadsTo (loadedState turnoutStation) ⟨stationObject .switch 1⟩ sw.divergent.neighborUid
      ⟨stationObject .switch 2⟩ ⟨stationObject .trackSection 3⟩ := by
    rw [of_decide_eq_true hDivergent, leadsTo_iff_of_section hSec, of_decide_eq_true hAhead]
    exact ⟨by decide +kernel, .switch (by decide +kernel) (by decide +kernel) hSw₂⟩
  have hFlank : IsFlank (loadedState turnoutStation) rp ⟨stationObject .switch 2⟩
      ⟨stationObject .trackSection 3⟩ := by
    rw [IsFlank, hNodes]
    refine ⟨by decide +kernel, _, List.mem_cons_of_mem _ List.mem_cons_self, rfl, sw, hSw, sw.divergent, by simp,
      ?_, hLeads⟩
    rw [of_decide_eq_true hDivergent, Adjacent]
    decide +kernel
  have hProtected := h [turnoutStation] (loadedState turnoutStation) _ rfl accepted_turnoutStation _ rfl
    { kind := .ml8 } ⟨⟨stationObject .signal 1⟩, ⟨stationObject .signal 2⟩⟩ (by decide +kernel)
  obtain ⟨sw', hSw', hLocked, -⟩ := hProtected rp _ _ hFound hFlank
  have hFree : ((applyAll (loadedState turnoutStation) (executeRequestRoute (loadedState turnoutStation)
      ⟨⟨stationObject .signal 1⟩, ⟨stationObject .signal 2⟩⟩ 0 kPolicies)).findSwitch
        ⟨stationObject .switch 2⟩).all (fun sw => sw.lockedByRouteUid = none) = true := by decide +kernel
  have hNone := of_decide_eq_true ((Option.all_eq_true _ _).mp hFree sw' hSw')
  rw [hNone] at hLocked
  cases hLocked

end Symulator.Interlocking
