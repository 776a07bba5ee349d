import Symulator.Srk.CommandEffects

/-! # Requesting and cancelling a route

What the check of a route request establishes, and what its changes and those of a cancellation do to
every lock, position, aspect and derailer.
-/

namespace Symulator.Srk

open Symulator.Library Symulator.Engine

set_option autoImplicit false

/-! ## The path of a request -/

/-- The switches a route throws and locks: those on its path, then the flank switches. -/
def switchNodes (rp : RoutePath) : List RoutePathNode :=
  rp.nodes.filter (fun node => node.kind = .switch) ++ rp.flankSwitches

structure IsRoutePath (s : EngineState) (fromSignalUid toSignalUid : UID) (rp : RoutePath) : Prop where
  fromSignal : rp.fromSignalUid = fromSignalUid
  toSignal : rp.toSignalUid = toSignalUid
  sections : rp.sectionUids = nodeUids .trackSection rp.nodes
  switches : rp.switchUids = nodeUids .switch rp.nodes
  derailers : rp.derailerUids = derailersGuarding s rp.sectionUids
  nodup : (rp.nodes.map RoutePathNode.uid).Nodup
  switchNode : ∀ node ∈ rp.nodes, node.kind = .switch →
    s.findTrackSection node.uid = none ∧ ∃ sw, s.findSwitch node.uid = some sw
  required : ∀ node ∈ rp.nodes, node.requiredPosition = .straight ∨ node.requiredPosition = .divergent
  flank : rp.flankSwitches = rp.nodes.filterMap (flankNode s)

theorem isRoutePath_of_findRoutePath {s : EngineState} {fromSignalUid toSignalUid : UID} {rp : RoutePath}
    (h : findRoutePath s fromSignalUid toSignalUid kPolicies = some rp) :
    IsRoutePath s fromSignalUid toSignalUid rp := by
  unfold findRoutePath at h
  split at h
  · rename_i entry exit hEntry hExit
    split at h
    · cases h
    · rename_i core hCore
      have hIs := isCorePath_of_corePath hCore
      cases h
      refine ⟨hIs.fromSignal, hIs.toSignal, hIs.sections, hIs.switches, hIs.derailers, hIs.nodup,
        hIs.switchNode, hIs.required, ?_⟩
      simp only [hIs.noFlank, List.nil_append]
  · cases h

theorem section_of_findRoutePath {s : EngineState} {fromSignalUid toSignalUid : UID} {rp : RoutePath}
    (h : findRoutePath s fromSignalUid toSignalUid kPolicies = some rp) {uid : UID} (hUid : uid ∈ rp.sectionUids) :
    (∃ sig, s.findSignal fromSignalUid = some sig ∧ sig.governsSectionUid = uid) ∨
      (s.findTrackSection uid).isSome = true := by
  unfold findRoutePath at h
  split at h
  · rename_i entry exit hEntry hExit
    split at h
    · cases h
    · rename_i core hCore
      cases h
      rcases section_of_corePath hCore hUid with rfl | hSection
      · exact Or.inl ⟨entry, hEntry, rfl⟩
      · exact Or.inr hSection
  · cases h

theorem bfs_of_findRoutePath {s : EngineState} {fromSignalUid toSignalUid : UID} {rp : RoutePath}
    (h : findRoutePath s fromSignalUid toSignalUid kPolicies = some rp) (hNodes : 1 < rp.nodes.length) :
    ∃ start goal path, start ≠ goal ∧ bfs s start goal = some path ∧ rp.nodes = routePathNodes s {} path := by
  unfold findRoutePath at h
  split at h
  · rename_i entry exit hEntry hExit
    split at h
    · cases h
    · rename_i core hCore
      cases h
      obtain ⟨hNe, path, hBfs, hCoreNodes⟩ := bfs_of_corePath hCore hNodes
      exact ⟨_, _, path, hNe, hBfs, hCoreNodes⟩
  · cases h

theorem flankNode_congr {s t : EngineState} (h : s.topology = t.topology) : flankNode s = flankNode t := by
  funext node
  have hLegs : ∀ uid, (s.findSwitch uid).map Switch.topology = (t.findSwitch uid).map Switch.topology :=
    findSwitch_topology h
  unfold flankNode
  split
  · have hNode := hLegs node.uid
    cases hs : s.findSwitch node.uid <;> cases ht : t.findSwitch node.uid <;> rw [hs, ht] at hNode
    case none.some | some.none => cases hNode
    case some.some sw sw' =>
      have hSw := Option.some.inj hNode
      simp only [Switch.topology, SwitchTopology.mk.injEq] at hSw
      obtain ⟨hUid, -, hStraight, hDivergent⟩ := hSw
      simp only [hStraight, hDivergent, hUid]
      generalize (if node.requiredPosition = .straight then sw'.divergent.neighborUid
        else sw'.straight.neighborUid) = unusedLeg
      have hFlank := hLegs unusedLeg
      cases hs' : s.findSwitch unusedLeg <;> cases ht' : t.findSwitch unusedLeg <;> rw [hs', ht'] at hFlank
      case none.some | some.none => cases hFlank
      case some.some fl fl' =>
        have hFl := Option.some.inj hFlank
        simp only [Switch.topology, SwitchTopology.mk.injEq] at hFl
        obtain ⟨hUid', hTrunk, hStraight', hDivergent'⟩ := hFl
        simp only [deflectPosition, hUid', hTrunk, hStraight', hDivergent']
  · rfl

/-- Routes are found in the topology alone. -/
theorem findRoutePath_topology {s t : EngineState} (h : s.topology = t.topology) (fromSignalUid toSignalUid : UID) :
    findRoutePath s fromSignalUid toSignalUid kPolicies = findRoutePath t fromSignalUid toSignalUid kPolicies := by
  apply findRoutePath_congr h
  intro policy hPolicy rp
  rw [List.mem_singleton.mp hPolicy]
  simp only [flankProtectionPolicy, flankNode_congr h]

/-- A flank entry is for the switch at the unused leg of a path switch. -/
theorem flankNode_cases {s : EngineState} {node fnode : RoutePathNode} (h : flankNode s node = some fnode) :
    node.kind = .switch ∧ ∃ sw flankSw, s.findSwitch node.uid = some sw ∧
      s.findSwitch fnode.uid = some flankSw ∧
      fnode.uid =
        (if node.requiredPosition = .straight then sw.divergent.neighborUid else sw.straight.neighborUid) ∧
      fnode.requiredPosition = deflectPosition flankSw node.uid := by
  unfold flankNode at h
  split at h
  · rename_i hKind
    cases hSw : s.findSwitch node.uid with
    | none =>
      simp only [hSw] at h
      cases h
    | some sw =>
      have hUid : sw.uid = node.uid := KeyedMap.key_of_find hSw
      simp only [hSw] at h
      split at h
      · cases h
      · rename_i flankSw hFlank
        have hFlankUid : flankSw.uid = _ := KeyedMap.key_of_find hFlank
        cases h
        exact ⟨hKind, sw, flankSw, rfl, by rw [hFlankUid]; exact hFlank, hFlankUid, by rw [hUid]⟩
  · cases h

theorem IsRoutePath.exists_switch {s : EngineState} {fromSignalUid toSignalUid : UID} {rp : RoutePath}
    (h : IsRoutePath s fromSignalUid toSignalUid rp) {node : RoutePathNode} (hNode : node ∈ switchNodes rp) :
    ∃ sw, s.findSwitch node.uid = some sw := by
  rcases List.mem_append.mp hNode with hNode | hNode
  · rw [List.mem_filter, decide_eq_true_eq] at hNode
    exact (h.switchNode node hNode.1 hNode.2).2
  · rw [h.flank] at hNode
    obtain ⟨node', _, hFlank⟩ := List.mem_filterMap.mp hNode
    obtain ⟨-, sw, flankSw, -, hFind, -⟩ := flankNode_cases hFlank
    exact ⟨flankSw, hFind⟩

theorem IsRoutePath.exists_derailer {s : EngineState} {fromSignalUid toSignalUid : UID} {rp : RoutePath}
    (h : IsRoutePath s fromSignalUid toSignalUid rp) {u : UID} (hu : u ∈ rp.derailerUids) :
    ∃ d, s.findDerailer u = some d := by
  rw [h.derailers, mem_derailersGuarding] at hu
  obtain ⟨d, hFind, -⟩ := hu
  exact ⟨d, hFind⟩

/-! ## What the check establishes -/

structure Granted (s : EngineState) (cmd : RequestRouteCmd) (rp : RoutePath) : Prop where
  entry : ∃ sig, s.findSignal cmd.fromSignalUid = some sig ∧ sig.lockedByRouteUid = none
  found : findRoutePath s cmd.fromSignalUid cmd.toSignalUid kPolicies = some rp
  nodes : ∀ node ∈ rp.nodes, checkPathNode s node = none
  sections : ∀ uid ∈ rp.sectionUids, checkPathSection s uid = none

theorem exists_granted {s : EngineState} {cmd : RequestRouteCmd}
    (h : checkRequestRoute s cmd kPolicies = none) : ∃ rp, Granted s cmd rp := by
  unfold checkRequestRoute at h
  split at h
  · cases h
  · rename_i entry hEntry
    split at h
    · cases h
    · split at h
      · cases h
      · rename_i hLock
        split at h
        · cases h
        · rename_i rp hPath
          rw [Option.or_eq_none_iff, List.findSome?_eq_none_iff, List.findSome?_eq_none_iff] at h
          exact ⟨rp, ⟨entry, hEntry, Option.not_isSome_iff_eq_none.mp hLock⟩, hPath, h.1, h.2⟩

theorem Granted.check {s : EngineState} {cmd : RequestRouteCmd} {rp : RoutePath} (h : Granted s cmd rp) :
    checkRequestRoute s cmd kPolicies = none := by
  obtain ⟨entry, hEntry, hLock⟩ := h.entry
  have hExit : (s.findSignal cmd.toSignalUid).isSome = true := by
    cases hTo : s.findSignal cmd.toSignalUid with
    | none =>
      have hFound := h.found
      simp only [findRoutePath, hEntry, hTo] at hFound
      cases hFound
    | some exit => rfl
  obtain ⟨exit, hTo⟩ := Option.isSome_iff_exists.mp hExit
  simp only [checkRequestRoute, hEntry, hTo, hLock, h.found, Option.isSome_none, Bool.false_eq_true, if_false]
  rw [Option.or_eq_none_iff, List.findSome?_eq_none_iff, List.findSome?_eq_none_iff]
  exact ⟨h.nodes, h.sections⟩

theorem Granted.isRoutePath {s : EngineState} {cmd : RequestRouteCmd} {rp : RoutePath} (h : Granted s cmd rp) :
    IsRoutePath s cmd.fromSignalUid cmd.toSignalUid rp := isRoutePath_of_findRoutePath h.found

/-- No route holds the switch, nothing stands on it and it is at rest. -/
def Throwable (sw : Switch) : Prop :=
  sw.lockedByRouteUid = none ∧ sw.occupancy = .free ∧ sw.position ≠ .moving

theorem Granted.throwable {s : EngineState} {cmd : RequestRouteCmd} {rp : RoutePath} (h : Granted s cmd rp)
    {node : RoutePathNode} (hNode : node ∈ rp.nodes) (hKind : node.kind = .switch) {sw : Switch}
    (hFind : s.findSwitch node.uid = some sw) : Throwable sw := by
  have hCheck := h.nodes node hNode
  simp only [checkPathNode, hKind, if_true, hFind] at hCheck
  split at hCheck
  · cases hCheck
  · rename_i hOccupied
    split at hCheck
    · cases hCheck
    · rename_i hLock
      split at hCheck
      · cases hCheck
      · rename_i hMoving
        refine ⟨Option.not_isSome_iff_eq_none.mp hLock, ?_, hMoving⟩
        cases hOcc : sw.occupancy with
        | free => rfl
        | occupied => exact absurd hOcc hOccupied

/-- The entry an accepted request adds to the route map. -/
def newRoute (cmd : RequestRouteCmd) (tick : Nat) (rp : RoutePath) : RouteState where
  uid := makeRouteUid cmd.fromSignalUid cmd.toSignalUid tick
  fromSignalUid := cmd.fromSignalUid
  toSignalUid := cmd.toSignalUid
  sectionUids := rp.sectionUids
  switchUids := (switchNodes rp).map RoutePathNode.uid
  derailerUids := rp.derailerUids
  createdTick := tick

theorem routeState_eq {s : EngineState} {cmd : RequestRouteCmd} {rp : RoutePath}
    (h : IsRoutePath s cmd.fromSignalUid cmd.toSignalUid rp) (tick : Nat) :
    routeState s cmd tick rp = newRoute cmd tick rp := by
  have hFlank : rp.flankSwitches.filter (fun fnode => (s.findSwitch fnode.uid).isSome) = rp.flankSwitches := by
    apply List.filter_eq_self.mpr
    intro fnode hMem
    obtain ⟨sw, hFind⟩ := h.exists_switch (List.mem_append_right _ hMem)
    rw [hFind]
    rfl
  rw [routeState, newRoute, hFlank, h.switches, switchNodes, List.map_append, nodeUids]

/-- The changes of a request whose path is `rp`, in order. -/
theorem executeRequestRoute_eq {s : EngineState} {cmd : RequestRouteCmd} {rp : RoutePath}
    (h : findRoutePath s cmd.fromSignalUid cmd.toSignalUid kPolicies = some rp) (tick : Nat) :
    executeRequestRoute s cmd tick kPolicies =
      (switchNodes rp).flatMap (lockSwitch s (newRoute cmd tick rp).uid) ++
        rp.derailerUids.flatMap (unlockDerailer s (newRoute cmd tick rp).uid) ++
        [.signalAspectChange cmd.fromSignalUid .s2Proceed .auto (some (newRoute cmd tick rp).uid),
          .routeAdded (newRoute cmd tick rp)] := by
  simp only [executeRequestRoute, h, routeState_eq (isRoutePath_of_findRoutePath h), switchNodes,
    List.flatMap_append]
  rfl

theorem mem_lockSwitch {s : EngineState} {routeUid : UID} {node : RoutePathNode} {c : DeviceStateChange} :
    c ∈ lockSwitch s routeUid node ↔ ∃ sw, s.findSwitch node.uid = some sw ∧
      (c = .switchLocked node.uid routeUid ∨
        sw.position ≠ node.requiredPosition ∧
          c = .switchPositionChange node.uid node.requiredPosition .auto 0) := by
  unfold lockSwitch
  cases hFind : s.findSwitch node.uid with
  | none => simp
  | some sw =>
    by_cases hPos : sw.position = node.requiredPosition
    · simp [hPos]
    · simp [hPos, or_comm]

theorem mem_unlockDerailer {s : EngineState} {routeUid uid : UID} {c : DeviceStateChange} :
    c ∈ unlockDerailer s routeUid uid ↔ ∃ d, s.findDerailer uid = some d ∧ d.state = .locked ∧
      c = .derailerStateChange uid .unlocked .auto (some routeUid) := by
  unfold unlockDerailer
  cases hFind : s.findDerailer uid with
  | none => simp
  | some d =>
    by_cases hState : d.state = .locked
    · simp [hState]
    · simp [hState]

theorem mem_executeRequestRoute {s : EngineState} {cmd : RequestRouteCmd} {rp : RoutePath}
    (h : findRoutePath s cmd.fromSignalUid cmd.toSignalUid kPolicies = some rp) {tick : Nat}
    {c : DeviceStateChange} :
    c ∈ executeRequestRoute s cmd tick kPolicies ↔
      (∃ node ∈ switchNodes rp, c ∈ lockSwitch s (newRoute cmd tick rp).uid node) ∨
      (∃ uid ∈ rp.derailerUids, c ∈ unlockDerailer s (newRoute cmd tick rp).uid uid) ∨
      c = .signalAspectChange cmd.fromSignalUid .s2Proceed .auto (some (newRoute cmd tick rp).uid) ∨
      c = .routeAdded (newRoute cmd tick rp) := by
  rw [executeRequestRoute_eq h]
  simp only [List.mem_append, List.mem_flatMap, List.mem_cons, List.not_mem_nil, or_false, or_assoc]

/-- What holds of every kind of change that a request makes holds of all its changes. -/
theorem forall_mem_request {s : EngineState} {cmd : RequestRouteCmd} {tick : Nat} {P : DeviceStateChange → Prop}
    (hLocked : ∀ uid, P (.switchLocked uid (makeRouteUid cmd.fromSignalUid cmd.toSignalUid tick)))
    (hThrown : ∀ uid position, P (.switchPositionChange uid position .auto 0))
    (hUnlocked : ∀ uid, P (.derailerStateChange uid .unlocked .auto
      (some (makeRouteUid cmd.fromSignalUid cmd.toSignalUid tick))))
    (hCleared : P (.signalAspectChange cmd.fromSignalUid .s2Proceed .auto
      (some (makeRouteUid cmd.fromSignalUid cmd.toSignalUid tick))))
    (hAdded : ∀ route, P (.routeAdded route)) : ∀ c ∈ executeRequestRoute s cmd tick kPolicies, P c := by
  intro c hc
  cases hFound : findRoutePath s cmd.fromSignalUid cmd.toSignalUid kPolicies with
  | none =>
    simp only [executeRequestRoute, hFound] at hc
    cases hc
  | some rp =>
    rcases (mem_executeRequestRoute hFound).mp hc with ⟨node, -, hc⟩ | ⟨uid, -, hc⟩ | rfl | rfl
    · obtain ⟨sw, -, rfl | ⟨-, rfl⟩⟩ := mem_lockSwitch.mp hc
      · exact hLocked node.uid
      · exact hThrown node.uid node.requiredPosition
    · obtain ⟨d, -, -, rfl⟩ := mem_unlockDerailer.mp hc
      exact hUnlocked uid
    · exact hCleared
    · exact hAdded _

/-! ## After a request -/

section Request

variable {s : EngineState} {cmd : RequestRouteCmd} {rp : RoutePath}

theorem mem_switchUids {tick : Nat} {u : UID} :
    u ∈ (newRoute cmd tick rp).switchUids ↔ ∃ node ∈ switchNodes rp, node.uid = u := List.mem_map

variable (h : findRoutePath s cmd.fromSignalUid cmd.toSignalUid kPolicies = some rp) (tick : Nat) (u : UID)

include h

theorem exists_mem_request (P : DeviceStateChange → Prop) :
    (∃ c ∈ executeRequestRoute s cmd tick kPolicies, P c) ↔
      (∃ node ∈ switchNodes rp, P (.switchLocked node.uid (newRoute cmd tick rp).uid)) ∨
      (∃ node ∈ switchNodes rp, (switchPosition node.uid).read s ≠ some node.requiredPosition ∧
        P (.switchPositionChange node.uid node.requiredPosition .auto 0)) ∨
      (∃ uid ∈ rp.derailerUids, (derailerState uid).read s = some .locked ∧
        P (.derailerStateChange uid .unlocked .auto (some (newRoute cmd tick rp).uid))) ∨
      P (.signalAspectChange cmd.fromSignalUid .s2Proceed .auto (some (newRoute cmd tick rp).uid)) ∨
      P (.routeAdded (newRoute cmd tick rp)) := by
  constructor
  · rintro ⟨c, hc, hP⟩
    rcases (mem_executeRequestRoute h).mp hc with ⟨node, hNode, hc⟩ | ⟨uid, hUid, hc⟩ | rfl | rfl
    · obtain ⟨sw, hFind, rfl | ⟨hPos, rfl⟩⟩ := mem_lockSwitch.mp hc
      · exact Or.inl ⟨node, hNode, hP⟩
      · refine Or.inr (Or.inl ⟨node, hNode, ?_, hP⟩)
        simpa [switchPosition, hFind] using hPos
    · obtain ⟨d, hFind, hState, rfl⟩ := mem_unlockDerailer.mp hc
      refine Or.inr (Or.inr (Or.inl ⟨uid, hUid, ?_, hP⟩))
      simpa [derailerState, derailerHeld, hFind] using hState
    · exact Or.inr (Or.inr (Or.inr (Or.inl hP)))
    · exact Or.inr (Or.inr (Or.inr (Or.inr hP)))
  · have hSwitch : ∀ node ∈ switchNodes rp, ∃ sw, s.findSwitch node.uid = some sw :=
      fun _ hNode => (isRoutePath_of_findRoutePath h).exists_switch hNode
    rintro (⟨node, hNode, hP⟩ | ⟨node, hNode, hPos, hP⟩ | ⟨uid, hUid, hState, hP⟩ | hP | hP)
    · obtain ⟨sw, hFind⟩ := hSwitch node hNode
      refine ⟨_, (mem_executeRequestRoute h).mpr (Or.inl ⟨node, hNode, ?_⟩), hP⟩
      exact mem_lockSwitch.mpr ⟨sw, hFind, Or.inl rfl⟩
    · obtain ⟨sw, hFind⟩ := hSwitch node hNode
      refine ⟨_, (mem_executeRequestRoute h).mpr (Or.inl ⟨node, hNode, ?_⟩), hP⟩
      refine mem_lockSwitch.mpr ⟨sw, hFind, Or.inr ⟨?_, rfl⟩⟩
      simpa [switchPosition, hFind] using hPos
    · refine ⟨_, (mem_executeRequestRoute h).mpr (Or.inr (Or.inl ⟨uid, hUid, ?_⟩)), hP⟩
      obtain ⟨held, hHeld, hLocked⟩ := Option.map_eq_some_iff.mp hState
      obtain ⟨d, hFind, rfl⟩ := Option.map_eq_some_iff.mp hHeld
      exact mem_unlockDerailer.mpr ⟨d, hFind, hLocked, rfl⟩
    · exact ⟨_, (mem_executeRequestRoute h).mpr (Or.inr (Or.inr (Or.inl rfl))), hP⟩
    · exact ⟨_, (mem_executeRequestRoute h).mpr (Or.inr (Or.inr (Or.inr rfl))), hP⟩

/-- The one change of a request to a signal clears its entry signal. -/
theorem signalAspectChange_mem_request {aspect : SignalAspect} {cause : ChangeCause} {routeUid : Option UID} :
    .signalAspectChange u aspect cause routeUid ∈ executeRequestRoute s cmd tick kPolicies ↔
      u = cmd.fromSignalUid ∧ aspect = .s2Proceed ∧ cause = .auto ∧
        routeUid = some (newRoute cmd tick rp).uid := by
  have hMem := exists_mem_request h tick (fun c => c = .signalAspectChange u aspect cause routeUid)
  simp only [reduceCtorEq, and_false, exists_false, false_or, or_false, exists_eq_right,
    DeviceStateChange.signalAspectChange.injEq] at hMem
  rw [hMem, @eq_comm _ cmd.fromSignalUid, @eq_comm _ SignalAspect.s2Proceed, @eq_comm _ ChangeCause.auto,
    @eq_comm _ (some _)]

omit u in
theorem routeAdded_mem_request {route : RouteState} :
    .routeAdded route ∈ executeRequestRoute s cmd tick kPolicies ↔ route = newRoute cmd tick rp := by
  have hMem := exists_mem_request h tick (fun c => c = .routeAdded route)
  simp only [reduceCtorEq, and_false, exists_false, false_or, exists_eq_right,
    DeviceStateChange.routeAdded.injEq] at hMem
  rw [hMem, eq_comm]

theorem switchLock_request :
    (switchLock u).read (applyAll s (executeRequestRoute s cmd tick kPolicies)) =
      ((switchLock u).read s).map (fun b =>
        if u ∈ (newRoute cmd tick rp).switchUids then some (newRoute cmd tick rp).uid else b) := by
  apply Register.read_foldl_of_iff
  · rw [exists_mem_request h]
    simp [switchLock, switchLockWrite]
  · rw [exists_mem_request h, mem_switchUids]
    simp [switchLock, switchLockWrite, eq_comm]

theorem signalLock_request :
    (signalLock u).read (applyAll s (executeRequestRoute s cmd tick kPolicies)) =
      ((signalLock u).read s).map (fun b =>
        if u = cmd.fromSignalUid then some (newRoute cmd tick rp).uid else b) := by
  apply Register.read_foldl_of_iff
  · rw [exists_mem_request h]
    simp [signalLock, signalLockWrite]
  · rw [exists_mem_request h]
    simp [signalLock, signalLockWrite]

theorem signalAspect_request :
    (signalAspect u).read (applyAll s (executeRequestRoute s cmd tick kPolicies)) =
      ((signalAspect u).read s).map (fun b => if u = cmd.fromSignalUid then .s2Proceed else b) := by
  apply Register.read_foldl_of_iff
  · rw [exists_mem_request h]
    simp [signalAspect, signalAspectWrite]
  · rw [exists_mem_request h]
    simp [signalAspect, signalAspectWrite]

theorem derailerState_request :
    (derailerState u).read (applyAll s (executeRequestRoute s cmd tick kPolicies)) =
      ((derailerState u).read s).map (fun b => if u ∈ rp.derailerUids then .unlocked else b) := by
  have hRead : (derailerState u).read (applyAll s (executeRequestRoute s cmd tick kPolicies)) =
      ((derailerState u).read s).map (fun b =>
        if u ∈ rp.derailerUids ∧ (derailerState u).read s = some .locked then .unlocked else b) := by
    apply Register.read_foldl_of_iff
    · rw [exists_mem_request h]
      simp [derailerState, derailerStateWrite]
    · rw [exists_mem_request h]
      simp [derailerState, derailerStateWrite]
  rw [hRead]
  cases (derailerState u).read s with
  | none => rfl
  | some b => cases b <;> simp

theorem derailerLock_request :
    (derailerLock u).read (applyAll s (executeRequestRoute s cmd tick kPolicies)) =
      ((derailerLock u).read s).map (fun b =>
        if u ∈ rp.derailerUids ∧ (derailerState u).read s = some .locked then
          some (newRoute cmd tick rp).uid
        else b) := by
  apply Register.read_foldl_of_iff
  · rw [exists_mem_request h]
    simp [derailerLock, derailerLockWrite]
  · rw [exists_mem_request h]
    simp [derailerLock, derailerLockWrite]

/-- The positions that the nodes of a path ask of a switch which stands elsewhere, in order. -/
def askedPositions (nodes : List RoutePathNode) (u : UID) (position : SwitchPosition) : List SwitchPosition :=
  nodes.filterMap fun node =>
    if node.uid = u ∧ node.requiredPosition ≠ position then some node.requiredPosition else none

omit h tick in
theorem mem_askedPositions {nodes : List RoutePathNode} {u : UID} {position asked : SwitchPosition} :
    asked ∈ askedPositions nodes u position ↔
      ∃ node ∈ nodes, node.uid = u ∧ node.requiredPosition ≠ position ∧ node.requiredPosition = asked := by
  simp only [askedPositions, List.mem_filterMap, Option.ite_none_right_eq_some, Option.some.injEq, and_assoc]

theorem switchPosition_writes {position : SwitchPosition} (hRead : (switchPosition u).read s = some position) :
    (executeRequestRoute s cmd tick kPolicies).filterMap (switchPosition u).write =
      askedPositions (switchNodes rp) u position := by
  have hNode : ∀ node ∈ switchNodes rp,
      (lockSwitch s (newRoute cmd tick rp).uid node).filterMap (switchPosition u).write =
        (if node.uid = u ∧ node.requiredPosition ≠ position then some node.requiredPosition else none).toList := by
    intro node hMem
    obtain ⟨sw, hFind⟩ := (isRoutePath_of_findRoutePath h).exists_switch hMem
    simp only [lockSwitch, hFind]
    by_cases hUid : node.uid = u
    · subst hUid
      have hPosition : sw.position = position := Option.some.inj ((switchPosition_of_find hFind).symm.trans hRead)
      by_cases hStands : node.requiredPosition = position
      · simp [hPosition, hStands, switchPosition, switchPositionWrite]
      · simp [hPosition, hStands, Ne.symm hStands, switchPosition, switchPositionWrite]
    · by_cases hStands : sw.position = node.requiredPosition
      · simp [hUid, hStands, switchPosition, switchPositionWrite]
      · simp [hUid, Ne.symm hUid, hStands, switchPosition, switchPositionWrite]
  have hDerailers : (rp.derailerUids.flatMap (unlockDerailer s (newRoute cmd tick rp).uid)).filterMap
      (switchPosition u).write = [] := by
    rw [List.filterMap_eq_nil_iff]
    intro c hc
    obtain ⟨uid, _, hc⟩ := List.mem_flatMap.mp hc
    obtain ⟨d, _, _, rfl⟩ := mem_unlockDerailer.mp hc
    rfl
  rw [executeRequestRoute_eq h, List.filterMap_append, List.filterMap_append, hDerailers, List.append_nil,
    List.filterMap_flatMap, List.flatMap_congr hNode, ← List.filterMap_eq_flatMap_toList]
  exact List.append_nil _

/-- A request leaves a switch in the last position asked of it, or where it stood when none is. -/
theorem switchPosition_settles {position : SwitchPosition} (hRead : (switchPosition u).read s = some position) :
    (switchPosition u).read (applyAll s (executeRequestRoute s cmd tick kPolicies)) =
      some ((askedPositions (switchNodes rp) u position).getLastD position) := by
  rw [← switchPosition_writes h tick u hRead, ← lastWrite_eq_getLastD]
  exact ((switchPosition u).read_foldl s _).trans (by rw [hRead, Option.map_some])

/-- A request leaves a switch where it stood, or puts it where one of its nodes wants it. -/
theorem switchPosition_request {position : SwitchPosition} (hRead : (switchPosition u).read s = some position) :
    ((∀ node ∈ switchNodes rp, node.uid = u → node.requiredPosition = position) ∧
      (switchPosition u).read (applyAll s (executeRequestRoute s cmd tick kPolicies)) = some position) ∨
    ∃ node ∈ switchNodes rp, node.uid = u ∧ node.requiredPosition ≠ position ∧
      (switchPosition u).read (applyAll s (executeRequestRoute s cmd tick kPolicies)) =
        some node.requiredPosition := by
  have hAfter := switchPosition_settles h tick u hRead
  rcases List.eq_nil_or_concat' (askedPositions (switchNodes rp) u position) with hNone | ⟨before, last, hAsked⟩
  · left
    rw [hNone] at hAfter
    refine ⟨fun node hNode hUid => ?_, hAfter⟩
    by_contra hPos
    have hMem := mem_askedPositions.mpr ⟨node, hNode, hUid, hPos, rfl⟩
    rw [hNone] at hMem
    cases hMem
  · right
    have hMem : last ∈ askedPositions (switchNodes rp) u position := by
      rw [hAsked]
      exact List.mem_append_right _ (List.mem_singleton_self last)
    obtain ⟨node, hNode, hUid, hPos, rfl⟩ := mem_askedPositions.mp hMem
    rw [hAsked, List.getLastD_concat] at hAfter
    exact ⟨node, hNode, hUid, hPos, hAfter⟩

omit u in
/-- A request alters a position exactly where one of its nodes asks for another one. -/
theorem switchPosition_request_ne {u : UID} {position : SwitchPosition}
    (hRead : (switchPosition u).read s = some position) :
    (switchPosition u).read (applyAll s (executeRequestRoute s cmd tick kPolicies)) ≠ some position ↔
      ∃ node ∈ switchNodes rp, node.uid = u ∧ node.requiredPosition ≠ position := by
  rcases switchPosition_request h tick u hRead with ⟨hAll, hAfter⟩ | ⟨node, hNode, hUid, hPos, hAfter⟩
  · rw [hAfter]
    constructor
    · intro hNe
      exact absurd rfl hNe
    · rintro ⟨node, hNode, hUid, hPos⟩
      exact absurd (hAll node hNode hUid) hPos
  · rw [hAfter]
    constructor
    · intro _
      exact ⟨node, hNode, hUid, hPos⟩
    · intro _ hEq
      exact hPos (Option.some.inj hEq)

theorem routes_request :
    (applyAll s (executeRequestRoute s cmd tick kPolicies)).routes = s.routes.emplace (newRoute cmd tick rp) := by
  rw [executeRequestRoute_eq h, applyAll_append]
  have hSilent : ∀ c ∈ (switchNodes rp).flatMap (lockSwitch s (newRoute cmd tick rp).uid) ++
      rp.derailerUids.flatMap (unlockDerailer s (newRoute cmd tick rp).uid), writesRoutes c = false := by
    intro c hc
    rcases List.mem_append.mp hc with hc | hc
    · obtain ⟨node, _, hc⟩ := List.mem_flatMap.mp hc
      obtain ⟨sw, _, rfl | ⟨_, rfl⟩⟩ := mem_lockSwitch.mp hc <;> rfl
    · obtain ⟨uid, _, hc⟩ := List.mem_flatMap.mp hc
      obtain ⟨d, _, _, rfl⟩ := mem_unlockDerailer.mp hc
      rfl
  rw [← routes_applyAll_of_silent hSilent s]
  rfl

end Request

/-! ## After a cancellation -/

section Cancel

variable {s : EngineState} {cmd : CancelRouteCmd} {route : RouteState}
  (h : s.findRoute cmd.routeUid = some route) (u : UID)

include h

theorem exists_mem_cancel (P : DeviceStateChange → Prop)
    (hQuiet : ¬ P (.emergencyRouteReleaseExecuted cmd.routeUid)) :
    (∃ c ∈ executeCancelRoute s cmd, P c) ↔
      P (.signalAspectChange route.fromSignalUid .s1Stop .command (some cmd.routeUid)) ∨
      (∃ uid ∈ route.switchUids, P (.switchUnlocked uid cmd.routeUid)) ∨
      (∃ uid ∈ route.derailerUids, (derailerState uid).read s = some .unlocked ∧
        P (.derailerStateChange uid .locked .auto none)) ∨
      P (.routeRemoved cmd.routeUid (if cmd.force then "FORCE" else "OPERATOR_CANCEL")) := by
  have hDerailer : ∀ uid, (∃ c ∈ relockDerailer s uid, P c) ↔
      (derailerState uid).read s = some .unlocked ∧ P (.derailerStateChange uid .locked .auto none) := by
    intro uid
    simp only [relockDerailer, derailerState, derailerHeld]
    cases s.findDerailer uid with
    | none => simp
    | some d => by_cases hState : d.state = .unlocked <;> simp [hState]
  rw [executeCancelRoute]
  simp only [h, List.mem_append, List.mem_singleton, List.mem_map, List.mem_flatMap]
  constructor
  · rintro ⟨c, (((rfl | ⟨uid, hUid, rfl⟩) | ⟨uid, hUid, hc⟩) | hc) | rfl, hP⟩
    · exact Or.inl hP
    · exact Or.inr (Or.inl ⟨uid, hUid, hP⟩)
    · exact Or.inr (Or.inr (Or.inl ⟨uid, hUid, (hDerailer uid).mp ⟨c, hc, hP⟩⟩))
    · split at hc
      · rw [List.mem_singleton.mp hc] at hP
        exact absurd hP hQuiet
      · cases hc
    · exact Or.inr (Or.inr (Or.inr hP))
  · rintro (hP | ⟨uid, hUid, hP⟩ | ⟨uid, hUid, hP⟩ | hP)
    · exact ⟨_, Or.inl (Or.inl (Or.inl (Or.inl rfl))), hP⟩
    · exact ⟨_, Or.inl (Or.inl (Or.inl (Or.inr ⟨uid, hUid, rfl⟩))), hP⟩
    · obtain ⟨c, hc, hP⟩ := (hDerailer uid).mpr hP
      exact ⟨c, Or.inl (Or.inl (Or.inr ⟨uid, hUid, hc⟩)), hP⟩
    · exact ⟨_, Or.inr rfl, hP⟩

omit h u in
/-- What holds of every kind of change that a cancellation makes holds of all its changes. -/
theorem forall_mem_cancel {P : DeviceStateChange → Prop} (hQuiet : P (.emergencyRouteReleaseExecuted cmd.routeUid))
    (hStopped : ∀ uid, P (.signalAspectChange uid .s1Stop .command (some cmd.routeUid)))
    (hUnlocked : ∀ uid, P (.switchUnlocked uid cmd.routeUid))
    (hRelocked : ∀ uid, P (.derailerStateChange uid .locked .auto none))
    (hRemoved : ∀ reason, P (.routeRemoved cmd.routeUid reason)) : ∀ c ∈ executeCancelRoute s cmd, P c := by
  intro c hc
  cases hFind : s.findRoute cmd.routeUid with
  | none =>
    simp only [executeCancelRoute, hFind] at hc
    cases hc
  | some route =>
    by_contra hOther
    obtain hStop | ⟨uid, -, hUnlock⟩ | ⟨uid, -, -, hRelock⟩ | hRemove :=
      (exists_mem_cancel hFind (fun c => ¬ P c) (not_not.mpr hQuiet)).mp ⟨c, hc, hOther⟩
    · exact hStop (hStopped _)
    · exact hUnlock (hUnlocked uid)
    · exact hRelock (hRelocked uid)
    · exact hRemove (hRemoved _)

theorem switchLock_cancel :
    (switchLock u).read (applyAll s (executeCancelRoute s cmd)) =
      ((switchLock u).read s).map (fun b => if u ∈ route.switchUids then none else b) := by
  apply Register.read_foldl_of_iff
  · rw [exists_mem_cancel h _ (by simp [switchLock, switchLockWrite])]
    simp [switchLock, switchLockWrite]
  · rw [exists_mem_cancel h _ (by simp [switchLock, switchLockWrite])]
    simp [switchLock, switchLockWrite]

omit h in
theorem switchPosition_cancel :
    (switchPosition u).read (applyAll s (executeCancelRoute s cmd)) = (switchPosition u).read s :=
  Register.read_foldl_of_silent _ _
    (forall_mem_cancel rfl (fun _ => rfl) (fun _ => rfl) (fun _ => rfl) (fun _ => rfl))

theorem signalLock_cancel :
    (signalLock u).read (applyAll s (executeCancelRoute s cmd)) =
      ((signalLock u).read s).map (fun b => if u = route.fromSignalUid then some cmd.routeUid else b) := by
  apply Register.read_foldl_of_iff
  · rw [exists_mem_cancel h _ (by simp [signalLock, signalLockWrite])]
    simp [signalLock, signalLockWrite]
  · rw [exists_mem_cancel h _ (by simp [signalLock, signalLockWrite])]
    simp [signalLock, signalLockWrite]

theorem signalAspect_cancel :
    (signalAspect u).read (applyAll s (executeCancelRoute s cmd)) =
      ((signalAspect u).read s).map (fun b => if u = route.fromSignalUid then .s1Stop else b) := by
  apply Register.read_foldl_of_iff
  · rw [exists_mem_cancel h _ (by simp [signalAspect, signalAspectWrite])]
    simp [signalAspect, signalAspectWrite]
  · rw [exists_mem_cancel h _ (by simp [signalAspect, signalAspectWrite])]
    simp [signalAspect, signalAspectWrite]

theorem derailerState_cancel :
    (derailerState u).read (applyAll s (executeCancelRoute s cmd)) =
      ((derailerState u).read s).map (fun b => if u ∈ route.derailerUids then .locked else b) := by
  have hRead : (derailerState u).read (applyAll s (executeCancelRoute s cmd)) =
      ((derailerState u).read s).map (fun b =>
        if u ∈ route.derailerUids ∧ (derailerState u).read s = some .unlocked then .locked else b) := by
    apply Register.read_foldl_of_iff
    · rw [exists_mem_cancel h _ (by simp [derailerState, derailerStateWrite])]
      simp [derailerState, derailerStateWrite]
    · rw [exists_mem_cancel h _ (by simp [derailerState, derailerStateWrite])]
      simp [derailerState, derailerStateWrite]
  rw [hRead]
  cases (derailerState u).read s with
  | none => rfl
  | some b => cases b <;> simp

theorem derailerLock_cancel :
    (derailerLock u).read (applyAll s (executeCancelRoute s cmd)) =
      ((derailerLock u).read s).map (fun b =>
        if u ∈ route.derailerUids ∧ (derailerState u).read s = some .unlocked then none else b) := by
  apply Register.read_foldl_of_iff
  · rw [exists_mem_cancel h _ (by simp [derailerLock, derailerLockWrite])]
    simp [derailerLock, derailerLockWrite]
  · rw [exists_mem_cancel h _ (by simp [derailerLock, derailerLockWrite])]
    simp [derailerLock, derailerLockWrite]

omit u in
theorem routes_cancel : (applyAll s (executeCancelRoute s cmd)).routes = s.routes.erase cmd.routeUid := by
  have hSilent : ∀ c ∈ [.signalAspectChange route.fromSignalUid .s1Stop .command (some cmd.routeUid)] ++
      route.switchUids.map (fun uid => .switchUnlocked uid cmd.routeUid) ++
      route.derailerUids.flatMap (relockDerailer s) ++
      (if cmd.force then [.emergencyRouteReleaseExecuted cmd.routeUid] else []), writesRoutes c = false := by
    intro c hc
    simp only [List.mem_append, List.mem_singleton, List.mem_map, List.mem_flatMap] at hc
    rcases hc with ((rfl | ⟨uid, _, rfl⟩) | ⟨uid, _, hc⟩) | hc
    · rfl
    · rfl
    · unfold relockDerailer at hc
      split at hc
      · cases hc
      · split at hc
        · rw [List.mem_singleton.mp hc]
          rfl
        · cases hc
    · split at hc
      · rw [List.mem_singleton.mp hc]
        rfl
      · cases hc
  rw [executeCancelRoute]
  simp only [h]
  rw [applyAll_append, applyAll_cons, applyAll_nil]
  exact congrArg (fun routes => KeyedMap.erase routes cmd.routeUid) (routes_applyAll_of_silent hSilent s)

end Cancel

end Symulator.Srk
