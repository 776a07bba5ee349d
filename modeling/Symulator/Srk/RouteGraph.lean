import Symulator.Engine.Topology
import Symulator.Library.Search

/-! # Route graph traversal

Finds an interlocking route path between two signals by breadth-first search on the topology.
Sections and switches can be traversed; any other node is a dead end.
-/

namespace Symulator.Srk

open Symulator.Library Symulator.Engine

set_option autoImplicit false

/-- The UIDs reachable from `node` when arriving from `cameFrom`. -/
def topologyNeighbors (state : EngineState) (node cameFrom : UID) : List UID :=
  match state.findTrackSection node with
  | some ts =>
    if cameFrom.value = 0 then [ts.sideA.neighborUid, ts.sideB.neighborUid]
    else if ts.sideA.neighborUid = cameFrom then [ts.sideB.neighborUid]
    else if ts.sideB.neighborUid = cameFrom then [ts.sideA.neighborUid]
    else []
  | none =>
    match state.findSwitch node with
    | some sw =>
      [sw.trunk.neighborUid, sw.straight.neighborUid, sw.divergent.neighborUid].filter (· ≠ cameFrom)
    | none => []

def isTraversableNode (state : EngineState) (uid : UID) : Bool :=
  (state.findTrackSection uid).isSome || (state.findSwitch uid).isSome

def bfs (state : EngineState) (start goal : UID) : Option (List UID) :=
  search {} (topologyNeighbors state) (isTraversableNode state) goal
    (state.trackSections.size + state.switches.size + 1) (startSearch {} start)

def requiredSwitchPosition (sw : Switch) (cameFrom goingTo : UID) : SwitchPosition :=
  if sw.trunk.neighborUid = cameFrom ∧ sw.straight.neighborUid = goingTo then .straight
  else if sw.trunk.neighborUid = cameFrom ∧ sw.divergent.neighborUid = goingTo then .divergent
  else if sw.straight.neighborUid = cameFrom then .straight
  else if sw.divergent.neighborUid = cameFrom then .divergent
  else .straight

inductive RoutePathNodeKind
  | trackSection | switch
deriving DecidableEq, Repr

structure RoutePathNode where
  kind : RoutePathNodeKind
  uid : UID
  requiredPosition : SwitchPosition := .straight
deriving DecidableEq

structure RoutePath where
  fromSignalUid : UID
  toSignalUid : UID
  nodes : List RoutePathNode := []
  sectionUids : List UID := []
  switchUids : List UID := []
  derailerUids : List UID := []
  flankSwitches : List RoutePathNode := []

/-- A policy extends the path with further requirements, or rejects it. -/
abbrev IRoutePathPolicy := EngineState → RoutePath → Option RoutePath

/-- The sections and switches of a path, each switch with the position its neighbours on the path
ask for. -/
def routePathNodes (state : EngineState) : UID → List UID → List RoutePathNode
  | _, [] => []
  | cameFrom, uid :: rest =>
    if (state.findTrackSection uid).isSome then
      { kind := .trackSection, uid } :: routePathNodes state uid rest
    else
      match state.findSwitch uid with
      | some sw =>
        { kind := .switch, uid, requiredPosition := requiredSwitchPosition sw cameFrom (rest.headD {}) } ::
          routePathNodes state uid rest
      | none => routePathNodes state uid rest

def nodeUids (kind : RoutePathNodeKind) (nodes : List RoutePathNode) : List UID :=
  (nodes.filter (fun node => node.kind = kind)).map RoutePathNode.uid

def derailersGuarding (state : EngineState) (sections : List UID) : List UID :=
  (state.derailers.values.filter (fun d => d.guardsSectionUid ∈ sections)).map Derailer.uid

def corePath (state : EngineState) (fromSignalUid toSignalUid start goal : UID) : Option RoutePath :=
  if start = goal then
    some
      { fromSignalUid
        toSignalUid
        nodes := [{ kind := .trackSection, uid := start }]
        sectionUids := [start]
        derailerUids := derailersGuarding state [start] }
  else
    match bfs state start goal with
    | none => none
    | some pathUids =>
      let nodes := routePathNodes state {} pathUids
      some
        { fromSignalUid
          toSignalUid
          nodes
          sectionUids := nodeUids .trackSection nodes
          switchUids := nodeUids .switch nodes
          derailerUids := derailersGuarding state (nodeUids .trackSection nodes) }

def findRoutePath (state : EngineState) (fromSignalUid toSignalUid : UID)
    (policies : List IRoutePathPolicy) : Option RoutePath :=
  match state.findSignal fromSignalUid, state.findSignal toSignalUid with
  | some entry, some exit =>
    match corePath state fromSignalUid toSignalUid entry.governsSectionUid exit.governsSectionUid with
    | none => none
    | some rp => policies.foldlM (fun rp policy => policy state rp) rp
  | _, _ => none

/-- The UID of a route: both fields are 16 bits wide, so the tick enters modulo 65536. -/
def makeRouteUid (fromSignalUid toSignalUid : UID) (tick : Nat) : UID :=
  makeUid .operations .route (uidScope fromSignalUid ^^^ uidScope toSignalUid)
    (uidInstance fromSignalUid ^^^ uidInstance toSignalUid ^^^ BitVec.ofNat 16 tick)

/-! ## The search -/

def traversableNodes (state : EngineState) : Finset UID :=
  (state.trackSections.values.map TrackSection.uid ++ state.switches.values.map Switch.uid).toFinset

theorem mem_traversableNodes {state : EngineState} {uid : UID} (h : isTraversableNode state uid = true) :
    uid ∈ traversableNodes state := by
  rw [traversableNodes, List.mem_toFinset, List.mem_append]
  rw [isTraversableNode, Bool.or_eq_true, Option.isSome_iff_exists, Option.isSome_iff_exists] at h
  rcases h with ⟨ts, hFind⟩ | ⟨sw, hFind⟩
  · obtain ⟨hMem, hKey⟩ := KeyedMap.find_eq_some_iff.mp hFind
    exact Or.inl (List.mem_map.mpr ⟨ts, hMem, hKey⟩)
  · obtain ⟨hMem, hKey⟩ := KeyedMap.find_eq_some_iff.mp hFind
    exact Or.inr (List.mem_map.mpr ⟨sw, hMem, hKey⟩)

theorem card_traversableNodes (state : EngineState) :
    (traversableNodes state).card ≤ state.trackSections.size + state.switches.size := by
  have hLe := List.toFinset_card_le
    (state.trackSections.values.map TrackSection.uid ++ state.switches.values.map Switch.uid)
  rwa [List.length_append, List.length_map, List.length_map] at hLe

/-- The fuel given to the search is enough: more of it finds the same path. -/
theorem bfs_of_le (state : EngineState) (start goal : UID) {fuel : Nat}
    (hFuel : state.trackSections.size + state.switches.size + 1 ≤ fuel) :
    search {} (topologyNeighbors state) (isTraversableNode state) goal fuel (startSearch {} start) =
      bfs state start goal := by
  have hCard := card_traversableNodes state
  have hNodes : ∀ uid, isTraversableNode state uid = true → uid ∈ traversableNodes state :=
    fun _ => mem_traversableNodes
  exact (search_of_le hNodes start goal (by omega)).trans (search_of_le hNodes start goal (by omega)).symm

theorem bfs_found {state : EngineState} {start goal : UID} {path : List UID}
    (h : bfs state start goal = some path) :
    FoundPath {} (topologyNeighbors state) (isTraversableNode state) start goal path :=
  search_startSearch h

section SameTopology

variable {s t : EngineState} (h : s.topology = t.topology)

include h

theorem topologyNeighbors_congr : topologyNeighbors s = topologyNeighbors t := by
  funext node cameFrom
  have hSection := findTrackSection_topology h node
  have hSwitch := findSwitch_topology h node
  unfold topologyNeighbors
  cases hs : s.findTrackSection node <;> cases ht : t.findTrackSection node <;> rw [hs, ht] at hSection
  case none.some | some.none => cases hSection
  case some.some ts ts' =>
    have hPorts := Option.some.inj hSection
    simp only [TrackSection.topology, SectionTopology.mk.injEq] at hPorts
    simp only [hPorts.2.1, hPorts.2.2]
  case none.none =>
    cases hs' : s.findSwitch node <;> cases ht' : t.findSwitch node <;> rw [hs', ht'] at hSwitch
    case none.some | some.none => cases hSwitch
    case some.some sw sw' =>
      have hLegs := Option.some.inj hSwitch
      simp only [Switch.topology, SwitchTopology.mk.injEq] at hLegs
      simp only [hLegs.2.1, hLegs.2.2.1, hLegs.2.2.2]

theorem isTraversableNode_congr : isTraversableNode s = isTraversableNode t := by
  funext uid
  rw [isTraversableNode, isTraversableNode, isSome_findTrackSection h, isSome_findSwitch h]

theorem bfs_congr (start goal : UID) : bfs s start goal = bfs t start goal := by
  have hSections : s.trackSections.size = t.trackSections.size := by
    have hLength := congrArg (fun top => top.sections.length) h
    simpa only [EngineState.topology, List.length_map, KeyedMap.size] using hLength
  have hSwitches : s.switches.size = t.switches.size := by
    have hLength := congrArg (fun top => top.switches.length) h
    simpa only [EngineState.topology, List.length_map, KeyedMap.size] using hLength
  rw [bfs, bfs, topologyNeighbors_congr h, isTraversableNode_congr h, hSections, hSwitches]

theorem routePathNodes_congr (cameFrom : UID) (uids : List UID) :
    routePathNodes s cameFrom uids = routePathNodes t cameFrom uids := by
  induction uids generalizing cameFrom with
  | nil => rfl
  | cons uid rest ih =>
    have hSwitch := findSwitch_topology h uid
    rw [routePathNodes, routePathNodes, isSome_findTrackSection h, ih]
    cases hs : s.findSwitch uid <;> cases ht : t.findSwitch uid <;> rw [hs, ht] at hSwitch
    case cons.none.some | cons.some.none => cases hSwitch
    case cons.some.some sw sw' =>
      have hLegs := Option.some.inj hSwitch
      simp only [Switch.topology, SwitchTopology.mk.injEq] at hLegs
      simp only [requiredSwitchPosition, hLegs.2.1, hLegs.2.2.1, hLegs.2.2.2]

theorem derailersGuarding_congr (sections : List UID) :
    derailersGuarding s sections = derailersGuarding t sections := by
  have hTopology : ∀ u : EngineState, derailersGuarding u sections =
      (u.topology.derailers.filter (fun d => d.guards ∈ sections)).map DerailerTopology.uid := by
    intro u
    rw [EngineState.topology, List.filter_map, List.map_map]
    rfl
  rw [hTopology, hTopology, h]

theorem corePath_congr (fromSignalUid toSignalUid start goal : UID) :
    corePath s fromSignalUid toSignalUid start goal = corePath t fromSignalUid toSignalUid start goal := by
  simp only [corePath, bfs_congr h, routePathNodes_congr h, derailersGuarding_congr h]

theorem findRoutePath_congr (fromSignalUid toSignalUid : UID) {policies : List IRoutePathPolicy}
    (hPolicies : ∀ policy ∈ policies, ∀ rp, policy s rp = policy t rp) :
    findRoutePath s fromSignalUid toSignalUid policies = findRoutePath t fromSignalUid toSignalUid policies := by
  have hFold : ∀ (ps : List IRoutePathPolicy), (∀ policy ∈ ps, ∀ rp, policy s rp = policy t rp) →
      ∀ rp, ps.foldlM (fun rp policy => policy s rp) rp = ps.foldlM (fun rp policy => policy t rp) rp := by
    intro ps hps
    induction ps with
    | nil => exact fun _ => rfl
    | cons policy ps ih =>
      intro rp
      rw [List.foldlM_cons, List.foldlM_cons, hps policy List.mem_cons_self rp]
      exact congrArg _ (funext (ih (fun p hp => hps p (List.mem_cons_of_mem _ hp))))
  have hGoverns : ∀ uid, (s.findSignal uid).map Signal.governsSectionUid =
      (t.findSignal uid).map Signal.governsSectionUid := by
    intro uid
    have hSignal := congrArg (Option.map SignalTopology.governs) (findSignal_topology h uid)
    rw [Option.map_map, Option.map_map] at hSignal
    exact hSignal
  have hFrom := hGoverns fromSignalUid
  have hTo := hGoverns toSignalUid
  unfold findRoutePath
  cases hs : s.findSignal fromSignalUid <;> cases ht : t.findSignal fromSignalUid <;> rw [hs, ht] at hFrom
  case none.some | some.none => cases hFrom
  case some.some entry entry' =>
    cases hs' : s.findSignal toSignalUid <;> cases ht' : t.findSignal toSignalUid <;> rw [hs', ht'] at hTo
    case none.some | some.none => cases hTo
    case some.some exit exit' =>
      simp only [Option.some.inj hFrom, Option.some.inj hTo, corePath_congr h, hFold policies hPolicies]

end SameTopology

/-! ## What a path looks like -/

theorem mem_nodeUids {kind : RoutePathNodeKind} {nodes : List RoutePathNode} {uid : UID} :
    uid ∈ nodeUids kind nodes ↔ ∃ node ∈ nodes, node.kind = kind ∧ node.uid = uid := by
  simp only [nodeUids, List.mem_map, List.mem_filter, decide_eq_true_eq, and_assoc]

theorem mem_derailersGuarding {state : EngineState} {sections : List UID} {uid : UID} :
    uid ∈ derailersGuarding state sections ↔
      ∃ d, state.findDerailer uid = some d ∧ d.guardsSectionUid ∈ sections := by
  simp only [derailersGuarding, List.mem_map, List.mem_filter, decide_eq_true_eq]
  constructor
  · rintro ⟨d, ⟨hMem, hGuards⟩, rfl⟩
    exact ⟨d, KeyedMap.find_key hMem, hGuards⟩
  · rintro ⟨d, hFind, hGuards⟩
    obtain ⟨hMem, hKey⟩ := KeyedMap.find_eq_some_iff.mp hFind
    exact ⟨d, ⟨hMem, hGuards⟩, hKey⟩

theorem routePathNodes_sublist (state : EngineState) (cameFrom : UID) (uids : List UID) :
    ((routePathNodes state cameFrom uids).map RoutePathNode.uid).Sublist uids := by
  induction uids generalizing cameFrom with
  | nil => exact List.Sublist.refl _
  | cons uid rest ih =>
    rw [routePathNodes]
    split
    · exact (ih uid).cons_cons uid
    · split
      · exact (ih uid).cons_cons uid
      · exact (ih uid).cons uid

/-- A node of a path is a known section, or a switch that is no section, in a position one of its legs asks for. -/
theorem routePathNodes_cases {state : EngineState} {cameFrom : UID} {uids : List UID} {node : RoutePathNode}
    (h : node ∈ routePathNodes state cameFrom uids) :
    ((state.findTrackSection node.uid).isSome = true ∧ node = { kind := .trackSection, uid := node.uid }) ∨
    (state.findTrackSection node.uid = none ∧ ∃ sw fromUid goingTo, state.findSwitch node.uid = some sw ∧
      node = { kind := .switch, uid := node.uid, requiredPosition := requiredSwitchPosition sw fromUid goingTo }) := by
  induction uids generalizing cameFrom with
  | nil => cases h
  | cons uid rest ih =>
    rw [routePathNodes] at h
    split at h
    · rename_i hSection
      rcases List.mem_cons.mp h with rfl | h
      · exact Or.inl ⟨hSection, rfl⟩
      · exact ih h
    · rename_i hSection
      split at h
      · rename_i sw hFind
        rcases List.mem_cons.mp h with rfl | h
        · exact Or.inr ⟨Option.not_isSome_iff_eq_none.mp hSection, sw, _, _, hFind, rfl⟩
        · exact ih h
      · exact ih h

theorem switch_of_routePathNodes {state : EngineState} {cameFrom : UID} {uids : List UID}
    {node : RoutePathNode} (hNode : node ∈ routePathNodes state cameFrom uids) (hKind : node.kind = .switch) :
    state.findTrackSection node.uid = none ∧ ∃ sw, state.findSwitch node.uid = some sw := by
  rcases routePathNodes_cases hNode with ⟨-, hNode⟩ | ⟨hNone, sw, _, _, hFind, -⟩
  · rw [hNode] at hKind
    cases hKind
  · exact ⟨hNone, sw, hFind⟩

theorem section_of_routePathNodes {state : EngineState} {cameFrom : UID} {uids : List UID}
    {node : RoutePathNode} (hNode : node ∈ routePathNodes state cameFrom uids) (hKind : node.kind = .trackSection) :
    (state.findTrackSection node.uid).isSome = true := by
  rcases routePathNodes_cases hNode with ⟨hSome, -⟩ | ⟨-, _, _, _, -, hNode⟩
  · exact hSome
  · rw [hNode] at hKind
    cases hKind

theorem requiredSwitchPosition_eq (sw : Switch) (cameFrom goingTo : UID) :
    requiredSwitchPosition sw cameFrom goingTo = .straight ∨
      requiredSwitchPosition sw cameFrom goingTo = .divergent := by
  unfold requiredSwitchPosition
  repeat' split
  all_goals simp

theorem requiredPosition_of_routePathNodes {state : EngineState} {cameFrom : UID} {uids : List UID}
    {node : RoutePathNode} (hNode : node ∈ routePathNodes state cameFrom uids) :
    node.requiredPosition = .straight ∨ node.requiredPosition = .divergent := by
  rcases routePathNodes_cases hNode with ⟨-, hNode⟩ | ⟨-, sw, fromUid, goingTo, -, hNode⟩
  · exact Or.inl (by rw [hNode])
  · rw [hNode]
    exact requiredSwitchPosition_eq sw fromUid goingTo

/-- What a route path says about the topology it was found in, before any policy extends it. -/
structure IsCorePath (state : EngineState) (fromSignalUid toSignalUid : UID) (rp : RoutePath) : Prop where
  fromSignal : rp.fromSignalUid = fromSignalUid
  toSignal : rp.toSignalUid = toSignalUid
  sections : rp.sectionUids = nodeUids .trackSection rp.nodes
  switches : rp.switchUids = nodeUids .switch rp.nodes
  derailers : rp.derailerUids = derailersGuarding state rp.sectionUids
  nodup : (rp.nodes.map RoutePathNode.uid).Nodup
  switchNode : ∀ node ∈ rp.nodes, node.kind = .switch →
    state.findTrackSection node.uid = none ∧ ∃ sw, state.findSwitch node.uid = some sw
  required : ∀ node ∈ rp.nodes, node.requiredPosition = .straight ∨ node.requiredPosition = .divergent
  noFlank : rp.flankSwitches = []

theorem isCorePath_of_corePath {state : EngineState} {fromSignalUid toSignalUid start goal : UID}
    {rp : RoutePath} (h : corePath state fromSignalUid toSignalUid start goal = some rp) :
    IsCorePath state fromSignalUid toSignalUid rp := by
  rw [corePath] at h
  split at h
  · cases h
    refine ⟨rfl, rfl, rfl, rfl, rfl, List.nodup_singleton _, ?_, ?_, rfl⟩
    · intro node hNode hKind
      rw [List.mem_singleton.mp hNode] at hKind
      cases hKind
    · intro node hNode
      rw [List.mem_singleton.mp hNode]
      exact Or.inl rfl
  · split at h
    · cases h
    · rename_i pathUids hBfs
      cases h
      refine ⟨rfl, rfl, rfl, rfl, rfl, ?_, fun _ => switch_of_routePathNodes,
        fun _ => requiredPosition_of_routePathNodes, rfl⟩
      exact (routePathNodes_sublist state {} pathUids).nodup (bfs_found hBfs).nodup

/-- The sections of a path exist, but for one that both its signals govern. -/
theorem section_of_corePath {state : EngineState} {fromSignalUid toSignalUid start goal : UID} {rp : RoutePath}
    (h : corePath state fromSignalUid toSignalUid start goal = some rp) {uid : UID} (hUid : uid ∈ rp.sectionUids) :
    uid = start ∨ (state.findTrackSection uid).isSome = true := by
  rw [corePath] at h
  split at h
  · cases h
    exact Or.inl (List.mem_singleton.mp hUid)
  · split at h
    · cases h
    · cases h
      obtain ⟨node, hNode, hKind, rfl⟩ := mem_nodeUids.mp hUid
      exact Or.inr (section_of_routePathNodes hNode hKind)

/-! ## The nodes of a found path -/

theorem isTraversableNode_of_mem {state : EngineState} {u cameFrom y : UID}
    (h : y ∈ topologyNeighbors state u cameFrom) : isTraversableNode state u = true := by
  unfold topologyNeighbors at h
  unfold isTraversableNode
  cases hSection : state.findTrackSection u with
  | some ts => rfl
  | none =>
    cases hSwitch : state.findSwitch u with
    | some sw => rfl
    | none =>
      simp only [hSection, hSwitch] at h
      cases h

/-- Only the first node of a path need not be a section or a switch, and then it is the only one. -/
theorem isTraversableNode_of_bfs {state : EngineState} {start goal : UID} {path : List UID}
    (h : bfs state start goal = some path) (hNe : start ≠ goal) : ∀ u ∈ path, isTraversableNode state u = true := by
  have hFound := bfs_found h
  intro u hu
  rcases hFound.admitted u hu with rfl | hAdmitted
  · obtain ⟨before, rest, rfl⟩ := List.append_of_mem hu
    cases rest with
    | nil =>
      have hLast := hFound.last
      rw [List.getLast?_concat] at hLast
      rcases hLast with hGoal | ⟨hNil, -⟩
      · exact absurd (Option.some.inj hGoal) hNe
      · rw [hNil] at hu
        cases hu
    | cons y rest => exact isTraversableNode_of_mem hFound.walk.walk_append.1
  · exact hAdmitted

theorem map_uid_routePathNodes {state : EngineState} {uids : List UID}
    (hAll : ∀ u ∈ uids, isTraversableNode state u = true) (cameFrom : UID) :
    (routePathNodes state cameFrom uids).map RoutePathNode.uid = uids := by
  induction uids generalizing cameFrom with
  | nil => rfl
  | cons uid rest ih =>
    have hRest := ih (fun u hu => hAll u (List.mem_cons_of_mem _ hu)) uid
    have hHead := hAll uid List.mem_cons_self
    rw [isTraversableNode, Bool.or_eq_true] at hHead
    rw [routePathNodes]
    split
    · rw [List.map_cons, hRest]
    · rename_i hSection
      obtain ⟨sw, hFind⟩ := Option.isSome_iff_exists.mp (hHead.resolve_left hSection)
      rw [hFind, List.map_cons, hRest]

theorem nodeUids_routePathNodes (state : EngineState) (cameFrom : UID) (uids : List UID) :
    nodeUids .trackSection (routePathNodes state cameFrom uids) =
      uids.filter (fun uid => (state.findTrackSection uid).isSome) := by
  induction uids generalizing cameFrom with
  | nil => rfl
  | cons uid rest ih =>
    have hRest := ih uid
    rw [nodeUids] at hRest ⊢
    rw [routePathNodes, @List.filter_cons _ uid]
    split
    · rw [List.filter_cons_of_pos (by rfl), List.map_cons, hRest]
    · split
      · rw [List.filter_cons_of_neg (by simp), hRest]
      · exact hRest

theorem requiredPosition_of_split {state : EngineState} {cameFrom x u : UID} {before after : List UID}
    (hNodup : (before ++ x :: u :: after).Nodup) {sw : Switch} (hFind : state.findSwitch u = some sw)
    {node : RoutePathNode} (hNode : node ∈ routePathNodes state cameFrom (before ++ x :: u :: after))
    (hUid : node.uid = u) (hKind : node.kind = .switch) :
    node.requiredPosition = requiredSwitchPosition sw x (after.headD {}) := by
  have hTail : ∀ {p cameFrom : UID} {rest : List UID}, p ≠ u →
      node ∈ routePathNodes state cameFrom (p :: rest) → node ∈ routePathNodes state p rest := by
    intro p cameFrom rest hNe hMem
    rw [routePathNodes] at hMem
    split at hMem
    · rcases List.mem_cons.mp hMem with rfl | hMem
      · exact absurd hUid hNe
      · exact hMem
    · split at hMem
      · rcases List.mem_cons.mp hMem with rfl | hMem
        · exact absurd hUid hNe
        · exact hMem
      · exact hMem
  induction before generalizing cameFrom with
  | cons b before ih =>
    rw [List.cons_append, List.nodup_cons] at hNodup
    have hNe : b ≠ u := by
      rintro rfl
      exact hNodup.1 (List.mem_append_right _ (List.mem_cons_of_mem _ List.mem_cons_self))
    exact ih hNodup.2 (hTail hNe hNode)
  | nil =>
    rw [List.nil_append, List.nodup_cons, List.nodup_cons] at hNodup
    have hNe : x ≠ u := by
      rintro rfl
      exact hNodup.1 List.mem_cons_self
    have hLater : ∀ cameFrom, node ∉ routePathNodes state cameFrom after := by
      intro cameFrom hMem
      have hSub := (routePathNodes_sublist state cameFrom after).subset (List.mem_map_of_mem hMem)
      rw [hUid] at hSub
      exact hNodup.2.1 hSub
    have hHere := hTail hNe hNode
    rw [routePathNodes] at hHere
    split at hHere
    · rcases List.mem_cons.mp hHere with rfl | hMem
      · cases hKind
      · exact absurd hMem (hLater u)
    · rw [hFind] at hHere
      rcases List.mem_cons.mp hHere with rfl | hMem
      · rfl
      · exact absurd hMem (hLater u)

/-- A path with two nodes or more is one that the search found. -/
theorem bfs_of_corePath {state : EngineState} {fromSignalUid toSignalUid start goal : UID} {rp : RoutePath}
    (h : corePath state fromSignalUid toSignalUid start goal = some rp) (hNodes : 1 < rp.nodes.length) :
    start ≠ goal ∧ ∃ path, bfs state start goal = some path ∧ rp.nodes = routePathNodes state {} path := by
  rw [corePath] at h
  split at h
  · cases h
    exact absurd hNodes (Nat.lt_irrefl _)
  · rename_i hNe
    split at h
    · cases h
    · rename_i path hBfs
      cases h
      exact ⟨hNe, path, hBfs, rfl⟩

end Symulator.Srk
