import Symulator.Srk.LockAgreement

/-! # Mutual exclusion of routes

Two active routes are to share neither a section nor a switch. The locks see to it for the switches of
a path; for sections and for flank switches a request makes no such test.
-/

namespace Symulator.Interlocking

open Symulator.Library Symulator.Engine Symulator.Srk

set_option autoImplicit false

def RoutesDisjoint (r r' : RouteState) : Prop :=
  r.sectionUids.Disjoint r'.sectionUids ∧ r.switchUids.Disjoint r'.switchUids

theorem RoutesDisjoint.symm {r r' : RouteState} (h : RoutesDisjoint r r') : RoutesDisjoint r' r :=
  ⟨h.1.symm, h.2.symm⟩

/-- Distinct active routes share neither a section nor a switch. -/
def Exclusive (s : EngineState) : Prop :=
  ∀ r ∈ s.routes.values, ∀ r' ∈ s.routes.values, r.uid ≠ r'.uid → RoutesDisjoint r r'

/-- A request that adds a route asks for no section and no flank switch of an active route. -/
def ExclusionGuard {φ : Type} (w : World φ) : Action φ → Prop
  | .command (.requestRoute cmd) =>
    ∀ rp, findRoutePath w.state cmd.fromSignalUid cmd.toSignalUid kPolicies = some rp →
      w.state.findRoute (makeRouteUid cmd.fromSignalUid cmd.toSignalUid w.state.currentTick) = none →
        ∀ route ∈ w.state.routes.values, rp.sectionUids.Disjoint route.sectionUids ∧
          ∀ fnode ∈ rp.flankSwitches, fnode.uid ∉ route.switchUids
  | _ => True

instance {φ : Type} (w : World φ) : (a : Action φ) → Decidable (ExclusionGuard w a)
  | .command (.requestRoute cmd) =>
    decidable_of_iff (∀ rp ∈ findRoutePath w.state cmd.fromSignalUid cmd.toSignalUid kPolicies,
      w.state.findRoute (makeRouteUid cmd.fromSignalUid cmd.toSignalUid w.state.currentTick) = none →
        ∀ route ∈ w.state.routes.values, (∀ u ∈ rp.sectionUids, u ∉ route.sectionUids) ∧
          ∀ fnode ∈ rp.flankSwitches, fnode.uid ∉ route.switchUids) Iff.rfl
  | .command (.setSwitchPosition _) | .command (.setSignalAspect _) | .command (.setDerailerPosition _)
  | .command (.setBlockSection _) | .command (.cancelRoute _) | .command (.acknowledgeAlarm _)
  | .command (.setBlockDirection _) | .command (.initAxleCounterReset _) | .command (.resetAxleCounter _)
  | .command (.operatorCommand _) | .command (.ml8Command _) | .onTick | .fleetCommand _ | .tickTrains
  | .advanceTick => .isTrue trivial

/-- Every switch of an active route is locked by some route. -/
def RouteSwitchesHeld (s : EngineState) : Prop :=
  ∀ route ∈ s.routes.values, ∀ u ∈ route.switchUids, (s.findSwitch u).isSome = true → switchHolder s u ≠ none

theorem routeSwitchesHeld_congr {s t : EngineState} (hTopology : t.topology = s.topology)
    (hRoutes : t.routes = s.routes) (hLocks : ∀ u, (switchLock u).read t = (switchLock u).read s)
    (h : RouteSwitchesHeld s) : RouteSwitchesHeld t := by
  intro route hRoute u hu hExists
  rw [hRoutes] at hRoute
  rw [switchHolder, hLocks]
  exact h route hRoute u hu ((switch_exists_iff hTopology u).mp hExists)

theorem routeSwitchesHeld_request {s : EngineState} (h : RouteSwitchesHeld s) {cmd : RequestRouteCmd}
    {rp : RoutePath} (hGranted : Granted s cmd rp) (tick : Nat) :
    RouteSwitchesHeld (applyAll s (executeRequestRoute s cmd tick kPolicies)) := by
  have hTopology := topology_applyAll s (executeRequestRoute s cmd tick kPolicies)
  intro route hRoute u hu hExists
  have hExists := (switch_exists_iff hTopology u).mp hExists
  rw [switchHolder_request hGranted.found tick hExists]
  split
  · exact Option.some_ne_none _
  · rename_i hNot
    rw [routes_request hGranted.found] at hRoute
    have hOld : route ∈ s.routes.values := by
      cases hUsed : s.routes.find (newRoute cmd tick rp).uid with
      | some used => rwa [KeyedMap.emplace_of_find (hUsed ▸ Option.some_ne_none used)] at hRoute
      | none =>
        rw [KeyedMap.values_emplace hUsed] at hRoute
        rcases List.mem_append.mp hRoute with hRoute | hRoute
        · exact hRoute
        · rw [List.mem_singleton.mp hRoute] at hu
          exact absurd hu hNot
    exact h route hOld u hu hExists

theorem routeSwitchesHeld_cancel {s : EngineState} (hExclusive : Exclusive s) (h : RouteSwitchesHeld s)
    {cmd : CancelRouteCmd} {route : RouteState} (hFind : s.findRoute cmd.routeUid = some route) :
    RouteSwitchesHeld (applyAll s (executeCancelRoute s cmd)) := by
  intro route' hRoute u hu hExists
  have hExists := (switch_exists_iff (topology_applyAll s _) u).mp hExists
  rw [routes_cancel hFind] at hRoute
  obtain ⟨hRoute', hOther⟩ := List.mem_filter.mp hRoute
  obtain ⟨hMem, hKey⟩ := KeyedMap.find_eq_some_iff.mp hFind
  have hNe : route'.uid ≠ route.uid := by
    intro hEq
    exact of_decide_eq_true hOther (hEq.trans hKey)
  have hNot : u ∉ route.switchUids := (hExclusive route' hRoute' route hMem hNe).2 hu
  rw [switchHolder_cancel hFind hExists, if_neg hNot]
  exact h route' hRoute' u hu hExists

/-- What a run relies on besides exclusion itself. -/
structure ExclusionInv (s : EngineState) : Prop where
  requested : RoutesRequested s
  held : RouteSwitchesHeld s

section Step

variable {φ : Type} {dynamics : TrainDynamics φ} {w w' : World φ} {a : Action φ}

theorem exclusionInv_step (hExclusive : Exclusive w.state) (h : ExclusionInv w.state)
    (hStep : w.step dynamics a = some w') : ExclusionInv w'.state := by
  have hEffect := stepEffect_of_step hStep
  have hTopology := World.topology_step hStep
  refine ⟨h.requested.step hEffect hTopology, ?_⟩
  cases hEffect with
  | command cmd hKind hCheck hState =>
    refine routeSwitchesHeld_congr hTopology ?_ (fun u => ?_) h.held
    · rw [hState, routes_changesOf _ _ hKind]
    · rw [hState, switchLock_changesOf _ _ hKind]
  | request cmd rp hGranted hState =>
    rw [hState]
    exact routeSwitchesHeld_request h.held hGranted _
  | cancel cmd route hFind hState =>
    rw [hState]
    exact routeSwitchesHeld_cancel hExclusive h.held hFind
  | tick hState =>
    refine routeSwitchesHeld_congr hTopology ?_ (fun u => ?_) h.held
    · rw [hState, h.requested.routes_onTick]
    · rw [hState]
      exact h.requested.read_onTick _ _ (switchLock u) (fun _ _ _ _ => rfl)
  | other _ hCommand hTick hSame =>
    refine routeSwitchesHeld_congr hTopology hSame.routes (fun u => ?_) h.held
    simp only [switchLock, EngineState.findSwitch, hSame.switches]

/-- The locks keep the path of a request off the switches of active routes. -/
theorem pathSwitch_not_mem {s : EngineState} (h : RouteSwitchesHeld s) {cmd : RequestRouteCmd} {rp : RoutePath}
    (hGranted : Granted s cmd rp) {route : RouteState} (hRoute : route ∈ s.routes.values) {node : RoutePathNode}
    (hNode : node ∈ rp.nodes) (hKind : node.kind = .switch) : node.uid ∉ route.switchUids := by
  intro hMem
  obtain ⟨-, sw, hFind⟩ := hGranted.isRoutePath.switchNode node hNode hKind
  refine h route hRoute node.uid hMem (by rw [hFind]; rfl) ?_
  exact (switchHolder_of_find hFind).trans (hGranted.throwable hNode hKind hFind).1

theorem exclusive_request {s : EngineState} (hExclusive : Exclusive s) (h : RouteSwitchesHeld s)
    {cmd : RequestRouteCmd} {rp : RoutePath} (hGranted : Granted s cmd rp) {tick : Nat}
    (hFresh : s.findRoute (newRoute cmd tick rp).uid = none) :
    Exclusive (applyAll s (executeRequestRoute s cmd tick kPolicies)) ↔
      ∀ route ∈ s.routes.values, rp.sectionUids.Disjoint route.sectionUids ∧
        ∀ fnode ∈ rp.flankSwitches, fnode.uid ∉ route.switchUids := by
  have hValues : (applyAll s (executeRequestRoute s cmd tick kPolicies)).routes.values =
      s.routes.values ++ [newRoute cmd tick rp] := by
    rw [routes_request hGranted.found]
    exact KeyedMap.values_emplace hFresh
  have hNe : ∀ route ∈ s.routes.values, (newRoute cmd tick rp).uid ≠ route.uid :=
    fun route hRoute hEq => KeyedMap.find_eq_none_iff.mp hFresh route hRoute hEq.symm
  have hOne : ∀ route ∈ s.routes.values, (RoutesDisjoint (newRoute cmd tick rp) route ↔
      rp.sectionUids.Disjoint route.sectionUids ∧ ∀ fnode ∈ rp.flankSwitches, fnode.uid ∉ route.switchUids) := by
    intro route hRoute
    refine and_congr_right fun _ => ?_
    constructor
    · intro hDisjoint fnode hFlank
      exact hDisjoint (mem_switchUids.mpr ⟨fnode, List.mem_append_right _ hFlank, rfl⟩)
    · intro hFlank u hu
      obtain ⟨node, hNode, rfl⟩ := mem_switchUids.mp hu
      rcases List.mem_append.mp hNode with hNode | hNode
      · rw [List.mem_filter, decide_eq_true_eq] at hNode
        exact pathSwitch_not_mem h hGranted hRoute hNode.1 hNode.2
      · exact hFlank node hNode
  constructor
  · intro hAfter route hRoute
    refine (hOne route hRoute).mp (hAfter _ ?_ route ?_ (hNe route hRoute))
    · rw [hValues]
      simp
    · rw [hValues]
      exact List.mem_append_left _ hRoute
  · intro hGuard r hr r' hr' hDistinct
    rw [hValues] at hr hr'
    rcases List.mem_append.mp hr with hr | hr <;> rcases List.mem_append.mp hr' with hr' | hr'
    · exact hExclusive r hr r' hr' hDistinct
    · rw [List.mem_singleton.mp hr']
      exact ((hOne r hr).mpr (hGuard r hr)).symm
    · rw [List.mem_singleton.mp hr]
      exact (hOne r' hr').mpr (hGuard r' hr')
    · rw [List.mem_singleton.mp hr, List.mem_singleton.mp hr'] at hDistinct
      exact absurd rfl hDistinct

theorem exclusive_step (hExclusive : Exclusive w.state) (h : ExclusionInv w.state)
    (hStep : w.step dynamics a = some w') : Exclusive w'.state ↔ ExclusionGuard w a := by
  have hKept : w'.state.routes = w.state.routes → Exclusive w'.state := by
    intro hRoutes
    rw [Exclusive, hRoutes]
    exact hExclusive
  cases stepEffect_of_step hStep with
  | command cmd hKind hCheck hState =>
    have hGuard : ExclusionGuard w (.command cmd : Action φ) := by
      cases cmd
      case requestRoute => cases hKind
      all_goals trivial
    refine iff_of_true (hKept ?_) hGuard
    rw [hState, routes_changesOf _ _ hKind]
  | request cmd rp hGranted hState =>
    cases hUsed : w.state.findRoute (newRoute cmd w.state.currentTick rp).uid with
    | none =>
      rw [hState, exclusive_request hExclusive h.held hGranted hUsed]
      constructor
      · intro hGuard rp' hFound _
        rw [hGranted.found] at hFound
        cases hFound
        exact hGuard
      · intro hGuard
        exact hGuard rp hGranted.found hUsed
    | some route =>
      refine iff_of_true (hKept ?_) ?_
      · rw [hState, routes_request_of_used hGranted.found (hUsed ▸ Option.some_ne_none route)]
      · intro _ _ hFresh
        cases hUsed.symm.trans hFresh
  | cancel cmd route hFind hState =>
    refine iff_of_true ?_ trivial
    rw [hState, Exclusive, routes_cancel hFind]
    intro r hr r' hr' hDistinct
    exact hExclusive r (List.mem_of_mem_filter hr) r' (List.mem_of_mem_filter hr') hDistinct
  | tick hState =>
    refine iff_of_true (hKept ?_) trivial
    rw [hState, h.requested.routes_onTick]
  | other _ hCommand hTick hSame =>
    have hGuard : ExclusionGuard w a := by
      cases a <;> first | exact absurd rfl (hCommand _) | trivial
    exact iff_of_true (hKept hSame.routes) hGuard

end Step

theorem exclusive_of_loaded {φ : Type} {w : World φ} (h : w.Loaded) :
    Exclusive w.state ∧ ExclusionInv w.state := by
  have hRoutes := h.fresh.routes
  refine ⟨?_, routesRequested_of_loaded h, ?_⟩
  · intro r hr
    rw [hRoutes] at hr
    cases hr
  · intro r hr
    rw [hRoutes] at hr
    cases hr

/-- From a loaded world, the active routes exclude each other in every state of a run exactly when every
request of the run meets the guard. -/
theorem routes_exclusive_iff {φ : Type} {dynamics : TrainDynamics φ} {w₀ w : World φ} {actions : List (Action φ)}
    (hLoaded : w₀.Loaded) (hRun : run (World.step dynamics) w₀ actions = some w) :
    Always (World.step dynamics) (fun w => Exclusive w.state) w₀ actions ↔
      Guarded (World.step dynamics) ExclusionGuard w₀ actions := by
  obtain ⟨hExclusive, hInv⟩ := exclusive_of_loaded hLoaded
  refine always_iff_guarded (fun w => Exclusive w.state) (fun w => ExclusionInv w.state) ExclusionGuard
    ?_ ?_ hExclusive hInv hRun
  · intro w a w' hw hwInv hStep
    exact exclusive_step hw hwInv hStep
  · intro w a w' hw hwInv _ hStep
    exact exclusionInv_step hw hwInv hStep

/-- Routes over the two forks, requested one after the other, exclude each other. -/
theorem routes_exclusive_twoForks : ∃ w, run (World.step World.idleTrains) (World.start .ml8 twoForkStation)
      [.command (.requestRoute ⟨⟨21⟩, ⟨22⟩⟩), .advanceTick, .command (.requestRoute ⟨⟨24⟩, ⟨25⟩⟩)] = some w ∧
    w.state.routes.values.length = 2 ∧
    Always (World.step World.idleTrains) (fun w => Exclusive w.state) (World.start .ml8 twoForkStation)
      [.command (.requestRoute ⟨⟨21⟩, ⟨22⟩⟩), .advanceTick, .command (.requestRoute ⟨⟨24⟩, ⟨25⟩⟩)] := by
  have hLoaded : (World.start .ml8 twoForkStation).Loaded := ⟨[twoForkStation], _, rfl⟩
  obtain ⟨w, hRun, -, hTest⟩ := World.exists_reachable .ml8 twoForkStation
    [.command (.requestRoute ⟨⟨21⟩, ⟨22⟩⟩), .advanceTick, .command (.requestRoute ⟨⟨24⟩, ⟨25⟩⟩)]
    (fun w => w.state.routes.values.length = 2) hLoaded (by decide +kernel)
  exact ⟨w, hRun, of_decide_eq_true hTest, (routes_exclusive_iff hLoaded hRun).mpr (by decide +kernel)⟩

/-- Opposite routes over the same two sections are active together. -/
theorem oppositeRoutes_active : ¬ ∀ w : World Unit, w.Reachable World.idleTrains → Exclusive w.state := by
  intro h
  obtain ⟨w, -, hReach, hTest⟩ := World.exists_reachable .ml8 sidingStation
    [.command (.requestRoute ⟨⟨21⟩, ⟨22⟩⟩), .advanceTick, .command (.requestRoute ⟨⟨22⟩, ⟨21⟩⟩)]
    (fun w => w.state.routes.values.any fun r => w.state.routes.values.any fun r' =>
      r.uid ≠ r'.uid ∧ ⟨1⟩ ∈ r.sectionUids ∧ ⟨1⟩ ∈ r'.sectionUids)
    ⟨[sidingStation], _, rfl⟩ (by decide +kernel)
  obtain ⟨r, hr, hTest⟩ := List.any_eq_true.mp hTest
  obtain ⟨r', hr', hTest⟩ := List.any_eq_true.mp hTest
  obtain ⟨hNe, hMem, hMem'⟩ := of_decide_eq_true hTest
  exact (h w hReach r hr r' hr' hNe).1 hMem hMem'

end Symulator.Interlocking
