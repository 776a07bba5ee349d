import Symulator.Srk.LockAgreement

/-! # Switch locks

An active route is to hold the locks of its switches, flank switches included. A request locks its flank
switches without asking who holds them, and locks under a UID that an active route may use already.
-/

namespace Symulator.Interlocking

open Symulator.Library Symulator.Engine Symulator.Srk

set_option autoImplicit false

/-- A request keeps switch locks and routes in agreement when its path has no switches, or its UID is
not in use and nobody holds its flank switches. -/
def SwitchLockGuard {φ : Type} (w : World φ) : Action φ → Prop
  | .command (.requestRoute cmd) =>
    ∀ rp, findRoutePath w.state cmd.fromSignalUid cmd.toSignalUid kPolicies = some rp → rp.switchUids = [] ∨
      w.state.findRoute (makeRouteUid cmd.fromSignalUid cmd.toSignalUid w.state.currentTick) = none ∧
        ∀ fnode ∈ rp.flankSwitches, switchHolder w.state fnode.uid = none
  | _ => True

theorem switchNodes_eq_nil {s : EngineState} {fromSignalUid toSignalUid : UID} {rp : RoutePath}
    (h : IsRoutePath s fromSignalUid toSignalUid rp) (hNone : rp.switchUids = []) : switchNodes rp = [] := by
  have hPath : rp.nodes.filter (fun node => node.kind = .switch) = [] := by
    rw [h.switches, nodeUids] at hNone
    exact List.map_eq_nil_iff.mp hNone
  have hFlank : rp.flankSwitches = [] := by
    rw [h.flank, List.filterMap_eq_nil_iff]
    intro node hNode
    cases hCase : flankNode s node with
    | none => rfl
    | some fnode =>
      have hMem : node ∈ rp.nodes.filter (fun node => node.kind = .switch) :=
        List.mem_filter.mpr ⟨hNode, decide_eq_true (flankNode_cases hCase).1⟩
      rw [hPath] at hMem
      cases hMem
  rw [switchNodes, hPath, hFlank]
  rfl

theorem exists_pathSwitch {s : EngineState} {fromSignalUid toSignalUid : UID} {rp : RoutePath}
    (h : IsRoutePath s fromSignalUid toSignalUid rp) (hSome : rp.switchUids ≠ []) :
    ∃ node ∈ rp.nodes, node.kind = .switch := by
  obtain ⟨u, hu⟩ := List.exists_mem_of_ne_nil _ hSome
  rw [h.switches, mem_nodeUids] at hu
  obtain ⟨node, hNode, hKind, -⟩ := hu
  exact ⟨node, hNode, hKind⟩

section Steps

variable {s : EngineState} (h : SwitchLocksAgree s)

include h

theorem switchLocksAgree_request {cmd : RequestRouteCmd} {rp : RoutePath} (hGranted : Granted s cmd rp)
    (tick : Nat) : SwitchLocksAgree (applyAll s (executeRequestRoute s cmd tick kPolicies)) ↔
      rp.switchUids = [] ∨ s.findRoute (newRoute cmd tick rp).uid = none ∧
        ∀ fnode ∈ rp.flankSwitches, switchHolder s fnode.uid = none := by
  have hIs := hGranted.isRoutePath
  have hKeys := switch_exists_iff (topology_applyAll s (executeRequestRoute s cmd tick kPolicies))
  have hHolder : ∀ u, (s.findSwitch u).isSome = true →
      switchHolder (applyAll s (executeRequestRoute s cmd tick kPolicies)) u =
        acquire (switchHolder s) (fun u => u ∈ (newRoute cmd tick rp).switchUids) (newRoute cmd tick rp).uid u := by
    intro u hu
    exact switchHolder_request hGranted.found tick hu
  have hPath : ∀ node ∈ rp.nodes, node.kind = .switch →
      (s.findSwitch node.uid).isSome = true ∧ switchHolder s node.uid = none := by
    intro node hNode hKind
    obtain ⟨-, sw, hFind⟩ := hIs.switchNode node hNode hKind
    exact ⟨by rw [hFind]; rfl, (switchHolder_of_find hFind).trans (hGranted.throwable hNode hKind hFind).1⟩
  cases hUsed : s.findRoute (newRoute cmd tick rp).uid with
  | none =>
    have hNew : ∀ u, ¬ Active s (newRoute cmd tick rp).uid (fun route => u ∈ route.switchUids) := by
      rintro u ⟨route, hFind, -⟩
      rw [hUsed] at hFind
      cases hFind
    have hTaken := (agrees_congr hKeys hHolder
      (fun u _ r => active_request hGranted.found hUsed r (fun route => u ∈ route.switchUids))).trans
        (h.acquire_iff hNew)
    refine hTaken.trans ?_
    constructor
    · intro hFree
      refine Or.inr ⟨rfl, fun fnode hFlank => ?_⟩
      have hNode : fnode ∈ switchNodes rp := List.mem_append_right _ hFlank
      obtain ⟨sw, hFind⟩ := hIs.exists_switch hNode
      exact hFree fnode.uid (by rw [hFind]; rfl) (mem_switchUids.mpr ⟨fnode, hNode, rfl⟩)
    · intro hGuard u _ hu
      obtain ⟨node, hNode, rfl⟩ := mem_switchUids.mp hu
      rcases hGuard with hNone | ⟨-, hFlank⟩
      · rw [switchNodes_eq_nil hIs hNone] at hNode
        cases hNode
      · rcases List.mem_append.mp hNode with hNode | hNode
        · rw [List.mem_filter, decide_eq_true_eq] at hNode
          exact (hPath node hNode.1 hNode.2).2
        · exact hFlank node hNode
  | some route =>
    have hRoutes := routes_request_of_used hGranted.found (hUsed ▸ Option.some_ne_none route)
    have hOver := (agrees_congr hKeys hHolder
      (fun u _ r => Active.congr hRoutes r (fun route => u ∈ route.switchUids))).trans h.overwrite_iff
    refine hOver.trans ?_
    constructor
    · intro hHeld
      left
      by_contra hSome
      obtain ⟨node, hNode, hKind⟩ := exists_pathSwitch hIs hSome
      obtain ⟨hExists, hFree⟩ := hPath node hNode hKind
      have hMem : node ∈ switchNodes rp :=
        List.mem_append_left _ (List.mem_filter.mpr ⟨hNode, decide_eq_true hKind⟩)
      have hTaken := hHeld node.uid hExists (mem_switchUids.mpr ⟨node, hMem, rfl⟩)
      rw [hFree] at hTaken
      cases hTaken
    · rintro (hNone | ⟨hFresh, -⟩)
      · intro u _ hu
        obtain ⟨node, hNode, -⟩ := mem_switchUids.mp hu
        rw [switchNodes_eq_nil hIs hNone] at hNode
        cases hNode
      · cases hFresh

/-- A cancellation releases what its route owns and nothing else. -/
theorem switchLocksAgree_cancel {cmd : CancelRouteCmd} {route : RouteState}
    (hFind : s.findRoute cmd.routeUid = some route) :
    SwitchLocksAgree (applyAll s (executeCancelRoute s cmd)) := by
  have hKeys := switch_exists_iff (topology_applyAll s (executeCancelRoute s cmd))
  have hHolder : ∀ u, (s.findSwitch u).isSome = true →
      switchHolder (applyAll s (executeCancelRoute s cmd)) u =
        if u ∈ route.switchUids then none else switchHolder s u := by
    intro u hu
    exact switchHolder_cancel hFind hu
  have hOwns : ∀ u, Active s cmd.routeUid (fun route => u ∈ route.switchUids) ↔ u ∈ route.switchUids := by
    intro u
    simp [Active, hFind]
  refine (agrees_congr hKeys (fun _ _ => rfl)
    (fun u _ r => active_cancel hFind r (fun route => u ∈ route.switchUids))).mpr (h.release ?_ ?_)
  · intro u hu hOwned
    rw [hHolder u hu, if_pos ((hOwns u).mp hOwned)]
  · intro u hu hOwned
    rw [hHolder u hu, if_neg (fun hMem => hOwned ((hOwns u).mpr hMem))]

end Steps

theorem switchLocksAgree_step {φ : Type} {dynamics : TrainDynamics φ} {w w' : World φ} {a : Action φ}
    (h : SwitchLocksAgree w.state) (hRequested : RoutesRequested w.state) (hStep : w.step dynamics a = some w') :
    SwitchLocksAgree w'.state ↔ SwitchLockGuard w a := by
  have hKept : (∀ u, (switchLock u).read w'.state = (switchLock u).read w.state) →
      w'.state.routes = w.state.routes → SwitchLocksAgree w'.state := by
    intro hLocks hRoutes
    have hKeys := switch_exists_iff (World.topology_step hStep)
    refine (agrees_congr hKeys (fun u _ => ?_)
      (fun u _ r => Active.congr hRoutes r _)).mpr h
    rw [switchHolder, hLocks u]
    rfl
  cases stepEffect_of_step hStep with
  | command cmd hKind hCheck hState =>
    have hGuard : SwitchLockGuard w (.command cmd : Action φ) := by
      cases cmd
      case requestRoute => cases hKind
      all_goals trivial
    refine iff_of_true (hKept (fun u => ?_) ?_) hGuard
    · rw [hState, switchLock_changesOf _ _ hKind]
    · rw [hState, routes_changesOf _ _ hKind]
  | request cmd rp hGranted hState =>
    rw [hState, switchLocksAgree_request h hGranted]
    constructor
    · intro hGuard rp' hFound
      rw [hGranted.found] at hFound
      cases hFound
      exact hGuard
    · intro hGuard
      exact hGuard rp hGranted.found
  | cancel cmd route hFind hState =>
    rw [hState]
    exact iff_of_true (switchLocksAgree_cancel h hFind) trivial
  | tick hState =>
    refine iff_of_true (hKept (fun u => ?_) ?_) trivial
    · rw [hState]
      exact hRequested.read_onTick _ _ (switchLock u) (fun _ _ _ _ => rfl)
    · rw [hState, hRequested.routes_onTick]
  | other _ hCommand hTick hSame =>
    have hGuard : SwitchLockGuard w a := by
      cases a <;> first | exact absurd rfl (hCommand _) | trivial
    refine iff_of_true (hKept (fun u => ?_) hSame.routes) hGuard
    simp only [switchLock, EngineState.findSwitch, hSame.switches]

/-- From a loaded world, switch locks and routes agree in every state of a run exactly when every request
of the run meets the guard. -/
theorem switchLocks_agree_iff {φ : Type} {dynamics : TrainDynamics φ} {w₀ w : World φ}
    {actions : List (Action φ)} (hLoaded : w₀.Loaded) (hRun : run (World.step dynamics) w₀ actions = some w) :
    Always (World.step dynamics) (fun w => SwitchLocksAgree w.state) w₀ actions ↔
      Guarded (World.step dynamics) SwitchLockGuard w₀ actions := by
  refine always_iff_guarded (fun w => SwitchLocksAgree w.state) (fun w => RoutesRequested w.state)
    SwitchLockGuard ?_ ?_ (switchLocksAgree_of_fresh hLoaded.fresh) (routesRequested_of_loaded hLoaded) hRun
  · intro w a w' h hRequested hStep
    exact switchLocksAgree_step h hRequested hStep
  · intro w a w' _ hRequested _ hStep
    exact hRequested.step (stepEffect_of_step hStep) (World.topology_step hStep)

theorem switchLocks_agree_fork : Always (World.step World.idleTrains) (fun w => SwitchLocksAgree w.state)
    (World.start .ml8 forkStation) [.command (.requestRoute ⟨⟨21⟩, ⟨22⟩⟩)] := by
  have hLoaded : (World.start .ml8 forkStation).Loaded := ⟨[forkStation], _, rfl⟩
  obtain ⟨w, hRun, -⟩ := World.exists_reachable .ml8 forkStation [.command (.requestRoute ⟨⟨21⟩, ⟨22⟩⟩)]
    (fun _ => true) hLoaded (by decide +kernel)
  refine (switchLocks_agree_iff hLoaded hRun).mpr ⟨?_, fun _ _ => trivial⟩
  have hPath : (findRoutePath (loadedState forkStation) ⟨21⟩ ⟨22⟩ kPolicies).all
      (fun rp => rp.flankSwitches = []) = true := by decide +kernel
  intro rp hFound
  have hFlank := of_decide_eq_true ((Option.all_eq_true _ _).mp hPath rp hFound)
  exact Or.inr ⟨rfl, by simp [hFlank]⟩

/-- Two routes share a flank switch, and the second takes its lock from the first. -/
theorem flankSwitch_stolen : ¬ ∀ w : World Unit, w.Reachable World.idleTrains → SwitchLocksAgree w.state := by
  intro h
  let r := makeRouteUid ⟨21⟩ ⟨22⟩ 0
  obtain ⟨w, -, hReach, hTest⟩ := World.exists_reachable .ml8 junctionStation
    [.command (.requestRoute ⟨⟨21⟩, ⟨22⟩⟩), .command (.requestRoute ⟨⟨23⟩, ⟨24⟩⟩)]
    (fun w => (w.state.findSwitch ⟨13⟩).isSome = true ∧ switchHolder w.state ⟨13⟩ ≠ some r ∧
      (w.state.findRoute r).any (fun route => ⟨13⟩ ∈ route.switchUids) = true)
    ⟨[junctionStation], _, rfl⟩ (by decide +kernel)
  obtain ⟨hSwitch, hHeld, hActive⟩ := of_decide_eq_true hTest
  obtain ⟨route, hFind, hMem⟩ := (Option.any_eq_true _ _).mp hActive
  exact hHeld ((h w hReach ⟨13⟩ hSwitch r).mpr ⟨route, hFind, of_decide_eq_true hMem⟩)

end Symulator.Interlocking
