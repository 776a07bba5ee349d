import Symulator.Srk.LockAgreement

/-! # Proceed aspects

A route whose entry signal shows proceed is to lie ready: the switches of its path stand as required under
its lock and its derailers are open. Every route is set up like this when it is requested; the run lemma
says which later steps may take it apart.
-/

namespace Symulator.Interlocking

open Symulator.Library Symulator.Engine Symulator.Srk

set_option autoImplicit false

/-- Every signal that an active route holds and that shows a proceed aspect leads over a route that lies
ready. -/
def ProceedSafe (s : EngineState) : Prop :=
  ∀ g sig r route, s.findSignal g = some sig → sig.lockedByRouteUid = some r → s.findRoute r = some route →
    sig.currentAspect.isStop = false →
    (∀ rp, findRoutePath s route.fromSignalUid route.toSignalUid kPolicies = some rp →
      ∀ node ∈ rp.nodes, node.kind = .switch → ∃ sw, s.findSwitch node.uid = some sw ∧
        sw.position = node.requiredPosition ∧ sw.position ≠ .moving ∧ sw.position ≠ .trailedDamaged ∧
        sw.lockedByRouteUid = some r) ∧
    ∀ u ∈ route.derailerUids, ∃ d, s.findDerailer u = some d ∧ d.state = .unlocked

/-- The switch lies on the path of the route, not only at its flank. -/
def OnPath (s : EngineState) (route : RouteState) (u : UID) : Prop :=
  ∃ rp, findRoutePath s route.fromSignalUid route.toSignalUid kPolicies = some rp ∧
    ∃ node ∈ rp.nodes, node.kind = .switch ∧ node.uid = u

/-- The steps that take no route apart. A request has no flank switch on the path of an active route,
and none on its own path that wants another position; a cancelled route has no switch on the path of
another route and shares no derailer with it; an ML8 command throws no switch on a path away from where
it stands, and no command closes a derailer of a route. -/
def ProceedGuard {φ : Type} (w : World φ) : Action φ → Prop
  | .command (.requestRoute cmd) =>
    ∀ rp, findRoutePath w.state cmd.fromSignalUid cmd.toSignalUid kPolicies = some rp →
      ∀ fnode ∈ rp.flankSwitches, (∀ route ∈ w.state.routes.values, ¬ OnPath w.state route fnode.uid) ∧
        ∀ node ∈ rp.nodes, node.kind = .switch → node.uid = fnode.uid →
          (switchPosition fnode.uid).read w.state = some fnode.requiredPosition ∨
            fnode.requiredPosition = node.requiredPosition
  | .command (.cancelRoute cmd) =>
    ∀ route, w.state.findRoute cmd.routeUid = some route →
      ∀ other ∈ w.state.routes.values, other.uid ≠ cmd.routeUid →
        (∀ u ∈ route.switchUids, ¬ OnPath w.state other u) ∧ ∀ u ∈ route.derailerUids, u ∉ other.derailerUids
  | .command cmd => ∀ route ∈ w.state.routes.values,
    (∀ u, IsMl8Throw w.control u cmd → OnPath w.state route u →
      w.control.eea4ThrowTicks ≤ 0 ∧ (switchPosition u).read w.state = some .divergent) ∧
    ∀ u, w.control.effectOf w.state cmd = .derailer u .locked → u ∉ route.derailerUids
  | _ => True

/-- The route lies ready. -/
structure RouteSet (s : EngineState) (route : RouteState) : Prop where
  switches : ∀ rp, findRoutePath s route.fromSignalUid route.toSignalUid kPolicies = some rp →
    ∀ node ∈ rp.nodes, node.kind = .switch →
      (switchPosition node.uid).read s = some node.requiredPosition ∧
        (switchLock node.uid).read s = some (some route.uid)
  derailers : ∀ u ∈ route.derailerUids, (derailerState u).read s = some .unlocked

structure ProceedInv (s : EngineState) : Prop where
  requested : RoutesRequested s
  set : ∀ route ∈ s.routes.values, RouteSet s route

theorem RouteSet.lock {s : EngineState} {route : RouteState} (h : RouteSet s route) {u : UID}
    (hu : OnPath s route u) : (switchLock u).read s = some (some route.uid) := by
  obtain ⟨rp, hFound, node, hNode, hKind, rfl⟩ := hu
  exact (h.switches rp hFound node hNode hKind).2

theorem RouteSet.position {s : EngineState} {route : RouteState} (h : RouteSet s route) {u : UID}
    (hu : OnPath s route u) :
    (switchPosition u).read s = some .straight ∨ (switchPosition u).read s = some .divergent := by
  obtain ⟨rp, hFound, node, hNode, hKind, rfl⟩ := hu
  rw [(h.switches rp hFound node hNode hKind).1, Option.some_inj, Option.some_inj]
  exact (isRoutePath_of_findRoutePath hFound).required node hNode

/-- What leaves the path switches and the derailers of a route alone leaves it ready. -/
theorem RouteSet.congr {s t : EngineState} {route : RouteState} (h : RouteSet s route)
    (hTopology : t.topology = s.topology)
    (hPosition : ∀ u, OnPath s route u → (switchPosition u).read t = (switchPosition u).read s)
    (hLock : ∀ u, OnPath s route u → (switchLock u).read t = (switchLock u).read s)
    (hDerailer : ∀ u ∈ route.derailerUids, (derailerState u).read t = some .unlocked) : RouteSet t route := by
  refine ⟨fun rp hFound node hNode hKind => ?_, hDerailer⟩
  rw [findRoutePath_topology hTopology] at hFound
  have hOn : OnPath s route node.uid := ⟨rp, hFound, node, hNode, hKind, rfl⟩
  rw [hPosition node.uid hOn, hLock node.uid hOn]
  exact h.switches rp hFound node hNode hKind

theorem proceedSafe_of_inv {s : EngineState} (h : ProceedInv s) : ProceedSafe s := by
  intro g sig r route hSig hHeld hFind hProceed
  obtain ⟨hRoute, rfl⟩ := KeyedMap.find_eq_some_iff.mp hFind
  have hSet := h.set route hRoute
  constructor
  · intro rp hFound node hNode hKind
    have hIs := isRoutePath_of_findRoutePath hFound
    obtain ⟨-, sw, hSw⟩ := hIs.switchNode node hNode hKind
    obtain ⟨hPosition, hLock⟩ := hSet.switches rp hFound node hNode hKind
    rw [switchPosition_of_find hSw, Option.some_inj] at hPosition
    rw [switchLock_of_find hSw, Option.some_inj] at hLock
    refine ⟨sw, hSw, hPosition, ?_, ?_, hLock⟩
    all_goals
      rw [hPosition]
      rcases hIs.required node hNode with hEq | hEq <;> simp [hEq]
  · intro u hu
    obtain ⟨held, hHeld, hOpen⟩ := Option.map_eq_some_iff.mp (hSet.derailers u hu)
    obtain ⟨d, hd, rfl⟩ := Option.map_eq_some_iff.mp hHeld
    exact ⟨d, hd, hOpen⟩

section Request

variable {s : EngineState} {cmd : RequestRouteCmd} {rp : RoutePath} (h : Granted s cmd rp) (tick : Nat)

include h

theorem routeSet_newRoute (hOwn : ∀ fnode ∈ rp.flankSwitches, ∀ node ∈ rp.nodes, node.kind = .switch →
      node.uid = fnode.uid → (switchPosition fnode.uid).read s = some fnode.requiredPosition ∨
        fnode.requiredPosition = node.requiredPosition) :
    RouteSet (applyAll s (executeRequestRoute s cmd tick kPolicies)) (newRoute cmd tick rp) := by
  have hIs := h.isRoutePath
  constructor
  · intro rp' hFound node hNode hKind
    rw [findRoutePath_topology (topology_applyAll s _)] at hFound
    cases h.found.symm.trans hFound
    obtain ⟨-, sw, hFind⟩ := hIs.switchNode node hNode hKind
    have hMem : node ∈ switchNodes rp :=
      List.mem_append_left _ (List.mem_filter.mpr ⟨hNode, decide_eq_true hKind⟩)
    constructor
    · rcases switchPosition_request h.found tick node.uid (switchPosition_of_find hFind) with
        ⟨hAll, hAfter⟩ | ⟨other, hOther, hUid, hNe, hAfter⟩
      · rw [hAfter, hAll node hMem rfl]
      · rw [hAfter]
        rcases List.mem_append.mp hOther with hPath | hFlank
        · have hSame := List.inj_on_of_nodup_map hIs.nodup (List.mem_of_mem_filter hPath) hNode hUid
          rw [hSame]
        · rcases hOwn other hFlank node hNode hKind hUid.symm with hStands | hSame
          · rw [hUid, switchPosition_of_find hFind, Option.some_inj] at hStands
            exact absurd hStands.symm hNe
          · rw [hSame]
    · rw [switchLock_request h.found, switchLock_of_find hFind, Option.map_some,
        if_pos (mem_switchUids.mpr ⟨node, hMem, rfl⟩)]
  · intro u hu
    obtain ⟨d, hFind⟩ := hIs.exists_derailer hu
    rw [derailerState_request h.found, derailerState_of_find hFind, Option.map_some]
    exact congrArg some (if_pos hu)

/-- The request leaves a route ready whose path its flank switches keep off. -/
theorem RouteSet.request {route : RouteState} (hSet : RouteSet s route)
    (hFlank : ∀ fnode ∈ rp.flankSwitches, ¬ OnPath s route fnode.uid) :
    RouteSet (applyAll s (executeRequestRoute s cmd tick kPolicies)) route := by
  have hApart : ∀ u, OnPath s route u → ∀ node ∈ switchNodes rp, node.uid ≠ u := by
    rintro u hOn node hNode rfl
    rcases List.mem_append.mp hNode with hNode | hNode
    · rw [List.mem_filter, decide_eq_true_eq] at hNode
      obtain ⟨-, sw, hFind⟩ := h.isRoutePath.switchNode node hNode.1 hNode.2
      have hLock := hSet.lock hOn
      rw [switchLock_of_find hFind, (h.throwable hNode.1 hNode.2 hFind).1] at hLock
      cases hLock
    · exact hFlank node hNode hOn
  refine hSet.congr (topology_applyAll s _) (fun u hOn => ?_) (fun u hOn => ?_) (fun u hu => ?_)
  · have hStands : ∃ position, (switchPosition u).read s = some position := by
      rcases hSet.position hOn with hEq | hEq
      · exact ⟨_, hEq⟩
      · exact ⟨_, hEq⟩
    obtain ⟨position, hRead⟩ := hStands
    by_contra hNe
    rw [hRead] at hNe
    obtain ⟨node, hNode, hUid, -⟩ := (switchPosition_request_ne h.found tick hRead).mp hNe
    exact hApart u hOn node hNode hUid
  · have hNot : u ∉ (newRoute cmd tick rp).switchUids := by
      intro hMem
      obtain ⟨node, hNode, hUid⟩ := mem_switchUids.mp hMem
      exact hApart u hOn node hNode hUid
    rw [switchLock_request h.found]
    simp [hNot]
  · rw [derailerState_request h.found, hSet.derailers u hu]
    simp

end Request

/-- A command that is not about routes leaves a route ready under its guard. -/
theorem RouteSet.changesOf {sys : ControlSystem} {s : EngineState} {cmd : Command}
    (hKind : isRouteCommand cmd = false) (hCheck : sys.checkCommand s cmd = none) {route : RouteState}
    (hSet : RouteSet s route)
    (hThrow : ∀ u, IsMl8Throw sys u cmd → OnPath s route u →
      sys.eea4ThrowTicks ≤ 0 ∧ (switchPosition u).read s = some .divergent)
    (hClose : ∀ u, sys.effectOf s cmd = .derailer u .locked → u ∉ route.derailerUids) :
    RouteSet (applyAll s (sys.changesOf s cmd)) route := by
  refine hSet.congr (topology_applyAll s _) (fun u hOn => ?_) (fun u _ => switchLock_changesOf sys s hKind u)
    (fun u hu => ?_)
  · rw [switchPosition_changesOf sys s hKind]
    cases hEffect : sys.effectOf s cmd with
    | quiet | signal | derailer => simp only [CommandEffect.positionAfter, Option.map_id_fun', id]
    | switch uid position =>
      by_cases hUid : u = uid
      · subst hUid
        obtain ⟨sw, hFind, -, -, hFree | ⟨hMl8, rfl⟩⟩ := checked_switch hCheck hEffect
        · have hLock := hSet.lock hOn
          rw [switchLock_of_find hFind, hFree] at hLock
          cases hLock
        · obtain ⟨hTicks, hStands⟩ := hThrow u hMl8 hOn
          have hStays : thrownPosition .divergent sys.eea4ThrowTicks = .divergent := if_neg (by omega)
          simp [CommandEffect.positionAfter, hStands, hStays]
      · simp only [CommandEffect.positionAfter, if_neg hUid, Option.map_id_fun', id]
  · rw [derailerState_changesOf sys s hKind, hSet.derailers u hu, Option.map_some]
    cases hEffect : sys.effectOf s cmd with
    | quiet | signal | switch => rfl
    | derailer uid state =>
      cases state with
      | unlocked => simp [CommandEffect.derailerStateAfter]
      | locked =>
        have hNe : u ≠ uid := by
          rintro rfl
          exact hClose u hEffect hu
        simp [CommandEffect.derailerStateAfter, hNe]

theorem RouteSet.cancel {s : EngineState} {cmd : CancelRouteCmd} {route : RouteState}
    (hFind : s.findRoute cmd.routeUid = some route) {other : RouteState} (hSet : RouteSet s other)
    (hSwitches : ∀ u ∈ route.switchUids, ¬ OnPath s other u)
    (hDerailers : ∀ u ∈ route.derailerUids, u ∉ other.derailerUids) :
    RouteSet (applyAll s (executeCancelRoute s cmd)) other := by
  refine hSet.congr (topology_applyAll s _) (fun u _ => switchPosition_cancel u) (fun u hOn => ?_)
    (fun u hu => ?_)
  · have hNot : u ∉ route.switchUids := fun hMem => hSwitches u hMem hOn
    rw [switchLock_cancel hFind]
    simp [hNot]
  · have hNot : u ∉ route.derailerUids := fun hMem => hDerailers u hMem hu
    rw [derailerState_cancel hFind, hSet.derailers u hu]
    simp [hNot]

theorem proceedInv_step {φ : Type} {dynamics : TrainDynamics φ} {w w' : World φ} {a : Action φ}
    (h : ProceedInv w.state) (hGuard : ProceedGuard w a) (hStep : w.step dynamics a = some w') :
    ProceedInv w'.state := by
  have hEffect := stepEffect_of_step hStep
  have hTopology := World.topology_step hStep
  refine ⟨h.requested.step hEffect hTopology, ?_⟩
  intro route hRoute
  cases hEffect with
  | command cmd hKind hCheck hState =>
    rw [hState] at hRoute ⊢
    rw [routes_changesOf _ _ hKind] at hRoute
    have hAt : ∀ route ∈ w.state.routes.values,
        (∀ u, IsMl8Throw w.control u cmd → OnPath w.state route u →
          w.control.eea4ThrowTicks ≤ 0 ∧ (switchPosition u).read w.state = some .divergent) ∧
        ∀ u, w.control.effectOf w.state cmd = .derailer u .locked → u ∉ route.derailerUids := by
      cases cmd
      case requestRoute | cancelRoute => cases hKind
      all_goals exact hGuard
    exact (h.set route hRoute).changesOf hKind hCheck (hAt route hRoute).1 (hAt route hRoute).2
  | request cmd rp hGranted hState =>
    rw [hState] at hRoute ⊢
    rw [routes_request hGranted.found] at hRoute
    have hAt := hGuard rp hGranted.found
    refine KeyedMap.forall_emplace (fun old hOld => ?_) ?_ route hRoute
    · exact (h.set old hOld).request hGranted _ (fun fnode hFlank => (hAt fnode hFlank).1 old hOld)
    · exact routeSet_newRoute hGranted _ (fun fnode hFlank => (hAt fnode hFlank).2)
  | cancel cmd cancelled hFind hState =>
    rw [hState] at hRoute ⊢
    rw [routes_cancel hFind] at hRoute
    obtain ⟨hOld, hOther⟩ := List.mem_filter.mp hRoute
    obtain ⟨hSwitches, hDerailers⟩ := hGuard cancelled hFind route hOld (of_decide_eq_true hOther)
    exact (h.set route hOld).cancel hFind hSwitches hDerailers
  | tick hState =>
    rw [hState] at hRoute ⊢
    rw [h.requested.routes_onTick] at hRoute
    have hSet := h.set route hRoute
    refine hSet.congr (topology_applyAll _ _) (fun u hOn => ?_) (fun u _ => ?_) (fun u hu => ?_)
    · refine h.requested.switchPosition_onTick _ _ ?_
      rcases hSet.position hOn with hEq | hEq <;> simp [hEq]
    · exact h.requested.read_onTick _ _ (switchLock u) (fun _ _ _ _ => rfl)
    · rw [h.requested.read_onTick _ _ (derailerState u) (fun _ _ _ _ => rfl)]
      exact hSet.derailers u hu
  | other _ hCommand hTick hSame =>
    rw [hSame.routes] at hRoute
    have hSet := h.set route hRoute
    refine hSet.congr hTopology (fun u _ => ?_) (fun u _ => ?_) (fun u hu => ?_)
    · simp only [switchPosition, EngineState.findSwitch, hSame.switches]
    · simp only [switchLock, EngineState.findSwitch, hSame.switches]
    · rw [← hSet.derailers u hu]
      simp only [derailerState, derailerHeld, EngineState.findDerailer, hSame.derailers]

theorem proceedInv_of_loaded {φ : Type} {w : World φ} (h : w.Loaded) : ProceedInv w.state := by
  refine ⟨routesRequested_of_loaded h, fun route hRoute => ?_⟩
  rw [h.fresh.routes] at hRoute
  cases hRoute

/-- From a loaded world, a run whose steps meet the guard shows no proceed aspect before a route that does
not lie ready. -/
theorem proceed_safe {φ : Type} {dynamics : TrainDynamics φ} {w₀ : World φ} {actions : List (Action φ)}
    (hLoaded : w₀.Loaded) (hGuard : Guarded (World.step dynamics) ProceedGuard w₀ actions) :
    Always (World.step dynamics) (fun w => ProceedSafe w.state) w₀ actions := by
  have hInv : Always (World.step dynamics) (fun w => ProceedInv w.state) w₀ actions :=
    always_of_guarded (fun w => ProceedInv w.state) ProceedGuard
      (fun _ _ _ h hGuard hStep => proceedInv_step h hGuard hStep) (proceedInv_of_loaded hLoaded) hGuard
  exact hInv.mono fun _ h => proceedSafe_of_inv h

theorem proceed_safe_fork : Always (World.step World.idleTrains) (fun w => ProceedSafe w.state)
    (World.start .ml8 forkStation) [.command (.requestRoute ⟨⟨21⟩, ⟨22⟩⟩)] := by
  have hPath : (findRoutePath (loadedState forkStation) ⟨21⟩ ⟨22⟩ kPolicies).all
      (fun rp => rp.flankSwitches = []) = true := by decide +kernel
  refine proceed_safe ⟨[forkStation], _, rfl⟩ ⟨?_, fun _ _ => trivial⟩
  intro rp hFound fnode hFlank
  have hNone := of_decide_eq_true ((Option.all_eq_true _ _).mp hPath rp hFound)
  rw [hNone] at hFlank
  cases hFlank

/-- An ML8 command throws the switch of a route while its signal shows proceed. -/
theorem proceedOverMovingSwitch : ¬ ∀ w : World Unit, w.Reachable World.idleTrains → ProceedSafe w.state := by
  intro h
  let r := makeRouteUid ⟨21⟩ ⟨22⟩ 0
  obtain ⟨w, -, hReach, hTest⟩ := World.exists_reachable .ml8 forkStation
    [.command (.requestRoute ⟨⟨21⟩, ⟨22⟩⟩), .command (.ml8Command ⟨⟨10⟩, .switch, .pz⟩)]
    (fun w =>
      (w.state.findSignal ⟨21⟩).any (fun sig => sig.lockedByRouteUid = some r ∧ sig.currentAspect.isStop = false) ∧
      (w.state.findRoute r).any (fun route =>
        (findRoutePath w.state route.fromSignalUid route.toSignalUid kPolicies).any (fun rp =>
          rp.nodes.any (fun node => node.kind = .switch ∧ (switchPosition node.uid).read w.state = some .moving))))
    ⟨[forkStation], _, rfl⟩ (by decide +kernel)
  obtain ⟨hSignal, hRoute⟩ := of_decide_eq_true hTest
  obtain ⟨sig, hSig, hShown⟩ := (Option.any_eq_true _ _).mp hSignal
  obtain ⟨hHeld, hProceed⟩ := of_decide_eq_true hShown
  obtain ⟨route, hFind, hRoute⟩ := (Option.any_eq_true _ _).mp hRoute
  obtain ⟨rp, hFound, hPath⟩ := (Option.any_eq_true _ _).mp hRoute
  obtain ⟨node, hNode, hMoving⟩ := List.any_eq_true.mp hPath
  obtain ⟨hKind, hRead⟩ := of_decide_eq_true hMoving
  obtain ⟨hSwitches, -⟩ := h w hReach ⟨21⟩ sig r route hSig hHeld hFind hProceed
  obtain ⟨sw, hSw, -, hRest, -⟩ := hSwitches rp hFound node hNode hKind
  rw [switchPosition_of_find hSw] at hRead
  exact hRest (Option.some.inj hRead)

end Symulator.Interlocking
