import Symulator.Srk.Steps

/-! # The route map along a run

A tick removes the routes that are due and keeps the others. On a run there are none: every entry of
the route map is as a request made it, and no train has entered it.
-/

namespace Symulator.Srk

open Symulator.Library Symulator.Engine

set_option autoImplicit false

/-- The route `r` is active and has the property. -/
def Active (s : EngineState) (r : UID) (P : RouteState → Prop) : Prop :=
  ∃ route, s.findRoute r = some route ∧ P route

theorem Active.congr {s t : EngineState} (h : t.routes = s.routes) (r : UID) (P : RouteState → Prop) :
    Active t r P ↔ Active s r P := by
  rw [Active, Active, EngineState.findRoute, EngineState.findRoute, h]

/-! ## After a request and a cancellation -/

theorem findRoute_request {s : EngineState} {cmd : RequestRouteCmd} {rp : RoutePath}
    (h : findRoutePath s cmd.fromSignalUid cmd.toSignalUid kPolicies = some rp) (tick : Nat) (r : UID) :
    (applyAll s (executeRequestRoute s cmd tick kPolicies)).findRoute r =
      (s.findRoute r).or (if (newRoute cmd tick rp).uid = r then some (newRoute cmd tick rp) else none) := by
  rw [EngineState.findRoute, routes_request h]
  exact KeyedMap.find_emplace s.routes (newRoute cmd tick rp) r

theorem active_request {s : EngineState} {cmd : RequestRouteCmd} {rp : RoutePath}
    (h : findRoutePath s cmd.fromSignalUid cmd.toSignalUid kPolicies = some rp) {tick : Nat}
    (hFresh : s.findRoute (newRoute cmd tick rp).uid = none) (r : UID) (P : RouteState → Prop) :
    Active (applyAll s (executeRequestRoute s cmd tick kPolicies)) r P ↔
      Active s r P ∨ r = (newRoute cmd tick rp).uid ∧ P (newRoute cmd tick rp) := by
  rw [Active, Active, findRoute_request h]
  by_cases hr : (newRoute cmd tick rp).uid = r
  · subst hr
    rw [hFresh, if_pos rfl]
    simp
  · rw [if_neg hr, Option.or_none]
    simp [Ne.symm hr]

theorem routes_request_of_used {s : EngineState} {cmd : RequestRouteCmd} {rp : RoutePath}
    (h : findRoutePath s cmd.fromSignalUid cmd.toSignalUid kPolicies = some rp) {tick : Nat}
    (hUsed : s.findRoute (newRoute cmd tick rp).uid ≠ none) :
    (applyAll s (executeRequestRoute s cmd tick kPolicies)).routes = s.routes := by
  rw [routes_request h]
  exact KeyedMap.emplace_of_find hUsed

theorem active_cancel {s : EngineState} {cmd : CancelRouteCmd} {route : RouteState}
    (h : s.findRoute cmd.routeUid = some route) (r : UID) (P : RouteState → Prop) :
    Active (applyAll s (executeCancelRoute s cmd)) r P ↔ r ≠ cmd.routeUid ∧ Active s r P := by
  have hFind : (applyAll s (executeCancelRoute s cmd)).findRoute r =
      if r = cmd.routeUid then none else s.findRoute r := by
    rw [EngineState.findRoute, routes_cancel h]
    exact KeyedMap.find_erase s.routes cmd.routeUid r
  rw [Active, Active, hFind]
  by_cases hr : r = cmd.routeUid
  · simp [hr]
  · simp [hr]

/-! ## After a tick -/

theorem mem_onTick {sys : ControlSystem} {s : EngineState} {tick : Nat} {c : DeviceStateChange}
    (h : c ∈ (sys.onTick s tick).1) :
    (∃ sw ∈ s.switches.values, sw.position = .moving ∧
      ∃ position ticks, c = .switchPositionChange sw.uid position .auto ticks) ∨
    c ∈ tickRouteAutoRelease s tick := by
  rcases List.mem_append.mp h with hc | hc
  · exact Or.inl (mem_tickSwitchMachines hc)
  · exact Or.inr hc

/-- Every change of a tick lands a switch, releases a route that is due, or starts the timer of a route. -/
theorem onTick_cases {sys : ControlSystem} {s : EngineState} {tick : Nat} {c : DeviceStateChange}
    (h : c ∈ (sys.onTick s tick).1) :
    (∃ uid position ticks, c = .switchPositionChange uid position .auto ticks) ∨
    ∃ route ∈ s.routes.values,
      IsDue s tick route ∧ (c = .signalAspectChange route.fromSignalUid .s1Stop .auto (some route.uid) ∨
        (∃ uid ∈ route.switchUids, c = .switchUnlocked uid route.uid) ∨
        c = .routeRemoved route.uid "TRAIN_CLEARED") ∨
      ∃ releaseTick, c = .routeOverlapTimerStarted route.uid releaseTick := by
  rcases mem_onTick h with ⟨sw, _, _, position, ticks, hMoved⟩ | h
  · exact Or.inl ⟨_, _, _, hMoved⟩
  · obtain ⟨route, hRoute, h⟩ := List.mem_flatMap.mp h
    exact Or.inr ⟨route, hRoute, releaseRoute_cases h⟩

theorem foldl_releaseRoute_of_ne {s : EngineState} {tick : Nat} {route : RouteState} {u : UID}
    (h : route.uid ≠ u) (held : Option RouteState) :
    (releaseRoute s tick route).foldl (routeAfter u) held = held := by
  have hQuiet : ∀ changes : List DeviceStateChange, (∀ c ∈ changes, routeAfter u held c = held) →
      changes.foldl (routeAfter u) held = held := by
    intro changes hChanges
    induction changes with
    | nil => rfl
    | cons c changes ih =>
      rw [List.foldl_cons, hChanges c List.mem_cons_self]
      exact ih (fun c' hc' => hChanges c' (List.mem_cons_of_mem _ hc'))
  apply hQuiet
  intro c hc
  rcases releaseRoute_cases hc with ⟨_, rfl | ⟨uid, _, rfl⟩ | rfl⟩ | ⟨releaseTick, rfl⟩
  · rfl
  · rfl
  · exact if_neg (Ne.symm h)
  · cases held with
    | none => rfl
    | some r => simp [routeAfter, Ne.symm h]

theorem foldl_releaseRoute_of_isDue {s : EngineState} {tick : Nat} {route : RouteState}
    (h : IsDue s tick route) (held : Option RouteState) :
    (releaseRoute s tick route).foldl (routeAfter route.uid) held = none := by
  rw [releaseRoute_of_isDue h, List.foldl_append]
  exact if_pos rfl

theorem foldl_releaseRoute_of_not_isDue {s : EngineState} {tick : Nat} {route : RouteState}
    (h : ¬ IsDue s tick route) :
    ∃ overlap, (releaseRoute s tick route).foldl (routeAfter route.uid) (some route) =
      some { route with overlapReleaseTick := overlap } := by
  rw [releaseRoute]
  split
  · exact ⟨_, rfl⟩
  · rename_i hEntered
    split
    · exact ⟨_, rfl⟩
    · rename_i hFree
      split
      · exact ⟨some _, by simp [routeAfter]; rfl⟩
      · rename_i releaseTick hTick
        split
        · exact ⟨_, rfl⟩
        · rename_i hLe
          refine absurd ⟨Decidable.not_not.mp hEntered, Decidable.not_not.mp hFree, releaseTick, hTick, ?_⟩ h
          omega

theorem foldl_release_of_forall_ne {s : EngineState} {tick : Nat} {u : UID} {routes : List RouteState}
    (h : ∀ route ∈ routes, route.uid ≠ u) (held : Option RouteState) :
    (routes.flatMap (releaseRoute s tick)).foldl (routeAfter u) held = held := by
  induction routes with
  | nil => rfl
  | cons route routes ih =>
    rw [List.flatMap_cons, List.foldl_append, foldl_releaseRoute_of_ne (h route List.mem_cons_self)]
    exact ih (fun r hr => h r (List.mem_cons_of_mem _ hr))

section Tick

variable (sys : ControlSystem) (s : EngineState) (tick : Nat) (u : UID)

theorem findRoute_onTick_eq : (applyAll s (sys.onTick s tick).1).findRoute u =
    (tickRouteAutoRelease s tick).foldl (routeAfter u) (s.findRoute u) := by
  have hMachines : ∀ c ∈ (tickSwitchMachines s sys.pendingTargets).1, writesRoutes c = false := by
    intro c hc
    obtain ⟨sw, _, _, position, ticks, rfl⟩ := mem_tickSwitchMachines hc
    rfl
  have hRoutes := routes_applyAll_of_silent hMachines s
  simp only [ControlSystem.onTick]
  rw [applyAll_append, findRoute_applyAll, EngineState.findRoute, hRoutes]
  rfl

variable {s tick u}

theorem findRoute_onTick_of_none (h : s.findRoute u = none) :
    (applyAll s (sys.onTick s tick).1).findRoute u = none := by
  rw [findRoute_onTick_eq, h]
  exact foldl_release_of_forall_ne (KeyedMap.find_eq_none_iff.mp h) none

theorem foldl_tick_of_find {route : RouteState} (h : s.findRoute u = some route) :
    (tickRouteAutoRelease s tick).foldl (routeAfter u) (some route) =
      (releaseRoute s tick route).foldl (routeAfter u) (some route) := by
  obtain ⟨hMem, hKey⟩ := KeyedMap.find_eq_some_iff.mp h
  obtain ⟨before, after, hValues⟩ := List.append_of_mem hMem
  have hNodup := s.routes.nodup
  rw [hValues, List.map_append, List.map_cons, List.nodup_append, List.nodup_cons] at hNodup
  obtain ⟨-, ⟨hAfter, -⟩, hBefore⟩ := hNodup
  have hOthers : ∀ r ∈ before, r.uid ≠ u := by
    intro r hr hEq
    exact hBefore _ (List.mem_map_of_mem hr) _ List.mem_cons_self (hEq.trans hKey.symm)
  have hRest : ∀ r ∈ after, r.uid ≠ u := by
    intro r hr hEq
    exact hAfter (List.mem_map.mpr ⟨r, hr, hEq.trans hKey.symm⟩)
  rw [tickRouteAutoRelease, hValues, List.flatMap_append, List.flatMap_cons, List.foldl_append,
    List.foldl_append, foldl_release_of_forall_ne hOthers, foldl_release_of_forall_ne hRest]

theorem findRoute_onTick_of_isDue {route : RouteState} (h : s.findRoute u = some route)
    (hDue : IsDue s tick route) : (applyAll s (sys.onTick s tick).1).findRoute u = none := by
  have hKey : route.uid = u := KeyedMap.key_of_find h
  rw [findRoute_onTick_eq, h, foldl_tick_of_find h, ← hKey]
  exact foldl_releaseRoute_of_isDue hDue _

theorem findRoute_onTick_of_not_isDue {route : RouteState} (h : s.findRoute u = some route)
    (hDue : ¬ IsDue s tick route) : ∃ overlap, (applyAll s (sys.onTick s tick).1).findRoute u =
      some { route with overlapReleaseTick := overlap } := by
  have hKey : route.uid = u := KeyedMap.key_of_find h
  rw [findRoute_onTick_eq, h, foldl_tick_of_find h, ← hKey]
  exact foldl_releaseRoute_of_not_isDue hDue

/-- What a tick leaves of the route map, as far as the overlap timers do not matter. -/
theorem active_onTick {P : RouteState → Prop}
    (hP : ∀ route overlap, P { route with overlapReleaseTick := overlap } ↔ P route) :
    Active (applyAll s (sys.onTick s tick).1) u P ↔ Active s u (fun route => ¬ IsDue s tick route ∧ P route) := by
  unfold Active
  cases hFind : s.findRoute u with
  | none =>
    rw [findRoute_onTick_of_none sys hFind]
    simp
  | some route =>
    by_cases hDue : IsDue s tick route
    · rw [findRoute_onTick_of_isDue sys hFind hDue]
      simp [hDue]
    · obtain ⟨overlap, hAfter⟩ := findRoute_onTick_of_not_isDue sys hFind hDue
      rw [hAfter]
      simp [hDue, hP]

theorem derailerState_onTick :
    (derailerState u).read (applyAll s (sys.onTick s tick).1) = (derailerState u).read s := by
  apply Register.read_foldl_of_silent
  intro c hc
  rcases onTick_cases hc with ⟨uid, position, ticks, rfl⟩ | ⟨route, _, ⟨_, hc⟩ | ⟨releaseTick, rfl⟩⟩
  · rfl
  · rcases hc with rfl | ⟨uid, _, rfl⟩ | rfl <;> rfl
  · rfl

theorem derailerLock_onTick :
    (derailerLock u).read (applyAll s (sys.onTick s tick).1) = (derailerLock u).read s := by
  apply Register.read_foldl_of_silent
  intro c hc
  rcases onTick_cases hc with ⟨uid, position, ticks, rfl⟩ | ⟨route, _, ⟨_, hc⟩ | ⟨releaseTick, rfl⟩⟩
  · rfl
  · rcases hc with rfl | ⟨uid, _, rfl⟩ | rfl <;> rfl
  · rfl

end Tick

/-! ## What routes and devices leave alone -/

/-- A change to a signal, a switch, a derailer or a route; it is about no section and no block. -/
def isRouteSide : DeviceStateChange → Bool
  | .emergencyRouteReleaseExecuted .. => true
  | c => !isQuiet c

theorem isRouteSide_request {s : EngineState} {cmd : RequestRouteCmd} {tick : Nat} :
    ∀ c ∈ executeRequestRoute s cmd tick kPolicies, isRouteSide c = true :=
  forall_mem_request (fun _ => rfl) (fun _ _ => rfl) (fun _ => rfl) rfl (fun _ => rfl)

theorem isRouteSide_cancel {s : EngineState} {cmd : CancelRouteCmd} :
    ∀ c ∈ executeCancelRoute s cmd, isRouteSide c = true :=
  forall_mem_cancel rfl (fun _ => rfl) (fun _ => rfl) (fun _ => rfl) (fun _ => rfl)

theorem isRouteSide_effect (e : CommandEffect) (throwTimeTicks : Int) :
    ∀ c ∈ e.changes throwTimeTicks, isRouteSide c = true := by
  cases e
  case switch uid position =>
    simp only [CommandEffect.changes, executeSetSwitchPosition]
    split <;> simp [isRouteSide, isQuiet]
  all_goals
    simp [CommandEffect.changes, executeSetSignalAspect, executeSetDerailerPosition, isRouteSide, isQuiet]

theorem isRouteSide_setSignalToStop (s : EngineState) (uid : UID) :
    ∀ c ∈ setSignalToStop s uid, isRouteSide c = true := by
  rw [← changes_stopEffect s uid 0]
  exact isRouteSide_effect _ _

theorem isRouteSide_setPoints (s : EngineState) (uid : UID) (position : SwitchPosition)
    (derailer : DerailerState) (throwTimeTicks : Int) :
    ∀ c ∈ setPoints s uid position derailer throwTimeTicks, isRouteSide c = true := by
  rw [← changes_pointsEffect]
  exact isRouteSide_effect _ _

theorem isRouteSide_onTick {sys : ControlSystem} {s : EngineState} {tick : Nat} :
    ∀ c ∈ (sys.onTick s tick).1, isRouteSide c = true := by
  intro c hc
  rcases onTick_cases hc with ⟨uid, position, ticks, rfl⟩ | ⟨route, _, ⟨_, hc⟩ | ⟨releaseTick, rfl⟩⟩
  · rfl
  · rcases hc with rfl | ⟨uid, _, rfl⟩ | rfl <;> rfl
  · rfl

theorem blockDirectionWrite_of_isRouteSide (u : UID) {c : DeviceStateChange} (h : isRouteSide c = true) :
    blockDirectionWrite u c = none := by
  cases c <;> first | rfl | cases h

theorem sectionOccupancyWrite_of_isRouteSide (u : UID) {c : DeviceStateChange} (h : isRouteSide c = true) :
    sectionOccupancyWrite u c = none := by
  cases c <;> first | rfl | cases h

/-! ## Routes are as requested -/

/-- The route is what a request along its path added, untouched since. -/
def Requested (s : EngineState) (route : RouteState) : Prop :=
  ∃ cmd tick rp, findRoutePath s cmd.fromSignalUid cmd.toSignalUid kPolicies = some rp ∧
    route = newRoute cmd tick rp

def RoutesRequested (s : EngineState) : Prop := ∀ route ∈ s.routes.values, Requested s route

theorem Requested.congr {s t : EngineState} (h : s.topology = t.topology) {route : RouteState}
    (hRoute : Requested s route) : Requested t route := by
  obtain ⟨cmd, tick, rp, hFound, hEq⟩ := hRoute
  exact ⟨cmd, tick, rp, by rw [← findRoutePath_topology h]; exact hFound, hEq⟩

theorem Requested.trainEntered {s : EngineState} {route : RouteState} (h : Requested s route) :
    route.trainEntered = false := by
  obtain ⟨cmd, tick, rp, -, rfl⟩ := h
  rfl

theorem Requested.uid_eq {s : EngineState} {route : RouteState} (h : Requested s route) :
    route.uid = makeRouteUid route.fromSignalUid route.toSignalUid route.createdTick := by
  obtain ⟨cmd, tick, rp, -, rfl⟩ := h
  rfl

section Silent

variable {s : EngineState} (h : RoutesRequested s) (sys : ControlSystem) (tick : Nat)

include h

/-- On a run a tick only moves switch machines on. -/
theorem RoutesRequested.mem_onTick {c : DeviceStateChange} (hc : c ∈ (sys.onTick s tick).1) :
    ∃ sw ∈ s.switches.values, sw.position = .moving ∧
      ∃ position ticks, c = .switchPositionChange sw.uid position .auto ticks := by
  have hNone : tickRouteAutoRelease s tick = [] :=
    tickRouteAutoRelease_eq_nil (fun route hRoute => (h route hRoute).trainEntered) tick
  rcases Srk.mem_onTick hc with hc | hc
  · exact hc
  · rw [hNone] at hc
    cases hc

theorem RoutesRequested.routes_onTick : (applyAll s (sys.onTick s tick).1).routes = s.routes := by
  apply routes_applyAll_of_silent
  intro c hc
  obtain ⟨sw, _, _, position, ticks, rfl⟩ := h.mem_onTick sys tick hc
  rfl

theorem RoutesRequested.read_onTick {β : Type} (r : Register EngineState DeviceStateChange apply β)
    (hr : ∀ uid position cause ticks, r.write (.switchPositionChange uid position cause ticks) = none) :
    r.read (applyAll s (sys.onTick s tick).1) = r.read s := by
  apply Register.read_foldl_of_silent
  intro c hc
  obtain ⟨sw, _, _, position, ticks, rfl⟩ := h.mem_onTick sys tick hc
  exact hr _ _ _ _

theorem RoutesRequested.switchPosition_onTick {u : UID} (hu : (switchPosition u).read s ≠ some .moving) :
    (switchPosition u).read (applyAll s (sys.onTick s tick).1) = (switchPosition u).read s := by
  apply Register.read_foldl_of_silent
  intro c hc
  obtain ⟨sw, hsw, hMoving, position, ticks, rfl⟩ := h.mem_onTick sys tick hc
  refine if_neg ?_
  rintro rfl
  have hRead := switchPosition_of_find (KeyedMap.find_key hsw : s.findSwitch sw.uid = some sw)
  exact hu (hMoving ▸ hRead)

end Silent

/-- The route map after a step: a request may add its route, a cancellation removes one. -/
theorem RoutesRequested.step {φ : Type} {w w' : World φ} {a : Action φ} (h : RoutesRequested w.state)
    (hStep : StepEffect w w' a) (hTopology : w'.state.topology = w.state.topology) :
    RoutesRequested w'.state := by
  have hKept : ∀ route ∈ w.state.routes.values, Requested w'.state route :=
    fun route hRoute => (h route hRoute).congr hTopology.symm
  cases hStep with
  | command cmd hKind hCheck hState =>
    intro route hRoute
    rw [hState, routes_changesOf _ _ hKind] at hRoute
    exact hKept route hRoute
  | request cmd rp hGranted hState =>
    intro route hRoute
    have hRoutes := routes_request hGranted.found w.state.currentTick
    rw [← hState] at hRoutes
    rw [hRoutes] at hRoute
    refine KeyedMap.forall_emplace hKept ?_ route hRoute
    exact ⟨cmd, _, rp, by rw [findRoutePath_topology hTopology]; exact hGranted.found, rfl⟩
  | cancel cmd route hFind hState =>
    intro route' hRoute
    have hRoutes := routes_cancel hFind
    rw [← hState] at hRoutes
    rw [hRoutes] at hRoute
    exact hKept route' (List.mem_of_mem_filter hRoute)
  | tick hState =>
    intro route hRoute
    rw [hState, h.routes_onTick] at hRoute
    exact hKept route hRoute
  | other _ hCommand hTick hSame =>
    intro route hRoute
    rw [hSame.routes] at hRoute
    exact hKept route hRoute

theorem routesRequested_of_loaded {φ : Type} {w : World φ} (h : w.Loaded) : RoutesRequested w.state := by
  obtain ⟨dirs, results, hLoad⟩ := h
  intro route hRoute
  rw [(fresh_of_loadWorld hLoad).routes] at hRoute
  cases hRoute

theorem routesRequested_of_reachable {φ : Type} {dynamics : TrainDynamics φ} {w : World φ}
    (h : w.Reachable dynamics) : RoutesRequested w.state := by
  obtain ⟨w₀, actions, hLoaded, hRun⟩ := h
  refine invariant (fun w => RoutesRequested w.state) ?_ (routesRequested_of_loaded hLoaded) hRun
  intro w a w' hw hStep
  exact hw.step (stepEffect_of_step hStep) (World.topology_step hStep)

end Symulator.Srk
