import Symulator.Srk.LockAgreement

/-! # Signal locks

An active route is to hold the lock of its entry signal, and nothing else is to hold one. Cancelling and
releasing a route write the stop aspect together with the UID of the route, which the applier takes for
a lock, so the signal stays with a route that is gone.
-/

namespace Symulator.Interlocking

open Symulator.Library Symulator.Engine Symulator.Srk

set_option autoImplicit false

/-- The steps that keep signal locks and routes in agreement: the UID of a request is not in use, the
entry signal of a cancelled or released route does not exist, and a stop command meets no lock. -/
def SignalLockGuard {φ : Type} (w : World φ) : Action φ → Prop
  | .command (.requestRoute cmd) =>
    w.state.findRoute (makeRouteUid cmd.fromSignalUid cmd.toSignalUid w.state.currentTick) = none
  | .command (.cancelRoute cmd) =>
    ∀ route, w.state.findRoute cmd.routeUid = some route → w.state.findSignal route.fromSignalUid = none
  | .command cmd => ∀ uid aspect, w.control.effectOf w.state cmd = .signal uid aspect →
    aspect.isStop = true → signalHolder w.state uid = none
  | .onTick => ∀ route ∈ w.state.routes.values, IsDue w.state (w.state.currentTick + 1) route →
    w.state.findSignal route.fromSignalUid = none
  | _ => True

/-- What a tick leaves in the lock of a signal that a released route starts at. -/
theorem signalHolder_onTick {s : EngineState} (sys : ControlSystem) (tick : Nat) {u : UID}
    (hu : (s.findSignal u).isSome = true) :
    signalHolder (applyAll s (sys.onTick s tick).1) u = signalHolder s u ∧
      (∀ route ∈ s.routes.values, IsDue s tick route → route.fromSignalUid ≠ u) ∨
    ∃ route ∈ s.routes.values, IsDue s tick route ∧ route.fromSignalUid = u ∧
      signalHolder (applyAll s (sys.onTick s tick).1) u = some route.uid := by
  have hWrites : ∀ b, (∃ c ∈ (sys.onTick s tick).1, signalLockWrite u c = some b) ↔
      ∃ route ∈ s.routes.values, IsDue s tick route ∧ route.fromSignalUid = u ∧ b = some route.uid := by
    intro b
    constructor
    · rintro ⟨c, hc, hWrite⟩
      rcases onTick_cases hc with ⟨uid, position, ticks, rfl⟩ | ⟨route, hRoute, ⟨hDue, hc⟩ | ⟨releaseTick, rfl⟩⟩
      · cases hWrite
      · rcases hc with rfl | ⟨uid, _, rfl⟩ | rfl
        · simp only [signalLockWrite] at hWrite
          split at hWrite
          · rename_i hEq
            exact ⟨route, hRoute, hDue, hEq.symm, (Option.some.inj hWrite).symm⟩
          · cases hWrite
        · cases hWrite
        · cases hWrite
      · cases hWrite
    · rintro ⟨route, hRoute, hDue, rfl, rfl⟩
      refine ⟨.signalAspectChange route.fromSignalUid .s1Stop .auto (some route.uid), ?_, if_pos rfl⟩
      refine List.mem_append_right _ (List.mem_flatMap.mpr ⟨route, hRoute, ?_⟩)
      rw [releaseRoute_of_isDue hDue]
      exact List.mem_cons_self
  have hRead := (signalLock u).read_foldl s (sys.onTick s tick).1
  have hJoin : signalHolder (applyAll s (sys.onTick s tick).1) u =
      lastWrite (signalLockWrite u) (signalHolder s u) (sys.onTick s tick).1 := by
    rw [signalHolder, applyAll, hRead, join_map (by rw [isSome_signalLock]; exact hu)]
    rfl
  rw [hJoin]
  by_cases hDue : ∃ route ∈ s.routes.values, IsDue s tick route ∧ route.fromSignalUid = u
  · right
    obtain ⟨route, hRoute, hRouteDue, hFrom⟩ := hDue
    obtain ⟨c, hc, hWrite⟩ := (hWrites _).mpr ⟨route, hRoute, hRouteDue, hFrom, rfl⟩
    obtain ⟨c', hc', hLast⟩ := lastWrite_mem hc (hWrite ▸ Option.some_ne_none _) (signalHolder s u)
    exact (hWrites _).mp ⟨c', hc', hLast⟩
  · left
    refine ⟨lastWrite_of_silent (fun c hc => ?_) _, fun route hRoute hRouteDue hFrom =>
      hDue ⟨route, hRoute, hRouteDue, hFrom⟩⟩
    by_contra hWrite
    obtain ⟨b, hb⟩ := Option.ne_none_iff_exists'.mp hWrite
    obtain ⟨route, hRoute, hRouteDue, hFrom, -⟩ := (hWrites b).mp ⟨c, hc, hb⟩
    exact hDue ⟨route, hRoute, hRouteDue, hFrom⟩

section Steps

variable {s : EngineState} (h : SignalLocksAgree s)

include h

theorem signalLocksAgree_request {cmd : RequestRouteCmd} {rp : RoutePath} (hGranted : Granted s cmd rp)
    (tick : Nat) : SignalLocksAgree (applyAll s (executeRequestRoute s cmd tick kPolicies)) ↔
      s.findRoute (newRoute cmd tick rp).uid = none := by
  obtain ⟨sig, hSig, hFree⟩ := hGranted.entry
  have hNone : signalHolder s cmd.fromSignalUid = none := (signalHolder_of_find hSig).trans hFree
  have hKeys := signal_exists_iff (topology_applyAll s (executeRequestRoute s cmd tick kPolicies))
  have hHolder : ∀ u, (s.findSignal u).isSome = true →
      signalHolder (applyAll s (executeRequestRoute s cmd tick kPolicies)) u =
        acquire (signalHolder s) (fun u => u = cmd.fromSignalUid) (newRoute cmd tick rp).uid u := by
    intro u hu
    rw [signalHolder, signalLock_request hGranted.found, join_map (by rw [isSome_signalLock]; exact hu)]
    rfl
  cases hUsed : s.findRoute (newRoute cmd tick rp).uid with
  | none =>
    have hNew : ∀ u, ¬ Active s (newRoute cmd tick rp).uid (fun route => route.fromSignalUid = u) := by
      rintro u ⟨route, hFind, -⟩
      rw [hUsed] at hFind
      cases hFind
    have hOwns : ∀ u, (s.findSignal u).isSome = true → ∀ r,
        Active (applyAll s (executeRequestRoute s cmd tick kPolicies)) r (fun route => route.fromSignalUid = u) ↔
          Active s r (fun route => route.fromSignalUid = u) ∨
            r = (newRoute cmd tick rp).uid ∧ u = cmd.fromSignalUid := by
      intro u _ r
      rw [active_request hGranted.found hUsed]
      exact or_congr_right (and_congr_right fun _ => eq_comm)
    refine iff_of_true ?_ rfl
    refine (agrees_congr hKeys hHolder hOwns).mpr ((h.acquire_iff hNew).mpr ?_)
    rintro u - rfl
    exact hNone
  | some route =>
    have hRoutes := routes_request_of_used hGranted.found (hUsed ▸ Option.some_ne_none route)
    refine iff_of_false ?_ (Option.some_ne_none route)
    intro hAgrees
    have hSame := (agrees_congr hKeys hHolder
      (fun u _ r => Active.congr hRoutes r (fun route => route.fromSignalUid = u))).mp hAgrees
    have hHeld := h.overwrite_iff.mp hSame cmd.fromSignalUid (by rw [hSig]; rfl) rfl
    rw [hNone] at hHeld
    cases hHeld

theorem signalLocksAgree_cancel {cmd : CancelRouteCmd} {route : RouteState}
    (hFind : s.findRoute cmd.routeUid = some route) :
    SignalLocksAgree (applyAll s (executeCancelRoute s cmd)) ↔ s.findSignal route.fromSignalUid = none := by
  have hKeys := signal_exists_iff (topology_applyAll s (executeCancelRoute s cmd))
  have hHolder : ∀ u, (s.findSignal u).isSome = true →
      signalHolder (applyAll s (executeCancelRoute s cmd)) u =
        if u = route.fromSignalUid then some cmd.routeUid else signalHolder s u := by
    intro u hu
    rw [signalHolder, signalLock_cancel hFind, join_map (by rw [isSome_signalLock]; exact hu)]
    rfl
  constructor
  · intro hAgrees
    by_contra hExists
    have hSig : (s.findSignal route.fromSignalUid).isSome = true := Option.isSome_iff_ne_none.mpr hExists
    -- the signal is left with the UID of the route that has just gone
    have hHeld := hHolder route.fromSignalUid hSig
    rw [if_pos rfl] at hHeld
    have hActive := (hAgrees route.fromSignalUid ((hKeys _).mpr hSig) cmd.routeUid).mp hHeld
    exact ((active_cancel hFind cmd.routeUid _).mp hActive).1 rfl
  · intro hNone
    have hApart : ∀ u, (s.findSignal u).isSome = true → u ≠ route.fromSignalUid := by
      rintro u hu rfl
      rw [hNone] at hu
      cases hu
    refine (agrees_congr hKeys (fun u hu => ?_) (fun u hu r => ?_)).mpr h
    · rw [hHolder u hu, if_neg (hApart u hu)]
    · rw [active_cancel hFind]
      refine and_iff_right_of_imp ?_
      rintro ⟨route', hFind', hFrom⟩ rfl
      rw [hFind] at hFind'
      cases hFind'
      exact hApart u hu hFrom.symm

theorem signalLocksAgree_onTick (sys : ControlSystem) (tick : Nat) :
    SignalLocksAgree (applyAll s (sys.onTick s tick).1) ↔
      ∀ route ∈ s.routes.values, IsDue s tick route → s.findSignal route.fromSignalUid = none := by
  have hKeys := signal_exists_iff (topology_applyAll s (sys.onTick s tick).1)
  have hActive : ∀ u r, Active (applyAll s (sys.onTick s tick).1) r (fun route => route.fromSignalUid = u) ↔
      Active s r (fun route => ¬ IsDue s tick route ∧ route.fromSignalUid = u) :=
    fun u r => active_onTick sys (fun _ _ => Iff.rfl)
  constructor
  · intro hAgrees route hRoute hDue
    by_contra hExists
    have hSig : (s.findSignal route.fromSignalUid).isSome = true := Option.isSome_iff_ne_none.mpr hExists
    rcases signalHolder_onTick sys tick hSig with ⟨-, hNone⟩ | ⟨route', hRoute', hDue', hFrom, hHeld⟩
    · exact hNone route hRoute hDue rfl
    · obtain ⟨kept, hFind, hNotDue, -⟩ :=
        (hActive _ _).mp ((hAgrees route.fromSignalUid ((hKeys _).mpr hSig) route'.uid).mp hHeld)
      have hKept : kept = route' := Option.some.inj (hFind.symm.trans (KeyedMap.find_key hRoute'))
      exact hNotDue (hKept ▸ hDue')
  · intro hNone
    refine (agrees_congr hKeys (fun u hu => ?_) (fun u hu r => ?_)).mpr h
    · rcases signalHolder_onTick sys tick hu with ⟨hSame, -⟩ | ⟨route, hRoute, hDue, rfl, -⟩
      · exact hSame
      · rw [hNone route hRoute hDue] at hu
        cases hu
    · rw [hActive]
      constructor
      · rintro ⟨route, hFind, -, hFrom⟩
        exact ⟨route, hFind, hFrom⟩
      · rintro ⟨route, hFind, rfl⟩
        refine ⟨route, hFind, fun hDue => ?_, rfl⟩
        rw [hNone route (KeyedMap.find_eq_some_iff.mp hFind).1 hDue] at hu
        cases hu

theorem signalLocksAgree_effect (sys : ControlSystem) {cmd : Command} (hKind : isRouteCommand cmd = false) :
    SignalLocksAgree (applyAll s (sys.changesOf s cmd)) ↔
      ∀ uid aspect, sys.effectOf s cmd = .signal uid aspect → aspect.isStop = true →
        signalHolder s uid = none := by
  have hKeys := signal_exists_iff (topology_applyAll s (sys.changesOf s cmd))
  have hRoutes := routes_changesOf sys s hKind
  have hHolder : ∀ u, (s.findSignal u).isSome = true →
      signalHolder (applyAll s (sys.changesOf s cmd)) u =
        (sys.effectOf s cmd).signalLockAfter u (signalHolder s u) := by
    intro u hu
    rw [signalHolder, signalLock_changesOf sys s hKind, join_map (by rw [isSome_signalLock]; exact hu)]
    rfl
  constructor
  · intro hAgrees uid aspect hEffect hStop
    cases hSig : s.findSignal uid with
    | none => simp [signalHolder, signalLock, hSig]
    | some sig =>
      have hSome : (s.findSignal uid).isSome = true := by rw [hSig]; rfl
      have hAfter := hHolder uid hSome
      simp only [hEffect, CommandEffect.signalLockAfter, hStop, and_self, if_true] at hAfter
      by_contra hHeld
      obtain ⟨r, hr⟩ := Option.ne_none_iff_exists'.mp hHeld
      have hActive := (Active.congr hRoutes r _).mpr ((h uid hSome r).mp hr)
      have hNew := (hAgrees uid ((hKeys uid).mpr hSome) r).mpr hActive
      rw [hAfter] at hNew
      cases hNew
  · intro hGuard
    refine (agrees_congr hKeys (fun u hu => ?_)
      (fun u hu r => Active.congr hRoutes r _)).mpr h
    rw [hHolder u hu]
    cases hEffect : sys.effectOf s cmd with
    | signal uid aspect =>
      dsimp only [CommandEffect.signalLockAfter]
      split
      · rename_i hStop
        rw [hStop.1, hGuard uid aspect hEffect hStop.2]
      · rfl
    | quiet | switch | derailer => rfl

end Steps

theorem signalLocksAgree_step {φ : Type} {dynamics : TrainDynamics φ} {w w' : World φ} {a : Action φ}
    (h : SignalLocksAgree w.state) (hStep : w.step dynamics a = some w') :
    SignalLocksAgree w'.state ↔ SignalLockGuard w a := by
  cases stepEffect_of_step hStep with
  | command cmd hKind hCheck hState =>
    rw [hState, signalLocksAgree_effect h _ hKind]
    cases cmd
    case requestRoute | cancelRoute => cases hKind
    all_goals rfl
  | request cmd rp hGranted hState =>
    rw [hState, signalLocksAgree_request h hGranted]
    rfl
  | cancel cmd route hFind hState =>
    rw [hState, signalLocksAgree_cancel h hFind]
    constructor
    · intro hNone route' hFind'
      rw [hFind] at hFind'
      cases hFind'
      exact hNone
    · intro hGuard
      exact hGuard route hFind
  | tick hState =>
    rw [hState, signalLocksAgree_onTick h]
    rfl
  | other _ hCommand hTick hSame =>
    have hGuard : SignalLockGuard w a := by
      cases a <;> first | exact absurd rfl (hCommand _) | exact absurd rfl hTick | trivial
    refine iff_of_true ?_ hGuard
    unfold SignalLocksAgree signalHolder signalLock EngineState.findSignal
    simp only [hSame.signals]
    exact (agrees_congr (fun _ => Iff.rfl) (fun _ _ => rfl)
      (fun u _ r => Active.congr hSame.routes r _)).mpr h

/-- Loading establishes the agreement, a step keeps it exactly when its guard holds, and so do runs. -/
theorem signalLocks_agree {φ : Type} (dynamics : TrainDynamics φ) :
    (∀ w : World φ, w.Loaded → SignalLocksAgree w.state) ∧
    (∀ w a w', SignalLocksAgree w.state → World.step dynamics w a = some w' →
      (SignalLocksAgree w'.state ↔ SignalLockGuard w a)) ∧
    (∀ w₀ actions w, World.Loaded w₀ → run (World.step dynamics) w₀ actions = some w →
      (Always (World.step dynamics) (fun w => SignalLocksAgree w.state) w₀ actions ↔
        Guarded (World.step dynamics) SignalLockGuard w₀ actions)) := by
  refine ⟨fun w hw => signalLocksAgree_of_fresh hw.fresh, fun w a w' h hStep => signalLocksAgree_step h hStep, ?_⟩
  intro w₀ actions w hLoaded hRun
  exact always_iff_guarded (fun w => SignalLocksAgree w.state) (fun _ => True) SignalLockGuard
    (fun w a w' h _ hStep => signalLocksAgree_step h hStep) (fun _ _ _ _ _ _ _ => trivial)
    (signalLocksAgree_of_fresh hLoaded.fresh) trivial hRun

theorem signalLocksAgree_fork : ∃ w, World.step World.idleTrains (World.start .ml8 forkStation)
    (.command (.requestRoute ⟨⟨21⟩, ⟨22⟩⟩)) = some w ∧ SignalLocksAgree w.state := by
  have hSome : (World.step World.idleTrains (World.start .ml8 forkStation)
      (.command (.requestRoute ⟨⟨21⟩, ⟨22⟩⟩))).isSome = true := by decide +kernel
  obtain ⟨w, hStep⟩ := Option.isSome_iff_exists.mp hSome
  obtain ⟨hLoaded, hKept, -⟩ := signalLocks_agree World.idleTrains
  have hStart := hLoaded (World.start .ml8 forkStation) ⟨[forkStation], _, rfl⟩
  exact ⟨w, hStep, (hKept _ _ w hStart hStep).mpr rfl⟩

/-- A route is set and cancelled, and its entry signal keeps its lock. -/
theorem cancelledRoute_keepsSignal : ¬ ((∀ w : World Unit, w.Loaded → SignalLocksAgree w.state) ∧
    ∀ (w : World Unit) a w', SignalLocksAgree w.state → World.step World.idleTrains w a = some w' →
      SignalLocksAgree w'.state) := by
  rintro ⟨hLoad, hKept⟩
  let r := makeRouteUid ⟨21⟩ ⟨22⟩ 0
  have hLoaded : (World.start .ml8 forkStation).Loaded := ⟨[forkStation], _, rfl⟩
  obtain ⟨w, hRun, -, hTest⟩ := World.exists_reachable .ml8 forkStation
    [.command (.requestRoute ⟨⟨21⟩, ⟨22⟩⟩), .command (.cancelRoute { routeUid := r })]
    (fun w => (w.state.findSignal ⟨21⟩).isSome = true ∧ signalHolder w.state ⟨21⟩ = some r ∧
      (w.state.findRoute r).isNone = true) hLoaded (by decide +kernel)
  obtain ⟨hSig, hHeld, hGone⟩ := of_decide_eq_true hTest
  have hAgree := invariant (fun w => SignalLocksAgree w.state) hKept (hLoad _ hLoaded) hRun
  obtain ⟨route, hFind, -⟩ := (hAgree ⟨21⟩ hSig r).mp hHeld
  rw [Option.isNone_iff_eq_none.mp hGone] at hFind
  cases hFind

/-- After a cancellation every request from the entry signal of the route is refused. -/
theorem request_refused_after_cancel {s : EngineState} {cmd : CancelRouteCmd} {route : RouteState}
    (hFind : s.findRoute cmd.routeUid = some route) (hSig : (s.findSignal route.fromSignalUid).isSome = true)
    (toSignalUid : UID) (policies : List IRoutePathPolicy) :
    checkRequestRoute (applyAll s (executeCancelRoute s cmd)) ⟨route.fromSignalUid, toSignalUid⟩ policies ≠ none := by
  obtain ⟨sig, hSig⟩ := Option.isSome_iff_exists.mp hSig
  have hLock := signalLock_cancel hFind route.fromSignalUid
  rw [signalLock_of_find hSig, Option.map_some, if_pos rfl] at hLock
  obtain ⟨sig', hSig', hHeld⟩ := Option.map_eq_some_iff.mp hLock
  have hLocked : sig'.lockedByRouteUid.isSome = true := by rw [hHeld]; rfl
  simp only [checkRequestRoute, hSig', hLocked, if_true]
  split <;> exact Option.some_ne_none _

end Symulator.Interlocking
