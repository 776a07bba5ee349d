import Symulator.Srk.LockAgreement

/-! # Derailer locks

A derailer that active routes list is to be open and held by one of them. A request takes only the
derailers it opens itself, a cancellation closes those it shares with others, an automatic release
closes none, and the operator's points commands ask for no derailer lock.
-/

namespace Symulator.Interlocking

open Symulator.Library Symulator.Engine Symulator.Srk

set_option autoImplicit false

/-- The steps that keep derailers and routes in agreement. A request under a new UID finds every open
derailer of its path held, one under a UID in use finds them all open; a cancelled route shares no
derailer with another; a command closes no listed derailer; no released route holds one. -/
def DerailerLockGuard {φ : Type} (w : World φ) : Action φ → Prop
  | .command (.requestRoute cmd) =>
    ∀ rp, findRoutePath w.state cmd.fromSignalUid cmd.toSignalUid kPolicies = some rp →
      ∀ u ∈ rp.derailerUids,
        if w.state.findRoute (makeRouteUid cmd.fromSignalUid cmd.toSignalUid w.state.currentTick) = none then
          (derailerState u).read w.state = some .unlocked → derailerHolder w.state u ≠ none
        else (derailerState u).read w.state = some .unlocked
  | .command (.cancelRoute cmd) =>
    ∀ route, w.state.findRoute cmd.routeUid = some route → ∀ u ∈ route.derailerUids,
      (w.state.findDerailer u).isSome = true →
        ∀ r, r ≠ cmd.routeUid → ¬ Active w.state r (fun route => u ∈ route.derailerUids)
  | .command cmd => ∀ u, w.control.effectOf w.state cmd = .derailer u .locked → ¬ DerailerListed w.state u
  | .onTick => ∀ route ∈ w.state.routes.values, IsDue w.state (w.state.currentTick + 1) route →
    ∀ u, derailerHolder w.state u ≠ some route.uid
  | _ => True

/-- The agreement at one derailer, as the registers show it. -/
def DerailerAgrees (s : EngineState) (u : UID) : Prop :=
  (DerailerListed s u → (derailerState u).read s = some .unlocked ∧
    ∃ r, derailerHolder s u = some r ∧ Active s r (fun route => u ∈ route.derailerUids)) ∧
  (¬ DerailerListed s u → derailerHolder s u = none)

theorem derailerLocksAgree_iff {s : EngineState} :
    DerailerLocksAgree s ↔ ∀ u, (s.findDerailer u).isSome = true → DerailerAgrees s u := by
  constructor
  · intro h u hu
    obtain ⟨d, hFind⟩ := Option.isSome_iff_exists.mp hu
    rw [DerailerAgrees, derailerState_of_find hFind, derailerHolder_of_find hFind, Option.some_inj]
    exact h u d hFind
  · intro h u d hFind
    have hu := h u (by rw [hFind]; rfl)
    rw [DerailerAgrees, derailerState_of_find hFind, derailerHolder_of_find hFind, Option.some_inj] at hu
    exact hu

theorem derailerHolder_of_none {s : EngineState} {u : UID} (h : ¬ (s.findDerailer u).isSome = true) :
    derailerHolder s u = none := by
  simp [derailerHolder, derailerLock, derailerHeld, Option.not_isSome_iff_eq_none.mp h]

theorem DerailerAgrees.congr {s t : EngineState} {u : UID}
    (hState : (derailerState u).read t = (derailerState u).read s) (hHolder : derailerHolder t u = derailerHolder s u)
    (hActive : ∀ r, Active t r (fun route => u ∈ route.derailerUids) ↔
      Active s r (fun route => u ∈ route.derailerUids)) : DerailerAgrees t u ↔ DerailerAgrees s u := by
  unfold DerailerAgrees DerailerListed
  rw [hState, hHolder]
  simp only [hActive]

theorem derailerState_locked_or_unlocked {s : EngineState} {u : UID} (hu : (s.findDerailer u).isSome = true) :
    (derailerState u).read s = some .locked ∨ (derailerState u).read s = some .unlocked := by
  obtain ⟨d, hFind⟩ := Option.isSome_iff_exists.mp hu
  rw [derailerState_of_find hFind]
  cases d.state
  · exact Or.inl rfl
  · exact Or.inr rfl

section Steps

variable {s : EngineState} (h : DerailerLocksAgree s)

include h

/-- A request under a new UID leaves a derailer in agreement unless it finds it open and held by nobody. -/
theorem derailerAgrees_request {cmd : RequestRouteCmd} {rp : RoutePath} (hGranted : Granted s cmd rp) {tick : Nat}
    (hFresh : s.findRoute (newRoute cmd tick rp).uid = none) {u : UID} (hu : (s.findDerailer u).isSome = true) :
    DerailerAgrees (applyAll s (executeRequestRoute s cmd tick kPolicies)) u ↔
      (u ∈ rp.derailerUids → (derailerState u).read s = some .unlocked → derailerHolder s u ≠ none) := by
  have hAgrees := derailerLocksAgree_iff.mp h u hu
  have hState := derailerState_request hGranted.found tick u
  have hHolder := derailerHolder_request hGranted.found tick hu
  have hActive := fun r => active_request hGranted.found hFresh r (fun route => u ∈ route.derailerUids)
  by_cases hMem : u ∈ rp.derailerUids
  · have hListed : DerailerListed (applyAll s (executeRequestRoute s cmd tick kPolicies)) u :=
      ⟨_, (hActive _).mpr (Or.inr ⟨rfl, hMem⟩)⟩
    have hOpened : (derailerState u).read (applyAll s (executeRequestRoute s cmd tick kPolicies)) = some .unlocked := by
      obtain ⟨d, hFind⟩ := Option.isSome_iff_exists.mp hu
      rw [hState, derailerState_of_find hFind, Option.map_some, if_pos hMem]
    rcases derailerState_locked_or_unlocked hu with hLocked | hUnlocked
    · refine iff_of_true ⟨fun _ => ⟨hOpened, _, ?_, (hActive _).mpr (Or.inr ⟨rfl, hMem⟩)⟩,
        fun hNot => absurd hListed hNot⟩ ?_
      · rw [hHolder, if_pos ⟨hMem, hLocked⟩]
      · intro _ hUnlocked
        rw [hLocked] at hUnlocked
        cases hUnlocked
    · have hSame : derailerHolder (applyAll s (executeRequestRoute s cmd tick kPolicies)) u = derailerHolder s u := by
        rw [hHolder, if_neg]
        rintro ⟨-, hLocked⟩
        rw [hUnlocked] at hLocked
        cases hLocked
      constructor
      · rintro ⟨hYes, -⟩ _ _ hNone
        obtain ⟨-, r, hHeld, -⟩ := hYes hListed
        rw [hSame, hNone] at hHeld
        cases hHeld
      · intro hHeld
        refine ⟨fun _ => ⟨hOpened, ?_⟩, fun hNot => absurd hListed hNot⟩
        have hBefore : DerailerListed s u := by
          by_contra hNot
          exact hHeld hMem hUnlocked (hAgrees.2 hNot)
        obtain ⟨-, r, hr, hOwner⟩ := hAgrees.1 hBefore
        exact ⟨r, hSame.trans hr, (hActive r).mpr (Or.inl hOwner)⟩
  · refine iff_of_true ((DerailerAgrees.congr ?_ ?_ ?_).mpr hAgrees) (fun hYes => absurd hYes hMem)
    · rw [hState]
      simp [hMem]
    · rw [hHolder, if_neg (fun hAnd => hMem hAnd.1)]
    · intro r
      rw [hActive r]
      exact or_iff_left (fun hAnd => hMem hAnd.2)

/-- A request under a UID in use locks what it opens for a route that may not list it. -/
theorem derailerAgrees_request_used {cmd : RequestRouteCmd} {rp : RoutePath} (hGranted : Granted s cmd rp) {tick : Nat}
    (hUsed : s.findRoute (newRoute cmd tick rp).uid ≠ none) {u : UID} (hu : (s.findDerailer u).isSome = true) :
    DerailerAgrees (applyAll s (executeRequestRoute s cmd tick kPolicies)) u ↔
      (u ∈ rp.derailerUids → (derailerState u).read s = some .unlocked) := by
  have hAgrees := derailerLocksAgree_iff.mp h u hu
  have hState := derailerState_request hGranted.found tick u
  have hHolder := derailerHolder_request hGranted.found tick hu
  have hRoutes := routes_request_of_used hGranted.found hUsed
  have hActive := fun r => Active.congr hRoutes r (fun route => u ∈ route.derailerUids)
  constructor
  · intro hAfter hMem
    rcases derailerState_locked_or_unlocked hu with hLocked | hUnlocked
    · -- closed before, so on no list, but the request has locked it
      have hNot : ¬ DerailerListed s u := by
        intro hListed
        have hOpen := (hAgrees.1 hListed).1
        rw [hLocked] at hOpen
        cases hOpen
      have hNone := hAfter.2 (fun ⟨r, hr⟩ => hNot ⟨r, (hActive r).mp hr⟩)
      rw [hHolder, if_pos ⟨hMem, hLocked⟩] at hNone
      cases hNone
    · exact hUnlocked
  · intro hGuard
    refine (DerailerAgrees.congr ?_ ?_ hActive).mpr hAgrees
    · by_cases hMem : u ∈ rp.derailerUids
      · rw [hState, hGuard hMem, Option.map_some, if_pos hMem]
      · rw [hState]
        simp [hMem]
    · rw [hHolder, if_neg]
      rintro ⟨hMem, hLocked⟩
      rw [hGuard hMem] at hLocked
      cases hLocked

theorem derailerLocksAgree_request {cmd : RequestRouteCmd} {rp : RoutePath} (hGranted : Granted s cmd rp)
    (tick : Nat) : DerailerLocksAgree (applyAll s (executeRequestRoute s cmd tick kPolicies)) ↔
      ∀ u ∈ rp.derailerUids, if s.findRoute (newRoute cmd tick rp).uid = none then
          (derailerState u).read s = some .unlocked → derailerHolder s u ≠ none
        else (derailerState u).read s = some .unlocked := by
  have hKeys := derailer_exists_iff (topology_applyAll s (executeRequestRoute s cmd tick kPolicies))
  have hOne : ∀ u, (s.findDerailer u).isSome = true →
      (DerailerAgrees (applyAll s (executeRequestRoute s cmd tick kPolicies)) u ↔ (u ∈ rp.derailerUids →
        if s.findRoute (newRoute cmd tick rp).uid = none then
          (derailerState u).read s = some .unlocked → derailerHolder s u ≠ none
        else (derailerState u).read s = some .unlocked)) := by
    intro u hu
    by_cases hFresh : s.findRoute (newRoute cmd tick rp).uid = none
    · rw [derailerAgrees_request h hGranted hFresh hu, if_pos hFresh]
    · rw [derailerAgrees_request_used h hGranted hFresh hu, if_neg hFresh]
  rw [derailerLocksAgree_iff]
  constructor
  · intro hAfter u hMem
    obtain ⟨d, hFind⟩ := hGranted.isRoutePath.exists_derailer hMem
    have hu : (s.findDerailer u).isSome = true := by rw [hFind]; rfl
    exact (hOne u hu).mp (hAfter u ((hKeys u).mpr hu)) hMem
  · intro hGuard u hu
    exact (hOne u ((hKeys u).mp hu)).mpr (hGuard u)

theorem derailerLocksAgree_cancel {cmd : CancelRouteCmd} {route : RouteState}
    (hFind : s.findRoute cmd.routeUid = some route) :
    DerailerLocksAgree (applyAll s (executeCancelRoute s cmd)) ↔
      ∀ u ∈ route.derailerUids, (s.findDerailer u).isSome = true →
        ∀ r, r ≠ cmd.routeUid → ¬ Active s r (fun route => u ∈ route.derailerUids) := by
  have hAgrees := derailerLocksAgree_iff.mp h
  have hKeys := derailer_exists_iff (topology_applyAll s (executeCancelRoute s cmd))
  have hActive := fun u r => active_cancel hFind r (fun route => u ∈ route.derailerUids)
  have hState := fun u => derailerState_cancel hFind u
  have hHolder : ∀ u, (s.findDerailer u).isSome = true →
      derailerHolder (applyAll s (executeCancelRoute s cmd)) u =
        if u ∈ route.derailerUids ∧ (derailerState u).read s = some .unlocked then none
        else derailerHolder s u := by
    intro u hu
    rw [derailerHolder, derailerLock_cancel hFind, join_map (by rw [isSome_derailerLock]; exact hu)]
    rfl
  have hOne : ∀ u, (s.findDerailer u).isSome = true →
      (DerailerAgrees (applyAll s (executeCancelRoute s cmd)) u ↔ (u ∈ route.derailerUids →
        ∀ r, r ≠ cmd.routeUid → ¬ Active s r (fun route => u ∈ route.derailerUids))) := by
    intro u hu
    by_cases hMem : u ∈ route.derailerUids
    · obtain ⟨d, hd⟩ := Option.isSome_iff_exists.mp hu
      have hOpen : (derailerState u).read s = some .unlocked :=
        ((hAgrees u hu).1 ⟨cmd.routeUid, route, hFind, hMem⟩).1
      have hClosed : (derailerState u).read (applyAll s (executeCancelRoute s cmd)) = some .locked := by
        rw [hState, hOpen, Option.map_some, if_pos hMem]
      constructor
      · rintro ⟨hYes, -⟩ _ r hr hOther
        have hStill := (hYes ⟨r, (hActive u r).mpr ⟨hr, hOther⟩⟩).1
        rw [hClosed] at hStill
        cases hStill
      · intro hGuard
        have hNot : ¬ DerailerListed (applyAll s (executeCancelRoute s cmd)) u := by
          rintro ⟨r, hr⟩
          obtain ⟨hNe, hOther⟩ := (hActive u r).mp hr
          exact hGuard hMem r hNe hOther
        exact ⟨fun hYes => absurd hYes hNot, fun _ => by rw [hHolder u hu, if_pos ⟨hMem, hOpen⟩]⟩
    · refine iff_of_true ((DerailerAgrees.congr ?_ ?_ ?_).mpr (hAgrees u hu)) (fun hYes => absurd hYes hMem)
      · rw [hState]
        simp [hMem]
      · rw [hHolder u hu, if_neg (fun hAnd => hMem hAnd.1)]
      · intro r
        rw [hActive u r]
        refine and_iff_right_of_imp ?_
        rintro ⟨route', hFind', hMem'⟩ rfl
        rw [hFind] at hFind'
        cases hFind'
        exact hMem hMem'
  rw [derailerLocksAgree_iff]
  constructor
  · intro hAfter u hMem hu
    exact (hOne u hu).mp (hAfter u ((hKeys u).mpr hu)) hMem
  · intro hGuard u hu
    have hu := (hKeys u).mp hu
    exact (hOne u hu).mpr fun hMem => hGuard u hMem hu

theorem derailerLocksAgree_onTick (sys : ControlSystem) (tick : Nat) :
    DerailerLocksAgree (applyAll s (sys.onTick s tick).1) ↔
      ∀ route ∈ s.routes.values, IsDue s tick route → ∀ u, derailerHolder s u ≠ some route.uid := by
  have hAgrees := derailerLocksAgree_iff.mp h
  have hKeys := derailer_exists_iff (topology_applyAll s (sys.onTick s tick).1)
  have hActive : ∀ u r, Active (applyAll s (sys.onTick s tick).1) r (fun route => u ∈ route.derailerUids) ↔
      Active s r (fun route => ¬ IsDue s tick route ∧ u ∈ route.derailerUids) :=
    fun u r => active_onTick sys (fun _ _ => Iff.rfl)
  have hHolder : ∀ u, derailerHolder (applyAll s (sys.onTick s tick).1) u = derailerHolder s u := by
    intro u
    rw [derailerHolder, derailerLock_onTick]
    rfl
  rw [derailerLocksAgree_iff]
  constructor
  · intro hAfter route hRoute hDue u hHeld
    have hu : (s.findDerailer u).isSome = true := by
      by_contra hNone
      rw [derailerHolder_of_none hNone] at hHeld
      cases hHeld
    obtain ⟨hYes, hNo⟩ := hAfter u ((hKeys u).mpr hu)
    by_cases hListed : DerailerListed (applyAll s (sys.onTick s tick).1) u
    · obtain ⟨-, r, hr, hOwner⟩ := hYes hListed
      rw [hHolder, hHeld] at hr
      cases hr
      obtain ⟨kept, hFind, hNotDue, -⟩ := (hActive u route.uid).mp hOwner
      have hKept : kept = route := Option.some.inj (hFind.symm.trans (KeyedMap.find_key hRoute))
      exact hNotDue (hKept ▸ hDue)
    · have hNone := hNo hListed
      rw [hHolder, hHeld] at hNone
      cases hNone
  · intro hGuard u hu
    have hu := (hKeys u).mp hu
    have hOwner : DerailerListed s u → ∃ r, derailerHolder s u = some r ∧
        Active (applyAll s (sys.onTick s tick).1) r (fun route => u ∈ route.derailerUids) := by
      intro hListed
      obtain ⟨-, r, hr, route, hFind, hMem⟩ := (hAgrees u hu).1 hListed
      obtain ⟨hRoute, rfl⟩ := KeyedMap.find_eq_some_iff.mp hFind
      exact ⟨route.uid, hr, (hActive u _).mpr ⟨route, hFind, fun hDue => hGuard route hRoute hDue u hr, hMem⟩⟩
    constructor
    · rintro ⟨r, hr⟩
      obtain ⟨route, hFind, -, hMem⟩ := (hActive u r).mp hr
      have hListed : DerailerListed s u := ⟨r, route, hFind, hMem⟩
      rw [derailerState_onTick, hHolder]
      exact ⟨((hAgrees u hu).1 hListed).1, hOwner hListed⟩
    · intro hNot
      rw [hHolder]
      apply (hAgrees u hu).2
      intro hListed
      obtain ⟨r, -, hr⟩ := hOwner hListed
      exact hNot ⟨r, hr⟩

theorem derailerLocksAgree_effect (sys : ControlSystem) {cmd : Command} (hKind : isRouteCommand cmd = false)
    (hCheck : sys.checkCommand s cmd = none) :
    DerailerLocksAgree (applyAll s (sys.changesOf s cmd)) ↔
      ∀ u, sys.effectOf s cmd = .derailer u .locked → ¬ DerailerListed s u := by
  have hAgrees := derailerLocksAgree_iff.mp h
  have hKeys := derailer_exists_iff (topology_applyAll s (sys.changesOf s cmd))
  have hActive := fun u r => Active.congr (routes_changesOf sys s hKind) r (fun route => u ∈ route.derailerUids)
  have hListed : ∀ u, DerailerListed (applyAll s (sys.changesOf s cmd)) u ↔ DerailerListed s u :=
    fun u => exists_congr (hActive u)
  have hState := fun u => derailerState_changesOf sys s hKind u
  have hHolder : ∀ u, (s.findDerailer u).isSome = true →
      derailerHolder (applyAll s (sys.changesOf s cmd)) u =
        (sys.effectOf s cmd).derailerLockAfter u (derailerHolder s u) := by
    intro u hu
    rw [derailerHolder, derailerLock_changesOf sys s hKind, join_map (by rw [isSome_derailerLock]; exact hu)]
    rfl
  rw [derailerLocksAgree_iff]
  constructor
  · intro hAfter u hEffect hYes
    have hu := checked_derailer hCheck hEffect
    have hOpen := ((hAfter u ((hKeys u).mpr hu)).1 ((hListed u).mpr hYes)).1
    have hClosed := hState u
    rw [((hAgrees u hu).1 hYes).1, Option.map_some, hEffect] at hClosed
    simp only [CommandEffect.derailerStateAfter, if_true] at hClosed
    rw [hClosed] at hOpen
    cases hOpen
  · intro hGuard u hu
    have hu := (hKeys u).mp hu
    have hStateAt := hState u
    have hHolderAt := hHolder u hu
    cases hEffect : sys.effectOf s cmd with
    | quiet | signal | switch =>
      simp only [hEffect, CommandEffect.derailerStateAfter, Option.map_id_fun'] at hStateAt
      simp only [hEffect, CommandEffect.derailerLockAfter] at hHolderAt
      exact (DerailerAgrees.congr hStateAt hHolderAt (hActive u)).mpr (hAgrees u hu)
    | derailer uid state =>
      simp only [hEffect, CommandEffect.derailerStateAfter, CommandEffect.derailerLockAfter] at hStateAt hHolderAt
      by_cases hUid : u = uid
      · subst hUid
        simp only [if_true, true_and] at hStateAt hHolderAt
        cases state with
        | locked =>
          have hNot : ¬ DerailerListed (applyAll s (sys.changesOf s cmd)) u :=
            fun hYes => hGuard u hEffect ((hListed u).mp hYes)
          exact ⟨fun hYes => absurd hYes hNot, fun _ => hHolderAt.trans (if_pos rfl)⟩
        | unlocked =>
          obtain ⟨hYes, hNo⟩ := hAgrees u hu
          have hSame : derailerHolder (applyAll s (sys.changesOf s cmd)) u = derailerHolder s u :=
            hHolderAt.trans (if_neg (by decide))
          constructor
          · intro hNow
            obtain ⟨hOpen, r, hr, hOwner⟩ := hYes ((hListed u).mp hNow)
            refine ⟨?_, r, hSame.trans hr, (hActive u r).mpr hOwner⟩
            rw [hStateAt, hOpen]
            rfl
          · intro hNow
            exact hSame.trans (hNo (fun hBefore => hNow ((hListed u).mpr hBefore)))
      · simp only [hUid, if_false, false_and, Option.map_id_fun'] at hStateAt hHolderAt
        exact (DerailerAgrees.congr hStateAt hHolderAt (hActive u)).mpr (hAgrees u hu)

end Steps

theorem derailerLocksAgree_step {φ : Type} {dynamics : TrainDynamics φ} {w w' : World φ} {a : Action φ}
    (h : DerailerLocksAgree w.state) (hStep : w.step dynamics a = some w') :
    DerailerLocksAgree w'.state ↔ DerailerLockGuard w a := by
  cases stepEffect_of_step hStep with
  | command cmd hKind hCheck hState =>
    rw [hState, derailerLocksAgree_effect h _ hKind hCheck]
    cases cmd
    case requestRoute | cancelRoute => cases hKind
    all_goals rfl
  | request cmd rp hGranted hState =>
    rw [hState, derailerLocksAgree_request h hGranted]
    constructor
    · intro hGuard rp' hFound
      rw [hGranted.found] at hFound
      cases hFound
      exact hGuard
    · intro hGuard
      exact hGuard rp hGranted.found
  | cancel cmd route hFind hState =>
    rw [hState, derailerLocksAgree_cancel h hFind]
    constructor
    · intro hGuard route' hFind'
      rw [hFind] at hFind'
      cases hFind'
      exact hGuard
    · intro hGuard
      exact hGuard route hFind
  | tick hState =>
    rw [hState, derailerLocksAgree_onTick h]
    rfl
  | other _ hCommand hTick hSame =>
    have hGuard : DerailerLockGuard w a := by
      cases a <;> first | exact absurd rfl (hCommand _) | exact absurd rfl hTick | trivial
    refine iff_of_true ?_ hGuard
    intro u d hFind
    rw [EngineState.findDerailer, hSame.derailers] at hFind
    have hActive := fun r => Active.congr hSame.routes r (fun route => u ∈ route.derailerUids)
    simp only [DerailerListed, hActive]
    exact h u d hFind

/-- Loading establishes the agreement, a step keeps it exactly when its guard holds, and so do runs. -/
theorem derailerLocks_agree {φ : Type} (dynamics : TrainDynamics φ) :
    (∀ w : World φ, w.Loaded → DerailerLocksAgree w.state) ∧
    (∀ w a w', DerailerLocksAgree w.state → World.step dynamics w a = some w' →
      (DerailerLocksAgree w'.state ↔ DerailerLockGuard w a)) ∧
    (∀ w₀ actions w, World.Loaded w₀ → run (World.step dynamics) w₀ actions = some w →
      (Always (World.step dynamics) (fun w => DerailerLocksAgree w.state) w₀ actions ↔
        Guarded (World.step dynamics) DerailerLockGuard w₀ actions)) := by
  refine ⟨fun w hw => derailerLocksAgree_of_fresh hw.fresh, fun w a w' h hStep => derailerLocksAgree_step h hStep, ?_⟩
  intro w₀ actions w hLoaded hRun
  exact always_iff_guarded (fun w => DerailerLocksAgree w.state) (fun _ => True) DerailerLockGuard
    (fun w a w' h _ hStep => derailerLocksAgree_step h hStep) (fun _ _ _ _ _ _ _ => trivial)
    (derailerLocksAgree_of_fresh hLoaded.fresh) trivial hRun

theorem derailerLocksAgree_siding : ∃ w, World.step World.idleTrains (World.start .ml8 sidingStation)
    (.command (.requestRoute ⟨⟨21⟩, ⟨22⟩⟩)) = some w ∧ DerailerLocksAgree w.state := by
  have hSome : (World.step World.idleTrains (World.start .ml8 sidingStation)
      (.command (.requestRoute ⟨⟨21⟩, ⟨22⟩⟩))).isSome = true := by decide +kernel
  obtain ⟨w, hStep⟩ := Option.isSome_iff_exists.mp hSome
  obtain ⟨hLoaded, hKept, -⟩ := derailerLocks_agree World.idleTrains
  have hStart := hLoaded (World.start .ml8 sidingStation) ⟨[sidingStation], _, rfl⟩
  have hPath : (findRoutePath (loadedState sidingStation) ⟨21⟩ ⟨22⟩ kPolicies).all (fun rp =>
      ∀ u ∈ rp.derailerUids, (derailerState u).read (loadedState sidingStation) ≠ some .unlocked) = true := by
    decide +kernel
  refine ⟨w, hStep, (hKept _ _ w hStart hStep).mpr ?_⟩
  intro rp hFound u hMem
  have hClosed := of_decide_eq_true ((Option.all_eq_true _ _).mp hPath rp hFound) u hMem
  rw [if_pos (by rfl)]
  intro hOpen
  exact absurd hOpen hClosed

/-- The operator closes a derailer under the route that needs it open. -/
theorem routeDerailer_closed : ¬ ((∀ w : World Unit, w.Loaded → DerailerLocksAgree w.state) ∧
    ∀ (w : World Unit) a w', DerailerLocksAgree w.state → World.step World.idleTrains w a = some w' →
      DerailerLocksAgree w'.state) := by
  rintro ⟨hLoad, hKept⟩
  let r := makeRouteUid ⟨21⟩ ⟨22⟩ 0
  have hLoaded : (World.start .ml8 sidingStation).Loaded := ⟨[sidingStation], _, rfl⟩
  obtain ⟨w, hRun, -, hTest⟩ := World.exists_reachable .ml8 sidingStation
    [.command (.requestRoute ⟨⟨21⟩, ⟨22⟩⟩), .command (.operatorCommand ⟨⟨31⟩, .derailer, .zwp⟩)]
    (fun w => (derailerState ⟨31⟩).read w.state = some .locked ∧
      (w.state.findRoute r).any (fun route => ⟨31⟩ ∈ route.derailerUids) = true) hLoaded (by decide +kernel)
  obtain ⟨hClosed, hActive⟩ := of_decide_eq_true hTest
  obtain ⟨route, hFind, hMem⟩ := (Option.any_eq_true _ _).mp hActive
  have hListed : DerailerListed w.state ⟨31⟩ := ⟨r, route, hFind, of_decide_eq_true hMem⟩
  have hAgree := invariant (fun w => DerailerLocksAgree w.state) hKept (hLoad _ hLoaded) hRun
  have hExists : (w.state.findDerailer ⟨31⟩).isSome = true := by
    by_contra hNone
    simp [derailerState, derailerHeld, Option.not_isSome_iff_eq_none.mp hNone] at hClosed
  obtain ⟨d, hd⟩ := Option.isSome_iff_exists.mp hExists
  have hOpen := ((hAgree ⟨31⟩ d hd).1 hListed).1
  rw [derailerState_of_find hd, hOpen] at hClosed
  cases hClosed

end Symulator.Interlocking
