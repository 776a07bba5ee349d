import Symulator.Library.Countdown
import Symulator.Srk.RouteMap

/-! # Automatic release after a clear interval

A route that a train has entered is released once its sections have been free for sixty seconds. The first
tick that finds them free starts a timer; a train that comes back does not stop it.
-/

namespace Symulator.Interlocking

open Symulator.Library Symulator.Engine Symulator.Srk

set_option autoImplicit false

inductive TrackEvent
  | onTick
  | command (cmd : Command)
  | occupancy (uid : UID) (occ : TrackOccupancy) (axleCount : Int)

section Runs

variable {φ : Type} (dynamics : TrainDynamics φ)

/-- Ticks, commands and changes of occupancy; a tick of the control system advances the tick counter. -/
def trackStep (w : World φ) : TrackEvent → Option (World φ)
  | .onTick => (w.step dynamics .onTick).bind fun w => w.step dynamics .advanceTick
  | .command cmd => w.step dynamics (.command cmd)
  | .occupancy uid occ axleCount =>
    some { w with state := w.state.applyTrackSectionOccupancy uid occ axleCount }

omit dynamics in
/-- The number of a tick, and whether it finds the sections free. -/
def sampleOf (sectionUids : List UID) (w : World φ) : TrackEvent → List (Nat × Bool)
  | .onTick => [(w.state.currentTick + 1, sectionsFree w.state sectionUids)]
  | .command _ | .occupancy .. => []

/-- What the ticks of a run find, in order. -/
def clearances (sectionUids : List UID) : World φ → List TrackEvent → List (Nat × Bool)
  | _, [] => []
  | w, e :: events =>
    sampleOf sectionUids w e ++
      match trackStep dynamics w e with
      | none => []
      | some w' => clearances sectionUids w' events

/-- The next tick releases the route `r`. -/
def Releases (w : World φ) (r : UID) : Prop :=
  ∃ reason, .routeRemoved r reason ∈ (w.control.onTick w.state (w.state.currentTick + 1)).1

end Runs

/-- The route `r`, where it is active and a train has entered it. -/
def enteredRoute (s : EngineState) (r : UID) : Option RouteState :=
  (s.findRoute r).filter (fun route => route.trainEntered)

theorem enteredRoute_eq_some {s : EngineState} {r : UID} {route : RouteState} :
    enteredRoute s r = some route ↔ s.findRoute r = some route ∧ route.trainEntered = true :=
  Option.filter_eq_some_iff

/-! ## One tick -/

/-- A tick moves the timer of an entered route on, and releases the route when it is done. -/
theorem findRoute_onTick_entered {sys : ControlSystem} {s : EngineState} {tick : Nat} {r : UID} {route : RouteState}
    (h : enteredRoute s r = some route) : (applyAll s (sys.onTick s tick).1).findRoute r =
      (countdown (60 * engineTicksPerSecond) route.overlapReleaseTick
        (tick, sectionsFree s route.sectionUids)).map (fun timer => { route with overlapReleaseTick := timer }) := by
  obtain ⟨hFind, hEntered⟩ := enteredRoute_eq_some.mp h
  by_cases hDue : IsDue s tick route
  · rw [findRoute_onTick_of_isDue sys hFind hDue]
    obtain ⟨-, hFree, deadline, hTimer, hLe⟩ := hDue
    simp [countdown, hFree, hTimer, hLe]
  · obtain rfl : route.uid = r := KeyedMap.key_of_find hFind
    rw [findRoute_onTick_eq, hFind, foldl_tick_of_find hFind]
    unfold releaseRoute
    rw [if_neg (not_not_intro hEntered)]
    cases hFree : sectionsFree s route.sectionUids with
    | false =>
      rw [if_pos (by simp)]
      cases hTimer : route.overlapReleaseTick <;> simp [countdown, ← hTimer]
    | true =>
      rw [if_neg (by simp)]
      cases hTimer : route.overlapReleaseTick with
      | none => simp [countdown, routeAfter]
      | some deadline =>
        have hEarly : tick < deadline := by
          by_contra hLe
          exact hDue ⟨hEntered, hFree, deadline, hTimer, Nat.not_lt.mp hLe⟩
        simp [countdown, if_pos hEarly, Nat.not_le.mpr hEarly, ← hTimer]

theorem releases_iff {φ : Type} {w : World φ} {r : UID} : Releases w r ↔
    ∃ route, enteredRoute w.state r = some route ∧ countdown (60 * engineTicksPerSecond) route.overlapReleaseTick
      (w.state.currentTick + 1, sectionsFree w.state route.sectionUids) = none := by
  constructor
  · rintro ⟨reason, hc⟩
    rcases onTick_cases hc with ⟨uid, position, ticks, hEq⟩ | ⟨route, hRoute, ⟨hDue, hc⟩ | ⟨releaseTick, hEq⟩⟩
    · cases hEq
    · have hUid : route.uid = r := by
        rcases hc with hEq | ⟨uid, _, hEq⟩ | hEq <;> cases hEq
        rfl
      refine ⟨route, enteredRoute_eq_some.mpr ⟨hUid ▸ KeyedMap.find_key hRoute, hDue.1⟩, ?_⟩
      obtain ⟨-, hFree, deadline, hTimer, hLe⟩ := hDue
      simp [countdown, hFree, hTimer, hLe]
    · cases hEq
  · rintro ⟨route, hRoute, hDone⟩
    obtain ⟨hFind, hEntered⟩ := enteredRoute_eq_some.mp hRoute
    have hDue : IsDue w.state (w.state.currentTick + 1) route := by
      by_contra hNot
      obtain ⟨timer, hAfter⟩ := findRoute_onTick_of_not_isDue w.control hFind hNot
      rw [findRoute_onTick_entered hRoute, hDone] at hAfter
      cases hAfter
    refine ⟨"TRAIN_CLEARED", List.mem_append_right _ (List.mem_flatMap.mpr ⟨route, ?_, ?_⟩)⟩
    · exact (KeyedMap.find_eq_some_iff.mp hFind).1
    · obtain rfl : route.uid = r := KeyedMap.key_of_find hFind
      rw [releaseRoute_of_isDue hDue]
      simp

/-! ## The timer along a run -/

section Runs

variable {φ : Type} {dynamics : TrainDynamics φ} {w w' : World φ} {r : UID}

theorem currentTick_trackStep {e : TrackEvent} (hStep : trackStep dynamics w e = some w')
    (sectionUids : List UID) :
    w'.state.currentTick = w.state.currentTick + (sampleOf sectionUids w e).length := by
  cases e with
  | onTick =>
    cases hStep
    simp [EngineState.setCurrentTick, sampleOf]
  | command cmd =>
    have hCommand : w.step dynamics (.command cmd) = some w' := hStep
    rcases World.step_cases hCommand with ⟨_, -, -, hState⟩ | ⟨hTick, -⟩ | ⟨hNot, -⟩
    · rw [hState, currentTick_applyAll]
      rfl
    · cases hTick
    · exact absurd rfl (hNot cmd)
  | occupancy uid occ axleCount =>
    cases hStep
    rfl

/-- A command leaves an entered route as it is, and enters none. -/
theorem enteredRoute_command {cmd : Command} (hStep : w.step dynamics (.command cmd) = some w') {route : RouteState}
    (h : enteredRoute w'.state r = some route) : enteredRoute w.state r = some route := by
  obtain ⟨hFind, hEntered⟩ := enteredRoute_eq_some.mp h
  refine enteredRoute_eq_some.mpr ⟨?_, hEntered⟩
  cases stepEffect_of_step hStep with
  | command _ hKind hCheck hState =>
    rw [hState, EngineState.findRoute, routes_changesOf _ _ hKind] at hFind
    exact hFind
  | request cmd rp hGranted hState =>
    rw [hState, findRoute_request hGranted.found] at hFind
    cases hOld : w.state.findRoute r with
    | some old =>
      rw [hOld, Option.some_or] at hFind
      exact hFind
    | none =>
      rw [hOld, Option.none_or] at hFind
      split at hFind
      · cases hFind
        cases hEntered
      · cases hFind
  | cancel cmd cancelled hCancelled hState =>
    have hErased : (w.state.routes.erase cmd.routeUid).find r = some route := by
      rw [← routes_cancel hCancelled, ← hState]
      exact hFind
    rw [KeyedMap.find_erase] at hErased
    split at hErased
    · cases hErased
    · exact hErased
  | other _ hNot hTick hSame => exact absurd rfl (hNot cmd)

/-- A route that has been entered after an event was entered before it, and its timer has moved on. -/
theorem enteredRoute_trackStep {e : TrackEvent} (hStep : trackStep dynamics w e = some w') {route' : RouteState}
    (h : enteredRoute w'.state r = some route') :
    ∃ route, enteredRoute w.state r = some route ∧ route'.sectionUids = route.sectionUids ∧
      (sampleOf route.sectionUids w e).foldlM (countdown (60 * engineTicksPerSecond)) route.overlapReleaseTick =
        some route'.overlapReleaseTick := by
  cases e with
  | onTick =>
    cases hStep
    obtain ⟨hFind, hEntered⟩ := enteredRoute_eq_some.mp h
    have hAfter : (applyAll w.state (w.control.onTick w.state (w.state.currentTick + 1)).1).findRoute r =
      some route' := hFind
    cases hOld : w.state.findRoute r with
    | none =>
      rw [findRoute_onTick_of_none _ hOld] at hAfter
      cases hAfter
    | some route =>
      cases hRoute : route.trainEntered with
      | true =>
        have hBefore := enteredRoute_eq_some.mpr ⟨hOld, hRoute⟩
        rw [findRoute_onTick_entered hBefore, Option.map_eq_some_iff] at hAfter
        obtain ⟨timer, hTimer, rfl⟩ := hAfter
        exact ⟨route, hBefore, rfl, by simpa [sampleOf] using hTimer⟩
      | false =>
        have hNot : ¬ IsDue w.state (w.state.currentTick + 1) route := by
          rintro ⟨hYes, -⟩
          rw [hRoute] at hYes
          cases hYes
        obtain ⟨timer, hKept⟩ := findRoute_onTick_of_not_isDue w.control hOld hNot
        rw [hAfter] at hKept
        cases hKept
        rw [hRoute] at hEntered
        cases hEntered
  | command cmd =>
    have hCommand : w.step dynamics (.command cmd) = some w' := hStep
    exact ⟨route', enteredRoute_command hCommand h, rfl, rfl⟩
  | occupancy uid occ axleCount =>
    cases hStep
    exact ⟨route', h, rfl, rfl⟩

theorem clearances_append {sectionUids : List UID} {xs ys : List TrackEvent}
    (hRun : run (trackStep dynamics) w xs = some w') : clearances dynamics sectionUids w (xs ++ ys) =
      clearances dynamics sectionUids w xs ++ clearances dynamics sectionUids w' ys := by
  induction xs generalizing w with
  | nil =>
    cases hRun
    rfl
  | cons e xs ih =>
    obtain ⟨v, hStep, hRest⟩ := run_cons.mp hRun
    simp only [List.cons_append, clearances, hStep, ih hRest, List.append_assoc]

theorem clearances_single {sectionUids : List UID} (e : TrackEvent) :
    clearances dynamics sectionUids w [e] = sampleOf sectionUids w e := by
  rw [clearances]
  cases trackStep dynamics w e <;> simp [clearances]

theorem numbered_clearances {sectionUids : List UID} {events : List TrackEvent}
    (hRun : run (trackStep dynamics) w events = some w') :
    Numbered (w.state.currentTick + 1) (clearances dynamics sectionUids w events) ∧
      w'.state.currentTick = w.state.currentTick + (clearances dynamics sectionUids w events).length := by
  induction events using List.reverseRecOn generalizing w' with
  | nil =>
    cases hRun
    exact ⟨rfl, rfl⟩
  | append_singleton events e ih =>
    obtain ⟨v, hEvents, hLast⟩ := run_append.mp hRun
    obtain ⟨_, hStep, hEnd⟩ := run_cons.mp hLast
    cases hEnd
    obtain ⟨hNumbered, hTick⟩ := ih hEvents
    rw [clearances_append hEvents, clearances_single, List.length_append, currentTick_trackStep hStep sectionUids,
      hTick]
    refine ⟨?_, by omega⟩
    cases e with
    | onTick =>
      refine numbered_concat.mpr ⟨hNumbered, ?_⟩
      rw [hTick]
      omega
    | command cmd =>
      rw [sampleOf, List.append_nil]
      exact hNumbered
    | occupancy uid occ axleCount =>
      rw [sampleOf, List.append_nil]
      exact hNumbered

/-- The timer of an entered route is the countdown over what the ticks have found. -/
theorem timer_of_run {route : RouteState} (hStart : enteredRoute w.state r = some route) {events : List TrackEvent}
    (hRun : run (trackStep dynamics) w events = some w') {route' : RouteState}
    (hEnd : enteredRoute w'.state r = some route') : route'.sectionUids = route.sectionUids ∧
      (clearances dynamics route.sectionUids w events).foldlM (countdown (60 * engineTicksPerSecond))
        route.overlapReleaseTick = some route'.overlapReleaseTick := by
  induction events using List.reverseRecOn generalizing w' route' with
  | nil =>
    cases hRun
    cases hStart.symm.trans hEnd
    exact ⟨rfl, rfl⟩
  | append_singleton events e ih =>
    obtain ⟨v, hEvents, hLast⟩ := run_append.mp hRun
    obtain ⟨_, hStep, hDone⟩ := run_cons.mp hLast
    cases hDone
    obtain ⟨mid, hMid, hSections, hTimer⟩ := enteredRoute_trackStep hStep hEnd
    obtain ⟨hSections', hTimer'⟩ := ih hEvents hMid
    refine ⟨hSections.trans hSections', ?_⟩
    rw [clearances_append hEvents, clearances_single, List.foldlM_append, hTimer', ← hSections']
    exact hTimer

end Runs

/-- From a state in which the route `r` has been entered and has no timer yet: where a tick of a run releases
`r`, its sections were found free at every tick of some interval of sixty seconds before exactly when, once
found free, they were found free until then. -/
theorem release_waits_iff {φ : Type} {dynamics : TrainDynamics φ} {w₀ w : World φ} {r : UID} {route : RouteState}
    (hFind : w₀.state.findRoute r = some route) (hEntered : route.trainEntered = true)
    (hTimer : route.overlapReleaseTick = none) {before : List TrackEvent}
    (hRun : run (trackStep dynamics) w₀ before = some w) (hReleases : Releases w r) :
    (∃ t₀, w₀.state.currentTick < t₀ ∧ t₀ + 60 * engineTicksPerSecond ≤ w.state.currentTick + 1 ∧
      ∀ p ∈ clearances dynamics route.sectionUids w₀ (before ++ [.onTick]), t₀ ≤ p.1 → p.2 = true) ↔
    StaysClear (clearances dynamics route.sectionUids w₀ (before ++ [.onTick])) := by
  obtain ⟨route', hRoute', hDone⟩ := releases_iff.mp hReleases
  obtain ⟨hSections, hCountdown⟩ := timer_of_run (enteredRoute_eq_some.mpr ⟨hFind, hEntered⟩) hRun hRoute'
  obtain ⟨hNumbered, hTick⟩ := numbered_clearances hRun
  rw [hTimer] at hCountdown
  rw [hSections] at hDone
  have hFree : sectionsFree w.state route.sectionUids = true := by
    by_contra hNot
    rw [Bool.not_eq_true] at hNot
    rw [hNot] at hDone
    cases hOverlap : route'.overlapReleaseTick <;> simp [countdown, hOverlap] at hDone
  rw [hFree] at hDone
  rw [clearances_append hRun, clearances_single, sampleOf, hFree]
  refine clear_interval_iff (by decide) (numbered_concat.mpr ⟨hNumbered, ?_⟩) hCountdown hDone
  rw [hTick]
  omega

/-! ## A route that a train has entered -/

def enteredFork : RouteState where
  uid := ⟨71⟩
  fromSignalUid := ⟨21⟩
  toSignalUid := ⟨22⟩
  sectionUids := [⟨1⟩, ⟨2⟩]
  switchUids := [⟨10⟩]
  trainEntered := true

def forkEntered : World Unit where
  state := (loadedState forkStation).addRoute enteredFork
  control := { kind := .ml8 }

/-- The route 71 is released by the next tick, as its changes show. -/
def showsRelease (w : World Unit) : Bool :=
  (w.control.onTick w.state (w.state.currentTick + 1)).1.any fun c =>
    match c with
    | .routeRemoved routeUid _ => routeUid = ⟨71⟩
    | _ => false

theorem releases_of_showsRelease {w : World Unit} (h : showsRelease w = true) : Releases w ⟨71⟩ := by
  obtain ⟨c, hc, hRemoved⟩ := List.any_eq_true.mp h
  cases c
  case routeRemoved routeUid reason =>
    obtain rfl : routeUid = ⟨71⟩ := of_decide_eq_true hRemoved
    exact ⟨reason, hc⟩
  all_goals cases hRemoved

theorem find_forkEntered : forkEntered.state.findRoute ⟨71⟩ = some enteredFork := rfl

theorem release_waits_fork : ∃ w : World Unit,
    run (trackStep World.idleTrains) forkEntered (List.replicate 1200 .onTick) = some w ∧
    ((∃ t₀, forkEntered.state.currentTick < t₀ ∧ t₀ + 60 * engineTicksPerSecond ≤ w.state.currentTick + 1 ∧
      ∀ p ∈ clearances World.idleTrains enteredFork.sectionUids forkEntered
        (List.replicate 1200 .onTick ++ [.onTick]), t₀ ≤ p.1 → p.2 = true) ↔
      StaysClear (clearances World.idleTrains enteredFork.sectionUids forkEntered
        (List.replicate 1200 .onTick ++ [.onTick]))) := by
  have hRun : (run (trackStep World.idleTrains) forkEntered (List.replicate 1200 .onTick)).any showsRelease =
      true := by decide +kernel
  obtain ⟨w, hRun, hShows⟩ := (Option.any_eq_true _ _).mp hRun
  exact ⟨w, hRun, release_waits_iff find_forkEntered rfl rfl hRun (releases_of_showsRelease hShows)⟩

/-- A train comes back for one tick while the timer runs, and the route is released on time all the same. -/
theorem timer_survivesTrain : ¬ ∀ (w₀ w : World Unit) (r : UID) (route : RouteState) (before : List TrackEvent),
    w₀.state.findRoute r = some route → route.trainEntered = true → route.overlapReleaseTick = none →
    run (trackStep World.idleTrains) w₀ before = some w → Releases w r →
    ∃ t₀, w₀.state.currentTick < t₀ ∧ t₀ + 60 * engineTicksPerSecond ≤ w.state.currentTick + 1 ∧
      ∀ p ∈ clearances World.idleTrains route.sectionUids w₀ (before ++ [.onTick]), t₀ ≤ p.1 → p.2 = true := by
  intro h
  let before : List TrackEvent :=
    [.onTick, .occupancy ⟨2⟩ .occupied 4, .onTick, .occupancy ⟨2⟩ .free 0] ++ List.replicate 1198 .onTick
  have hRun : (run (trackStep World.idleTrains) forkEntered before).any (fun w =>
      showsRelease w && decide (w.state.currentTick = 1200)) = true := by decide +kernel
  have hOccupied : (clearances World.idleTrains enteredFork.sectionUids forkEntered (before ++ [.onTick])).any
      (fun p => p = (2, false)) = true := by decide +kernel
  obtain ⟨w, hRun, hEnd⟩ := (Option.any_eq_true _ _).mp hRun
  obtain ⟨hShows, hTick⟩ := Bool.and_eq_true_iff.mp hEnd
  obtain ⟨t₀, -, hLong, hClear⟩ := h forkEntered w ⟨71⟩ enteredFork before find_forkEntered rfl rfl hRun
    (releases_of_showsRelease hShows)
  obtain ⟨p, hp, hEq⟩ := List.any_eq_true.mp hOccupied
  obtain rfl : p = (2, false) := of_decide_eq_true hEq
  rw [of_decide_eq_true hTick, engineTicksPerSecond] at hLong
  exact absurd (hClear (2, false) hp (show t₀ ≤ 2 by omega)) (by decide)

end Symulator.Interlocking
