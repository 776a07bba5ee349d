import Symulator.Engine.TrainMoves
import Symulator.Srk.RouteMap

/-! # A train enters a route

A route remembers whether a train has entered it, and then it can no longer be cancelled and is released by
itself. The memory is never written: neither a train that is spawned nor one that crosses over tells the route
map of it.
-/

namespace Symulator.Interlocking

open Symulator.Library Symulator.Engine Symulator.Srk

set_option autoImplicit false

/-- What a route that a train has entered is good for: it is not cancelled without force, and its release begins
as soon as its sections are free. -/
structure EntryNoted (s : EngineState) (route : RouteState) : Prop where
  entered : route.trainEntered = true
  kept : checkCancelRoute s { routeUid := route.uid, force := false } ≠ none
  released : ∀ tick, sectionsFree s route.sectionUids = true → route.overlapReleaseTick = none →
    releaseRoute s tick route ≠ []

theorem entryNoted_iff {s : EngineState} {r : UID} {route : RouteState} (h : s.findRoute r = some route) :
    EntryNoted s route ↔ route.trainEntered = true := by
  obtain rfl : route.uid = r := KeyedMap.key_of_find h
  refine ⟨EntryNoted.entered, fun hEntered => ⟨hEntered, ?_, fun tick hFree hTimer => ?_⟩⟩
  · intro hCheck
    obtain ⟨found, hFind, hForce | hNot⟩ := findRoute_of_checkCancelRoute hCheck
    · cases hForce
    · cases h.symm.trans hFind
      cases hNot.symm.trans hEntered
  · simp [releaseRoute, hEntered, hFree, hTimer]

section Runs

variable {φ : Type} (dynamics : TrainDynamics φ)

/-- The sections that trains enter in a step: where one is spawned, and where the others cross to. -/
def sectionsEntered (w : World φ) : Action φ → List UID
  | .fleetCommand (.spawn initial _) => [initial.currentSectionUid]
  | .tickTrains =>
    w.fleet.filterMap fun entry =>
      match trainMove dynamics w.state entry with
      | .crosses toUid => some toUid
      | .stays | .leaves => none
  | .fleetCommand (.despawn _) | .command _ | .onTick | .advanceTick => []

/-- A train enters a section of the route `r`. -/
def Enters (w : World φ) (a : Action φ) (r : UID) : Prop :=
  ∃ route, w.state.findRoute r = some route ∧ ∃ uid ∈ sectionsEntered dynamics w a, uid ∈ route.sectionUids

/-- In the run a train has entered the route `r`, which has been active ever since. -/
def EnteredSince (w₀ : World φ) (actions : List (Action φ)) (r : UID) : Prop :=
  ∃ before a after u, actions = before ++ a :: after ∧ run (World.step dynamics) w₀ before = some u ∧
    Enters dynamics u a r ∧
    Always (World.step dynamics) (fun w => (w.state.findRoute r).isSome) u (a :: after)

/-- Whenever a train has entered an active route, the route knows. -/
def EntriesNoted (w₀ : World φ) (actions : List (Action φ)) : Prop :=
  ∀ xs ys, actions = xs ++ ys → ∀ t, run (World.step dynamics) w₀ xs = some t → ∀ r route,
    t.state.findRoute r = some route → EnteredSince dynamics w₀ xs r → EntryNoted t.state route

/-- No train enters a section of an active route. -/
def KeepsOffRoutes (w : World φ) (a : Action φ) : Prop := ∀ r, ¬ Enters dynamics w a r

variable {dynamics} {w w' : World φ} {a : Action φ}

theorem keepsOffRoutes_command (cmd : Command) : KeepsOffRoutes dynamics w (.command cmd) := by
  rintro r ⟨route, -, uid, hEntered, -⟩
  cases hEntered

/-- A step that takes a train into a section leaves the routes alone. -/
theorem routes_of_enters {uid : UID} (hEntered : uid ∈ sectionsEntered dynamics w a)
    (hStep : w.step dynamics a = some w') : w'.state.routes = w.state.routes := by
  cases stepEffect_of_step hStep with
  | other _ _ _ hSame => exact hSame.routes
  | command => cases hEntered
  | request => cases hEntered
  | cancel => cases hEntered
  | tick => cases hEntered

/-- From a loaded world, the routes of a run know of the trains in them exactly when there are none. -/
theorem entries_noted_iff {w₀ : World φ} {actions : List (Action φ)} (hLoaded : w₀.Loaded)
    (hRun : run (World.step dynamics) w₀ actions = some w) :
    EntriesNoted dynamics w₀ actions ↔ Guarded (World.step dynamics) (KeepsOffRoutes dynamics) w₀ actions := by
  rw [guarded_iff_reached]
  constructor
  · rintro hNoted before a after u rfl hBefore r ⟨route, hFind, uid, hEntered, hIn⟩
    obtain ⟨u', hReached, hRest⟩ := run_append.mp hRun
    cases hBefore.symm.trans hReached
    obtain ⟨v, hStep, -⟩ := run_cons.mp hRest
    have hActive : v.state.findRoute r = some route := by
      rw [EngineState.findRoute, routes_of_enters hEntered hStep]
      exact hFind
    have hReach : run (World.step dynamics) w₀ (before ++ [a]) = some v :=
      run_append.mpr ⟨u, hBefore, run_cons.mpr ⟨v, hStep, rfl⟩⟩
    -- the route is active when the train enters it, and right after
    have hSince : EnteredSince dynamics w₀ (before ++ [a]) r := by
      refine ⟨before, a, [], u, rfl, hBefore, ⟨route, hFind, uid, hEntered, hIn⟩, by simp [hFind], ?_⟩
      intro v' hStep'
      cases hStep.symm.trans hStep'
      simp [Always, hActive]
    have hKnown := (hNoted (before ++ [a]) after (by simp) v hReach r route hActive hSince).entered
    have hRequested := routesRequested_of_reachable ⟨w₀, before ++ [a], hLoaded, hReach⟩
    rw [(hRequested route (KeyedMap.find_eq_some_iff.mp hActive).1).trainEntered] at hKnown
    cases hKnown
  · rintro hGuard xs ys rfl t hReach r route hFind ⟨before, a, after, u, rfl, hBefore, hEnters, -⟩
    exact absurd hEnters (hGuard before a (after ++ ys) u (by simp) hBefore r)

end Runs

theorem entries_noted_fork : EntriesNoted World.idleTrains (World.start .ml8 forkStation)
    [.command (.requestRoute ⟨⟨21⟩, ⟨22⟩⟩), World.spawnAt 3 10] := by
  have hLoaded : (World.start .ml8 forkStation).Loaded := ⟨[forkStation], _, rfl⟩
  obtain ⟨w, hRun, -⟩ := World.exists_reachable .ml8 forkStation
    [.command (.requestRoute ⟨⟨21⟩, ⟨22⟩⟩), World.spawnAt 3 10] (fun _ => true) hLoaded (by decide +kernel)
  have hNext : ((World.start .ml8 forkStation).step World.idleTrains (.command (.requestRoute ⟨⟨21⟩, ⟨22⟩⟩))).all
      (fun w => w.state.routes.values.all fun route => ⟨3⟩ ∉ route.sectionUids) = true := by decide +kernel
  refine (entries_noted_iff hLoaded hRun).mpr ⟨keepsOffRoutes_command _, fun w' hStep => ⟨?_, fun _ _ => trivial⟩⟩
  rintro r ⟨route, hFind, uid, hEntered, hIn⟩
  have hRoute := List.all_eq_true.mp ((Option.all_eq_true _ _).mp hNext w' hStep) route
    (KeyedMap.find_eq_some_iff.mp hFind).1
  rw [List.mem_singleton.mp hEntered] at hIn
  exact of_decide_eq_true hRoute hIn

/-- A train appears in the first section of the route, which may be cancelled in front of it. -/
theorem route_forgetsTrain : ¬ ∀ (w₀ w : World Unit) (actions : List (Action Unit)), w₀.Loaded →
    run (World.step World.idleTrains) w₀ actions = some w → EntriesNoted World.idleTrains w₀ actions := by
  intro h
  have hLoaded : (World.start .ml8 forkStation).Loaded := ⟨[forkStation], _, rfl⟩
  generalize hStart : World.start .ml8 forkStation = w₀ at hLoaded
  let request : Action Unit := .command (.requestRoute ⟨⟨21⟩, ⟨22⟩⟩)
  have hRequest : (run (World.step World.idleTrains) w₀ [request]).any (fun u => u.state.routes.values.any fun route =>
      decide (⟨1⟩ ∈ route.sectionUids) && (run (World.step World.idleTrains) u [World.spawnAt 1 91]).any fun w =>
        (w.state.findRoute route.uid).isSome &&
          (checkCancelRoute w.state { routeUid := route.uid, force := false }).isNone) = true := by
    rw [← hStart]
    decide +kernel
  obtain ⟨u, hBefore, hRoutes⟩ := (Option.any_eq_true _ _).mp hRequest
  obtain ⟨route, hRoute, hTest⟩ := List.any_eq_true.mp hRoutes
  obtain ⟨hIn, hSpawn⟩ := Bool.and_eq_true_iff.mp hTest
  obtain ⟨w, hRest, hAfter⟩ := (Option.any_eq_true _ _).mp hSpawn
  obtain ⟨hActive, hCancel⟩ := Bool.and_eq_true_iff.mp hAfter
  have hRun : run (World.step World.idleTrains) w₀ [request, World.spawnAt 1 91] = some w :=
    run_append.mpr ⟨u, hBefore, hRest⟩
  obtain ⟨v, hStep, hDone⟩ := run_cons.mp hRest
  cases hDone
  have hFind : u.state.findRoute route.uid = some route := KeyedMap.find_key hRoute
  have hSince : EnteredSince World.idleTrains w₀ [request, World.spawnAt 1 91] route.uid := by
    refine ⟨[request], World.spawnAt 1 91, [], u, rfl, hBefore,
      ⟨route, hFind, ⟨1⟩, List.mem_singleton.mpr rfl, of_decide_eq_true hIn⟩, by simp [hFind], fun w' hStep' => ?_⟩
    cases hStep.symm.trans hStep'
    exact hActive
  obtain ⟨route', hFind'⟩ := Option.isSome_iff_exists.mp hActive
  have hNoted := h w₀ w [request, World.spawnAt 1 91] hLoaded hRun _ [] (List.append_nil _).symm w hRun route.uid route'
    hFind' hSince
  obtain hUid : route'.uid = route.uid := KeyedMap.key_of_find hFind'
  rw [← hUid] at hCancel
  exact hNoted.kept (Option.isNone_iff_eq_none.mp hCancel)

end Symulator.Interlocking
