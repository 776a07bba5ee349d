import Symulator.Srk.RouteMap

/-! # Throwing switches

Commands may throw a switch that is free, unlocked and at rest. Points commands of ML8 do not ask for
a route lock, and a route request asks nothing of its flank switches.
-/

namespace Symulator.Interlocking

open Symulator.Library Symulator.Engine Symulator.Srk

set_option autoImplicit false

/-- Every switch whose position the command alters was throwable before it. -/
def ThrowsSafely (sys : ControlSystem) (s : EngineState) (cmd : Command) : Prop :=
  ∀ u sw, s.findSwitch u = some sw →
    (switchPosition u).read (applyAll s (sys.executeCommand s cmd).1) ≠ some sw.position → Throwable sw

/-- What the checks leave open: the lock of a switch that an ML8 command throws, and everything about
the flank switches of a request. -/
def ThrowGuard (sys : ControlSystem) (s : EngineState) : Command → Prop
  | .requestRoute cmd =>
    ∀ rp, findRoutePath s cmd.fromSignalUid cmd.toSignalUid kPolicies = some rp →
      ∀ fnode ∈ rp.flankSwitches, ∀ sw, s.findSwitch fnode.uid = some sw →
        sw.position ≠ fnode.requiredPosition → Throwable sw
  | .ml8Command cmd =>
    isMl8PointsCode cmd.code = true → ∀ sw, s.findSwitch cmd.targetUid = some sw →
      sw.lockedByRouteUid = none ∨ sys.eea4ThrowTicks ≤ 0 ∧ sw.position = .divergent
  | _ => True

theorem throwsSafely_request {sys : ControlSystem} {s : EngineState} {cmd : RequestRouteCmd} {rp : RoutePath}
    (h : Granted s cmd rp) :
    ThrowsSafely sys s (.requestRoute cmd) ↔ ThrowGuard sys s (.requestRoute cmd) := by
  constructor
  · intro hSafe rp' hFound fnode hFlank sw hFind hPos
    rw [h.found] at hFound
    cases hFound
    refine hSafe fnode.uid sw hFind ((switchPosition_request_ne h.found _ (switchPosition_of_find hFind)).mpr ?_)
    exact ⟨fnode, List.mem_append_right _ hFlank, rfl, Ne.symm hPos⟩
  · intro hGuard u sw hFind hMoved
    obtain ⟨node, hNode, rfl, hPos⟩ :=
      (switchPosition_request_ne h.found _ (switchPosition_of_find hFind)).mp hMoved
    rcases List.mem_append.mp hNode with hPath | hFlank
    · rw [List.mem_filter, decide_eq_true_eq] at hPath
      exact h.throwable hPath.1 hPath.2 hFind
    · exact hGuard rp h.found node hFlank sw hFind (Ne.symm hPos)

/-- Outside of requests only ML8 commands can throw a locked switch. -/
theorem throwsSafely_effect {sys : ControlSystem} {s : EngineState} {cmd : Command}
    (hKind : isRouteCommand cmd = false) (hCheck : sys.checkCommand s cmd = none) :
    ThrowsSafely sys s cmd ↔ ∀ u, IsMl8Throw sys u cmd → ∀ sw, s.findSwitch u = some sw →
      sw.lockedByRouteUid = none ∨ sys.eea4ThrowTicks ≤ 0 ∧ sw.position = .divergent := by
  have hRead := fun u => switchPosition_changesOf sys s hKind u
  constructor
  · intro hSafe u hThrow sw hFind
    obtain ⟨hMl8, kind, code, rfl, hCode⟩ := hThrow
    have hEffect : sys.effectOf s (.ml8Command ⟨u, kind, code⟩) = .switch u .divergent := by
      have hPoints : pointsEffect s u .divergent .unlocked = .switch u .divergent := by
        rw [pointsEffect, hFind]
        rfl
      simp only [ControlSystem.effectOf, hMl8]
      cases code
      case pz | dpz => exact hPoints
      all_goals cases hCode
    by_cases hStays : thrownPosition .divergent sys.eea4ThrowTicks = sw.position
    · obtain ⟨sw', hFind', -, hMoving, -⟩ := checked_switch hCheck hEffect
      rw [hFind] at hFind'
      cases hFind'
      unfold thrownPosition at hStays
      split at hStays
      · exact absurd hStays.symm hMoving
      · rename_i hTicks
        exact Or.inr ⟨by omega, hStays.symm⟩
    · left
      refine (hSafe u sw hFind ?_).1
      have hAfter := hRead u
      rw [hEffect, switchPosition_of_find hFind] at hAfter
      simp only [Option.map_some, CommandEffect.positionAfter, if_true] at hAfter
      intro hEq
      exact hStays (Option.some.inj (hAfter.symm.trans hEq))
  · intro hGuard u sw hFind hMoved
    have hAfter := hRead u
    rw [switchPosition_of_find hFind, Option.map_some] at hAfter
    have hThrown : ∃ position, sys.effectOf s cmd = .switch u position ∧
        thrownPosition position sys.eea4ThrowTicks ≠ sw.position := by
      cases hEffect : sys.effectOf s cmd with
      | switch uid position =>
        simp only [hEffect, CommandEffect.positionAfter] at hAfter
        by_cases hu : u = uid
        · subst hu
          refine ⟨position, rfl, fun hEq => hMoved ?_⟩
          rw [if_pos rfl, hEq] at hAfter
          exact hAfter
        · rw [if_neg hu] at hAfter
          exact absurd hAfter hMoved
      | quiet | signal | derailer =>
        simp only [hEffect, CommandEffect.positionAfter] at hAfter
        exact absurd hAfter hMoved
    obtain ⟨position, hEffect, hPosition⟩ := hThrown
    obtain ⟨sw', hFind', hOcc, hMoving, hLock⟩ := checked_switch hCheck hEffect
    rw [hFind] at hFind'
    cases hFind'
    refine ⟨?_, hOcc, hMoving⟩
    rcases hLock with hLock | ⟨hThrow, rfl⟩
    · exact hLock
    · rcases hGuard u hThrow sw hFind with hLock | ⟨hTicks, hDivergent⟩
      · exact hLock
      · refine absurd ?_ hPosition
        rw [thrownPosition, if_neg (by omega), hDivergent]

/-- An accepted command throws throwable switches only, exactly when its guard holds. -/
theorem throwsSafely_iff {sys : ControlSystem} {s : EngineState} {cmd : Command}
    (hCheck : sys.checkCommand s cmd = none) : ThrowsSafely sys s cmd ↔ ThrowGuard sys s cmd := by
  cases cmd
  case requestRoute cmd =>
    obtain ⟨rp, hGranted⟩ := exists_granted hCheck
    exact throwsSafely_request hGranted
  case cancelRoute cmd =>
    obtain ⟨route, hFind, -⟩ := findRoute_of_checkCancelRoute hCheck
    refine iff_of_true ?_ trivial
    intro u sw hSw hMoved
    exact absurd ((switchPosition_cancel u).trans (switchPosition_of_find hSw)) hMoved
  case ml8Command cmd =>
    rw [throwsSafely_effect rfl hCheck]
    obtain ⟨target, kind, code⟩ := cmd
    cases hMl8 : sys.kind with
    | ebilock =>
      simp only [ControlSystem.checkCommand, hMl8] at hCheck
      cases hCheck
    | ml8 =>
      constructor
      · intro h hCode
        exact h target ⟨hMl8, kind, code, rfl, hCode⟩
      · rintro h u ⟨-, _, _, hEq, hCode⟩
        cases hEq
        exact h hCode
  all_goals
    rw [throwsSafely_effect rfl hCheck]
    refine iff_of_true ?_ trivial
    rintro u ⟨-, _, _, hEq, -⟩
    cases hEq

theorem throwsSafely_zwm :
    ThrowsSafely { kind := .ml8 } (loadedState forkStation) (.operatorCommand ⟨⟨10⟩, .switch, .zwm⟩) :=
  (throwsSafely_iff (by decide +kernel)).mpr trivial

/-- A route is set over the fork, and an ML8 command throws the switch under it. -/
theorem routeSwitch_thrown : ¬ ∀ w : World Unit, w.Reachable World.idleTrains → ∀ cmd,
    w.control.checkCommand w.state cmd = none → ThrowsSafely w.control w.state cmd := by
  intro h
  let pz : Command := .ml8Command ⟨⟨10⟩, .switch, .pz⟩
  have hLoaded : (World.start .ml8 forkStation).Loaded := ⟨[forkStation], _, rfl⟩
  obtain ⟨w, -, hReach, hTest⟩ := World.exists_reachable .ml8 forkStation
    [.command (.requestRoute ⟨⟨21⟩, ⟨22⟩⟩)]
    (fun w => w.control.checkCommand w.state pz = none ∧
      (w.state.findSwitch ⟨10⟩).any fun sw => sw.lockedByRouteUid.isSome ∧
        (switchPosition ⟨10⟩).read (applyAll w.state (w.control.executeCommand w.state pz).1) ≠ some sw.position)
    hLoaded (by decide +kernel)
  simp only [Bool.decide_and, Bool.and_eq_true, decide_eq_true_eq, Option.any_eq_true] at hTest
  obtain ⟨hCheck, sw, hFind, hLocked, hMoved⟩ := hTest
  obtain ⟨hFree, -⟩ := h w hReach pz hCheck ⟨10⟩ sw hFind hMoved
  rw [hFree] at hLocked
  cases hLocked

end Symulator.Interlocking
