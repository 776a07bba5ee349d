import Symulator.Srk.RouteMap

/-! # What a request checks and what it touches

The check of a route request looks at the nodes of the path and its sections. The execution throws and
locks the flank switches as well.
-/

namespace Symulator.Interlocking

open Symulator.Library Symulator.Engine Symulator.Srk

set_option autoImplicit false

/-- What a granted request is to achieve: every switch of the route ends as required and locked by the
new route, and all that it altered was free, unlocked and at rest before. -/
structure Covered (s : EngineState) (cmd : RequestRouteCmd) (tick : Nat) : Prop where
  nonempty : executeRequestRoute s cmd tick kPolicies ≠ []
  switches : ∀ rp, findRoutePath s cmd.fromSignalUid cmd.toSignalUid kPolicies = some rp →
    ∀ node ∈ switchNodes rp,
      (switchPosition node.uid).read (applyAll s (executeRequestRoute s cmd tick kPolicies)) =
        some node.requiredPosition ∧
      (switchLock node.uid).read (applyAll s (executeRequestRoute s cmd tick kPolicies)) =
        some (some (makeRouteUid cmd.fromSignalUid cmd.toSignalUid tick))
  throwable : ∀ u,
    (switchPosition u).read (applyAll s (executeRequestRoute s cmd tick kPolicies)) ≠ (switchPosition u).read s ∨
    (switchLock u).read (applyAll s (executeRequestRoute s cmd tick kPolicies)) ≠ (switchLock u).read s →
    ∃ sw, s.findSwitch u = some sw ∧ Throwable sw
  sections : ∀ route, .routeAdded route ∈ executeRequestRoute s cmd tick kPolicies →
    ∀ uid ∈ route.sectionUids, ∃ ts, s.findTrackSection uid = some ts ∧ ts.occupancy = .free

/-- What the check leaves open: two entries for one switch that want different positions, flank switches
in use, and a path over a section that does not exist. A flank switch may stay as it is when it already
stands as required under the UID of the new route. -/
structure CoverGuard (s : EngineState) (cmd : RequestRouteCmd) (tick : Nat) (rp : RoutePath) : Prop where
  agree : ∀ node ∈ switchNodes rp, ∀ node' ∈ switchNodes rp, node.uid = node'.uid →
    node.requiredPosition = node'.requiredPosition
  flank : ∀ fnode ∈ rp.flankSwitches, ∀ sw, s.findSwitch fnode.uid = some sw →
    Throwable sw ∨ sw.position = fnode.requiredPosition ∧
      sw.lockedByRouteUid = some (makeRouteUid cmd.fromSignalUid cmd.toSignalUid tick)
  sections : ∀ uid ∈ rp.sectionUids, (s.findTrackSection uid).isSome = true

section Coverage

variable {s : EngineState} {cmd : RequestRouteCmd} {rp : RoutePath} (h : Granted s cmd rp) (tick : Nat)

include h

theorem exists_switch_of_altered {u : UID}
    (hAltered : (switchPosition u).read (applyAll s (executeRequestRoute s cmd tick kPolicies)) ≠
        (switchPosition u).read s ∨
      (switchLock u).read (applyAll s (executeRequestRoute s cmd tick kPolicies)) ≠ (switchLock u).read s) :
    ∃ node ∈ switchNodes rp, node.uid = u ∧ ∃ sw, s.findSwitch u = some sw ∧
      (node.requiredPosition ≠ sw.position ∨ sw.lockedByRouteUid ≠ some (newRoute cmd tick rp).uid) := by
  have hLock := switchLock_request h.found tick u
  cases hFind : s.findSwitch u with
  | none =>
    have hPosition : (switchPosition u).read s = none := by simp [switchPosition, hFind]
    have hNone : (switchLock u).read s = none := by simp [switchLock, hFind]
    rw [hNone] at hLock
    have hLog := (switchPosition u).read_foldl s (executeRequestRoute s cmd tick kPolicies)
    rw [hPosition] at hLog
    rcases hAltered with hNe | hNe
    · exact absurd (hLog.trans hPosition.symm) hNe
    · exact absurd (hLock.trans hNone.symm) hNe
  | some sw =>
    rw [switchLock_of_find hFind] at hLock hAltered
    rw [switchPosition_of_find hFind] at hAltered
    rcases hAltered with hNe | hNe
    · obtain ⟨node, hNode, hUid, hPos⟩ :=
        (switchPosition_request_ne h.found tick (switchPosition_of_find hFind)).mp hNe
      exact ⟨node, hNode, hUid, sw, rfl, Or.inl hPos⟩
    · rw [hLock, Option.map_some] at hNe
      split at hNe
      · rename_i hMem
        obtain ⟨node, hNode, hUid⟩ := mem_switchUids.mp hMem
        exact ⟨node, hNode, hUid, sw, rfl, Or.inr fun hEq => hNe (by rw [hEq])⟩
      · exact absurd rfl hNe

theorem covered_of_guard (hGuard : CoverGuard s cmd tick rp) : Covered s cmd tick := by
  constructor
  case nonempty =>
    rw [executeRequestRoute_eq h.found]
    simp
  case switches =>
    intro rp' hFound node hNode
    rw [h.found] at hFound
    cases hFound
    obtain ⟨sw, hFind⟩ := h.isRoutePath.exists_switch hNode
    constructor
    · rcases switchPosition_request h.found tick node.uid (switchPosition_of_find hFind) with
        ⟨hAll, hAfter⟩ | ⟨node', hNode', hUid, -, hAfter⟩
      · rw [hAfter, hAll node hNode rfl]
      · rw [hAfter, hGuard.agree node' hNode' node hNode hUid]
    · rw [switchLock_request h.found, switchLock_of_find hFind, Option.map_some,
        if_pos (mem_switchUids.mpr ⟨node, hNode, rfl⟩)]
      rfl
  case throwable =>
    intro u hAltered
    obtain ⟨node, hNode, rfl, sw, hFind, hOr⟩ := exists_switch_of_altered h tick hAltered
    refine ⟨sw, hFind, ?_⟩
    rcases List.mem_append.mp hNode with hPath | hFlank
    · rw [List.mem_filter, decide_eq_true_eq] at hPath
      exact h.throwable hPath.1 hPath.2 hFind
    · rcases hGuard.flank node hFlank sw hFind with hThrow | ⟨hPos, hLock⟩
      · exact hThrow
      · rcases hOr with hNe | hNe
        · exact absurd hPos.symm hNe
        · exact absurd hLock hNe
  case sections =>
    intro route hRoute uid hUid
    obtain rfl := (routeAdded_mem_request h.found tick).mp hRoute
    obtain ⟨ts, hFind⟩ := Option.isSome_iff_exists.mp (hGuard.sections uid hUid)
    refine ⟨ts, hFind, ?_⟩
    have hCheck := h.sections uid hUid
    simp only [checkPathSection, hFind] at hCheck
    cases hOcc : ts.occupancy with
    | free => rfl
    | occupied =>
      rw [hOcc, if_pos rfl] at hCheck
      cases hCheck

theorem guard_of_covered (hCovered : Covered s cmd tick) : CoverGuard s cmd tick rp := by
  have hRead := fun node hNode => (hCovered.switches rp h.found node hNode).1
  constructor
  case agree =>
    intro node hNode node' hNode' hUid
    have hFirst := hRead node hNode
    rw [hUid, hRead node' hNode'] at hFirst
    exact (Option.some.inj hFirst).symm
  case flank =>
    intro fnode hFlank sw hFind
    have hNode : fnode ∈ switchNodes rp := List.mem_append_right _ hFlank
    obtain ⟨hPosition, hLock⟩ := hCovered.switches rp h.found fnode hNode
    by_cases hPos : sw.position = fnode.requiredPosition
    · by_cases hHeld : sw.lockedByRouteUid = some (makeRouteUid cmd.fromSignalUid cmd.toSignalUid tick)
      · exact Or.inr ⟨hPos, hHeld⟩
      · left
        obtain ⟨sw', hFind', hThrow⟩ := hCovered.throwable fnode.uid (Or.inr (by
          rw [hLock, switchLock_of_find hFind]
          exact fun hEq => hHeld (Option.some.inj hEq).symm))
        rw [hFind] at hFind'
        cases hFind'
        exact hThrow
    · left
      obtain ⟨sw', hFind', hThrow⟩ := hCovered.throwable fnode.uid (Or.inl (by
        rw [hPosition, switchPosition_of_find hFind]
        exact fun hEq => hPos (Option.some.inj hEq).symm))
      rw [hFind] at hFind'
      cases hFind'
      exact hThrow
  case sections =>
    intro uid hUid
    have hAdded : .routeAdded (newRoute cmd tick rp) ∈ executeRequestRoute s cmd tick kPolicies :=
      (routeAdded_mem_request h.found tick).mpr rfl
    obtain ⟨ts, hFind, -⟩ := hCovered.sections _ hAdded uid hUid
    rw [hFind]
    rfl

end Coverage

/-- The check covers what an accepted request touches exactly when its guard holds of the path. -/
theorem covered_iff {s : EngineState} {cmd : RequestRouteCmd} (hCheck : checkRequestRoute s cmd kPolicies = none)
    (tick : Nat) : Covered s cmd tick ↔ ∀ rp,
      findRoutePath s cmd.fromSignalUid cmd.toSignalUid kPolicies = some rp → CoverGuard s cmd tick rp := by
  obtain ⟨rp, hGranted⟩ := exists_granted hCheck
  constructor
  · intro hCovered rp' hFound
    rw [hGranted.found] at hFound
    cases hFound
    exact guard_of_covered hGranted tick hCovered
  · intro hGuard
    exact covered_of_guard hGranted tick (hGuard rp hGranted.found)

theorem covered_fork : Covered (loadedState forkStation) ⟨⟨21⟩, ⟨22⟩⟩ 0 := by
  refine (covered_iff (by decide +kernel) 0).mpr ?_
  have hPath : (findRoutePath (loadedState forkStation) ⟨21⟩ ⟨22⟩ kPolicies).all (fun rp =>
      (∀ node ∈ switchNodes rp, ∀ node' ∈ switchNodes rp, node.uid = node'.uid →
        node.requiredPosition = node'.requiredPosition) ∧ rp.flankSwitches = [] ∧
      ∀ uid ∈ rp.sectionUids, ((loadedState forkStation).findTrackSection uid).isSome = true) = true := by
    decide +kernel
  intro rp hFound
  obtain ⟨hAgree, hFlank, hSections⟩ := of_decide_eq_true ((Option.all_eq_true _ _).mp hPath rp hFound)
  exact ⟨hAgree, by simp [hFlank], hSections⟩

/-- The flank switch 11 is in motion, and the request throws it all the same. -/
theorem movingFlank_thrown : ¬ ∀ s cmd tick, checkRequestRoute s cmd kPolicies = none → Covered s cmd tick := by
  intro h
  let s := applyAll (loadedState crossoverStation) (executeSetSwitchPosition ⟨⟨11⟩, .divergent⟩ 90)
  have hCovered := h s ⟨⟨21⟩, ⟨22⟩⟩ 0 (by decide +kernel)
  have hAltered : (switchLock ⟨11⟩).read (applyAll s (executeRequestRoute s ⟨⟨21⟩, ⟨22⟩⟩ 0 kPolicies)) ≠
      (switchLock ⟨11⟩).read s := by decide +kernel
  obtain ⟨sw, hFind, -, -, hMoving⟩ := hCovered.throwable ⟨11⟩ (Or.inr hAltered)
  have hRead : (switchPosition ⟨11⟩).read s = some .moving := by decide +kernel
  rw [switchPosition_of_find hFind] at hRead
  exact hMoving (Option.some.inj hRead)

end Symulator.Interlocking
