import Symulator.Srk.LockAgreement

/-! # Requesting a route and cancelling it

A cancellation right after the request is to undo it but for the positions of the switches. It does so
for all but the lock of the entry signal, which it writes again where it should clear it.
-/

namespace Symulator.Interlocking

open Symulator.Library Symulator.Engine Symulator.Srk

set_option autoImplicit false

/-- The state after a request and the cancellation of its route, with no step in between. -/
def requestThenCancel (s : EngineState) (cmd : RequestRouteCmd) (tick : Nat) (force : Bool) : EngineState :=
  let requested := applyAll s (executeRequestRoute s cmd tick kPolicies)
  applyAll requested
    (executeCancelRoute requested ⟨makeRouteUid cmd.fromSignalUid cmd.toSignalUid tick, force⟩)

/-- Locks, derailers and routes are back to what they were, and the entry signal shows stop. -/
structure RoundTrip (s t : EngineState) (entry : UID) : Prop where
  switchLocks : ∀ u, (switchLock u).read t = (switchLock u).read s
  signalLocks : ∀ u, (signalLock u).read t = (signalLock u).read s
  derailerLocks : ∀ u, (derailerLock u).read t = (derailerLock u).read s
  derailerStates : ∀ u, (derailerState u).read t = (derailerState u).read s
  routes : t.routes = s.routes
  stop : (signalAspect entry).read t = some .s1Stop

section RoundTrip

variable {s : EngineState} {cmd : RequestRouteCmd} {rp : RoutePath} (h : Granted s cmd rp) (tick : Nat)

include h

/-- The UID of the request is in use afterwards, whether or not it was before. -/
theorem exists_requested : ∃ route,
    (applyAll s (executeRequestRoute s cmd tick kPolicies)).findRoute (newRoute cmd tick rp).uid = some route ∧
      (s.findRoute (newRoute cmd tick rp).uid = none → route = newRoute cmd tick rp) := by
  rw [findRoute_request h.found, if_pos rfl]
  cases s.findRoute (newRoute cmd tick rp).uid with
  | none => exact ⟨newRoute cmd tick rp, rfl, fun _ => rfl⟩
  | some route => exact ⟨route, rfl, nofun⟩

theorem signalLock_requestThenCancel (force : Bool) :
    (signalLock cmd.fromSignalUid).read (requestThenCancel s cmd tick force) =
      some (some (newRoute cmd tick rp).uid) := by
  obtain ⟨sig, hSig, -⟩ := h.entry
  obtain ⟨route, hFind, -⟩ := exists_requested h tick
  let cancel : CancelRouteCmd := ⟨(newRoute cmd tick rp).uid, force⟩
  have hCancel := @signalLock_cancel _ cancel route hFind cmd.fromSignalUid
  rw [signalLock_request h.found, signalLock_of_find hSig, Option.map_some, if_pos rfl, Option.map_some,
    ite_self] at hCancel
  exact hCancel

theorem switchHolder_of_mem (hFlank : ∀ fnode ∈ rp.flankSwitches, switchHolder s fnode.uid = none) {u : UID}
    (hMem : u ∈ (newRoute cmd tick rp).switchUids) : switchHolder s u = none := by
  obtain ⟨node, hNode, rfl⟩ := mem_switchUids.mp hMem
  rcases List.mem_append.mp hNode with hNode | hNode
  · rw [List.mem_filter, decide_eq_true_eq] at hNode
    obtain ⟨-, sw, hFind⟩ := h.isRoutePath.switchNode node hNode.1 hNode.2
    exact (switchHolder_of_find hFind).trans (h.throwable hNode.1 hNode.2 hFind).1
  · exact hFlank node hNode

/-- What does come back, where the UID was not in use, the flank switches were unlocked and the derailers
of the path were closed. -/
theorem requestThenCancel_restores (force : Bool) (hFresh : s.findRoute (newRoute cmd tick rp).uid = none)
    (hFlank : ∀ fnode ∈ rp.flankSwitches, switchHolder s fnode.uid = none)
    (hClosed : ∀ u ∈ rp.derailerUids, (derailerState u).read s = some .locked ∧ derailerHolder s u = none) :
    (∀ u, (switchLock u).read (requestThenCancel s cmd tick force) = (switchLock u).read s) ∧
    (∀ u, u ≠ cmd.fromSignalUid →
      (signalLock u).read (requestThenCancel s cmd tick force) = (signalLock u).read s) ∧
    (∀ u, (derailerLock u).read (requestThenCancel s cmd tick force) = (derailerLock u).read s) ∧
    (∀ u, (derailerState u).read (requestThenCancel s cmd tick force) = (derailerState u).read s) ∧
    (requestThenCancel s cmd tick force).routes = s.routes ∧
    (signalAspect cmd.fromSignalUid).read (requestThenCancel s cmd tick force) = some .s1Stop := by
  obtain ⟨route, hFind, hNew⟩ := exists_requested h tick
  have hRoute := hNew hFresh
  subst hRoute
  let cancel : CancelRouteCmd := ⟨(newRoute cmd tick rp).uid, force⟩
  have hCancel : (applyAll s (executeRequestRoute s cmd tick kPolicies)).findRoute cancel.routeUid =
      some (newRoute cmd tick rp) := hFind
  refine ⟨fun u => ?_, fun u hu => ?_, fun u => ?_, fun u => ?_, ?_, ?_⟩
  · refine (switchLock_cancel hCancel u).trans ?_
    rw [switchLock_request h.found, Option.map_map]
    by_cases hMem : u ∈ (newRoute cmd tick rp).switchUids
    · have hFree := switchHolder_of_mem h tick hFlank hMem
      cases hRead : (switchLock u).read s with
      | none => rfl
      | some holder =>
        rw [switchHolder, hRead] at hFree
        simpa [hMem] using hFree.symm
    · simp [hMem, Function.comp_def]
  · refine (signalLock_cancel hCancel u).trans ?_
    rw [signalLock_request h.found, Option.map_map]
    simp [hu, newRoute, Function.comp_def]
  · refine (derailerLock_cancel hCancel u).trans ?_
    rw [derailerLock_request h.found, derailerState_request h.found, Option.map_map]
    by_cases hMem : u ∈ rp.derailerUids
    · obtain ⟨hLocked, hFree⟩ := hClosed u hMem
      cases hRead : (derailerLock u).read s with
      | none => rfl
      | some holder =>
        rw [derailerHolder, hRead] at hFree
        simpa [hMem, hLocked, newRoute] using hFree.symm
    · simp [hMem, newRoute, Function.comp_def]
  · refine (derailerState_cancel hCancel u).trans ?_
    rw [derailerState_request h.found, Option.map_map]
    by_cases hMem : u ∈ rp.derailerUids
    · simp [(hClosed u hMem).1, hMem, newRoute]
    · simp [hMem, newRoute, Function.comp_def]
  · refine (routes_cancel hCancel).trans ?_
    rw [routes_request h.found]
    exact KeyedMap.erase_emplace hFresh
  · obtain ⟨sig, hSig, -⟩ := h.entry
    refine (signalAspect_cancel hCancel cmd.fromSignalUid).trans ?_
    rw [signalAspect_request h.found, signalAspect_of_find hSig, Option.map_some, Option.map_some]
    exact congrArg some (if_pos rfl)

end RoundTrip

/-- No request comes back from its cancellation. -/
theorem not_roundTrip {s : EngineState} {cmd : RequestRouteCmd}
    (hCheck : checkRequestRoute s cmd kPolicies = none) (tick : Nat) (force : Bool) :
    ¬ RoundTrip s (requestThenCancel s cmd tick force) cmd.fromSignalUid := by
  intro hTrip
  obtain ⟨rp, hGranted⟩ := exists_granted hCheck
  obtain ⟨sig, hSig, hFree⟩ := hGranted.entry
  have hLock := hTrip.signalLocks cmd.fromSignalUid
  rw [signalLock_requestThenCancel hGranted, signalLock_of_find hSig, hFree] at hLock
  cases hLock

theorem not_roundTrip_fork :
    ¬ RoundTrip (loadedState forkStation) (requestThenCancel (loadedState forkStation) ⟨⟨21⟩, ⟨22⟩⟩ 0 true) ⟨21⟩ :=
  not_roundTrip (by decide +kernel) 0 true

/-- Right after loading, a request and its cancellation leave the entry signal locked. -/
theorem entrySignal_keepsLock : ¬ ∀ s cmd tick force, SwitchLocksAgree s → SignalLocksAgree s →
    DerailerLocksAgree s → checkRequestRoute s cmd kPolicies = none →
    RoundTrip s (requestThenCancel s cmd tick force) cmd.fromSignalUid := by
  intro h
  have hFresh : Fresh (loadedState forkStation) := by
    obtain ⟨results, hLoad⟩ : ∃ results, loadWorld {} [forkStation] = .ok (loadedState forkStation, results) :=
      ⟨_, rfl⟩
    exact fresh_of_loadWorld hLoad
  have hTrip := h (loadedState forkStation) ⟨⟨21⟩, ⟨22⟩⟩ 0 false (switchLocksAgree_of_fresh hFresh)
    (signalLocksAgree_of_fresh hFresh) (derailerLocksAgree_of_fresh hFresh) (by decide +kernel)
  have hLock := hTrip.signalLocks ⟨21⟩
  revert hLock
  decide +kernel

end Symulator.Interlocking
