import Symulator.Library.LockTable
import Symulator.Srk.RouteMap

/-! # Locks and the routes that own them

The locks of switches, signals and derailers, and the routes that ought to hold them: a route owns its
switches, its entry signal and its derailers.
-/

namespace Symulator.Srk

open Symulator.Library Symulator.Engine

set_option autoImplicit false

def switchHolder (s : EngineState) (u : UID) : Option UID := ((switchLock u).read s).join
def signalHolder (s : EngineState) (u : UID) : Option UID := ((signalLock u).read s).join
def derailerHolder (s : EngineState) (u : UID) : Option UID := ((derailerLock u).read s).join

theorem join_map {ρ : Type} {x : Option (Option ρ)} (hx : x.isSome = true) (f : Option ρ → Option ρ) :
    (x.map f).join = f x.join := by
  obtain ⟨b, rfl⟩ := Option.isSome_iff_exists.mp hx
  rfl

theorem isSome_switchLock (s : EngineState) (u : UID) :
    ((switchLock u).read s).isSome = (s.findSwitch u).isSome := Option.isSome_map

theorem isSome_signalLock (s : EngineState) (u : UID) :
    ((signalLock u).read s).isSome = (s.findSignal u).isSome := Option.isSome_map

theorem isSome_derailerLock (s : EngineState) (u : UID) :
    ((derailerLock u).read s).isSome = (s.findDerailer u).isSome :=
  Option.isSome_map.trans Option.isSome_map

theorem switch_exists_iff {s t : EngineState} (h : t.topology = s.topology) (u : UID) :
    (t.findSwitch u).isSome = true ↔ (s.findSwitch u).isSome = true := by
  rw [isSome_findSwitch h]

theorem signal_exists_iff {s t : EngineState} (h : t.topology = s.topology) (u : UID) :
    (t.findSignal u).isSome = true ↔ (s.findSignal u).isSome = true := by
  rw [isSome_findSignal h]

theorem derailer_exists_iff {s t : EngineState} (h : t.topology = s.topology) (u : UID) :
    (t.findDerailer u).isSome = true ↔ (s.findDerailer u).isSome = true := by
  rw [isSome_findDerailer h]

theorem switchHolder_of_find {s : EngineState} {u : UID} {sw : Switch} (h : s.findSwitch u = some sw) :
    switchHolder s u = sw.lockedByRouteUid := by
  rw [switchHolder, switchLock_of_find h]
  rfl

theorem signalHolder_of_find {s : EngineState} {u : UID} {sig : Signal} (h : s.findSignal u = some sig) :
    signalHolder s u = sig.lockedByRouteUid := by
  rw [signalHolder, signalLock_of_find h]
  rfl

theorem derailerHolder_of_find {s : EngineState} {u : UID} {d : Derailer} (h : s.findDerailer u = some d) :
    derailerHolder s u = d.lockedByRouteUid := by
  rw [derailerHolder, derailerLock_of_find h]
  rfl

theorem switchHolder_request {s : EngineState} {cmd : RequestRouteCmd} {rp : RoutePath}
    (h : findRoutePath s cmd.fromSignalUid cmd.toSignalUid kPolicies = some rp) (tick : Nat) {u : UID}
    (hu : (s.findSwitch u).isSome = true) :
    switchHolder (applyAll s (executeRequestRoute s cmd tick kPolicies)) u =
      if u ∈ (newRoute cmd tick rp).switchUids then some (newRoute cmd tick rp).uid else switchHolder s u := by
  rw [switchHolder, switchLock_request h, join_map (by rw [isSome_switchLock]; exact hu)]
  rfl

theorem switchHolder_cancel {s : EngineState} {cmd : CancelRouteCmd} {route : RouteState}
    (h : s.findRoute cmd.routeUid = some route) {u : UID} (hu : (s.findSwitch u).isSome = true) :
    switchHolder (applyAll s (executeCancelRoute s cmd)) u =
      if u ∈ route.switchUids then none else switchHolder s u := by
  rw [switchHolder, switchLock_cancel h, join_map (by rw [isSome_switchLock]; exact hu)]
  rfl

theorem derailerHolder_request {s : EngineState} {cmd : RequestRouteCmd} {rp : RoutePath}
    (h : findRoutePath s cmd.fromSignalUid cmd.toSignalUid kPolicies = some rp) (tick : Nat) {u : UID}
    (hu : (s.findDerailer u).isSome = true) :
    derailerHolder (applyAll s (executeRequestRoute s cmd tick kPolicies)) u =
      if u ∈ rp.derailerUids ∧ (derailerState u).read s = some .locked then some (newRoute cmd tick rp).uid
      else derailerHolder s u := by
  rw [derailerHolder, derailerLock_request h, join_map (by rw [isSome_derailerLock]; exact hu)]
  rfl

/-- Every switch is locked by the active route that lists it, and by no other. -/
def SwitchLocksAgree (s : EngineState) : Prop :=
  Agrees (fun u => (s.findSwitch u).isSome = true) (switchHolder s)
    (fun r u => Active s r (fun route => u ∈ route.switchUids))

/-- Every signal is locked by the active route that starts at it, and by no other. -/
def SignalLocksAgree (s : EngineState) : Prop :=
  Agrees (fun u => (s.findSignal u).isSome = true) (signalHolder s)
    (fun r u => Active s r (fun route => route.fromSignalUid = u))

/-- Some active route lists the derailer. -/
def DerailerListed (s : EngineState) (u : UID) : Prop :=
  ∃ r, Active s r (fun route => u ∈ route.derailerUids)

/-- A derailer that active routes list is open and locked by one of them; any other has no lock. -/
def DerailerLocksAgree (s : EngineState) : Prop :=
  ∀ u d, s.findDerailer u = some d →
    (DerailerListed s u → d.state = .unlocked ∧
      ∃ r, d.lockedByRouteUid = some r ∧ Active s r (fun route => u ∈ route.derailerUids)) ∧
    (¬ DerailerListed s u → d.lockedByRouteUid = none)

section Fresh

variable {s : EngineState} (h : Fresh s)

include h

theorem not_active_of_fresh (r : UID) (P : RouteState → Prop) : ¬ Active s r P := by
  rintro ⟨route, hFind, -⟩
  rw [EngineState.findRoute, h.routes] at hFind
  cases hFind

theorem switchLocksAgree_of_fresh : SwitchLocksAgree s := by
  intro u hu r
  obtain ⟨sw, hFind⟩ := Option.isSome_iff_exists.mp hu
  obtain ⟨-, hLock, -, -⟩ := h.switches sw (KeyedMap.find_eq_some_iff.mp hFind).1
  rw [switchHolder_of_find hFind, hLock]
  exact iff_of_false (Option.some_ne_none r).symm (not_active_of_fresh h r _)

theorem signalLocksAgree_of_fresh : SignalLocksAgree s := by
  intro u hu r
  obtain ⟨sig, hFind⟩ := Option.isSome_iff_exists.mp hu
  rw [signalHolder_of_find hFind, h.signals sig (KeyedMap.find_eq_some_iff.mp hFind).1]
  exact iff_of_false (Option.some_ne_none r).symm (not_active_of_fresh h r _)

theorem derailerLocksAgree_of_fresh : DerailerLocksAgree s := by
  intro u d hFind
  constructor
  · rintro ⟨r, hActive⟩
    exact absurd hActive (not_active_of_fresh h r _)
  · intro _
    exact (h.derailers d (KeyedMap.find_eq_some_iff.mp hFind).1).2

end Fresh

theorem World.Loaded.fresh {φ : Type} {w : World φ} (h : w.Loaded) : Fresh w.state := by
  obtain ⟨dirs, results, hLoad⟩ := h
  exact fresh_of_loadWorld hLoad

end Symulator.Srk
