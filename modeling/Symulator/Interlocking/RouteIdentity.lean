import Symulator.Srk.RouteMap

/-! # The identity of a route

A route is named by the XOR of its signals and its tick, in fields of 16 bits. Two requests may come out
with the same name, and the route map then keeps the older route only.
-/

namespace Symulator.Interlocking

open Symulator.Library Symulator.Engine Symulator.Srk

set_option autoImplicit false

/-- The route a change locks a device for. -/
def lockedFor : DeviceStateChange → Option UID
  | .switchLocked _ routeUid => some routeUid
  | .signalAspectChange _ _ _ routeUid => routeUid
  | .derailerStateChange _ _ _ routeUid => routeUid
  | _ => none

/-- The request gets a UID of its own: no active route has it, one entry is added under it, and every
lock written names that entry. -/
structure FreshIdentity (s : EngineState) (cmd : RequestRouteCmd) (tick : Nat) : Prop where
  unused : s.findRoute (makeRouteUid cmd.fromSignalUid cmd.toSignalUid tick) = none
  added : ∃ route, (applyAll s (executeRequestRoute s cmd tick kPolicies)).routes.values =
      s.routes.values ++ [route] ∧
    ∀ c ∈ executeRequestRoute s cmd tick kPolicies, ∀ routeUid, lockedFor c = some routeUid → routeUid = route.uid

/-- Neither the scopes nor the instances of the two pairs of signals tell the request and the route
apart, the ticks included modulo 65536. -/
def SameName (cmd : RequestRouteCmd) (tick : Nat) (route : RouteState) : Prop :=
  uidScope cmd.fromSignalUid ^^^ uidScope cmd.toSignalUid =
      uidScope route.fromSignalUid ^^^ uidScope route.toSignalUid ∧
    uidInstance cmd.fromSignalUid ^^^ uidInstance cmd.toSignalUid ^^^ BitVec.ofNat 16 tick =
      uidInstance route.fromSignalUid ^^^ uidInstance route.toSignalUid ^^^ BitVec.ofNat 16 route.createdTick

theorem makeRouteUid_eq_iff {cmd : RequestRouteCmd} {tick : Nat} {route : RouteState} :
    makeRouteUid cmd.fromSignalUid cmd.toSignalUid tick =
      makeRouteUid route.fromSignalUid route.toSignalUid route.createdTick ↔ SameName cmd tick route :=
  makeUid_inj

theorem makeRouteUid_comm (fromSignalUid toSignalUid : UID) (tick : Nat) :
    makeRouteUid fromSignalUid toSignalUid tick = makeRouteUid toSignalUid fromSignalUid tick := by
  rw [makeRouteUid, makeRouteUid, BitVec.xor_comm (uidScope fromSignalUid),
    BitVec.xor_comm (uidInstance fromSignalUid) (uidInstance toSignalUid)]

theorem makeRouteUid_add (fromSignalUid toSignalUid : UID) (tick : Nat) :
    makeRouteUid fromSignalUid toSignalUid (tick + 65536) = makeRouteUid fromSignalUid toSignalUid tick := by
  have hTick : BitVec.ofNat 16 (tick + 65536) = BitVec.ofNat 16 tick := by
    apply BitVec.eq_of_toNat_eq
    rw [BitVec.toNat_ofNat, BitVec.toNat_ofNat]
    omega
  rw [makeRouteUid, makeRouteUid, hTick]

theorem lockedFor_request {s : EngineState} {cmd : RequestRouteCmd} {rp : RoutePath}
    (h : findRoutePath s cmd.fromSignalUid cmd.toSignalUid kPolicies = some rp) {tick : Nat}
    {c : DeviceStateChange} (hc : c ∈ executeRequestRoute s cmd tick kPolicies) {routeUid : UID}
    (hLock : lockedFor c = some routeUid) : routeUid = (newRoute cmd tick rp).uid := by
  rcases (mem_executeRequestRoute h).mp hc with ⟨node, -, hc⟩ | ⟨u, -, hc⟩ | rfl | rfl
  · obtain ⟨sw, -, rfl | ⟨-, rfl⟩⟩ := mem_lockSwitch.mp hc
    · exact (Option.some.inj hLock).symm
    · cases hLock
  · obtain ⟨d, -, -, rfl⟩ := mem_unlockDerailer.mp hc
    exact (Option.some.inj hLock).symm
  · exact (Option.some.inj hLock).symm
  · cases hLock

/-- In a reachable state an accepted request gets a UID of its own exactly when no active route has the
same name. -/
theorem freshIdentity_iff {φ : Type} {dynamics : TrainDynamics φ} {w : World φ} (hReach : w.Reachable dynamics)
    {cmd : RequestRouteCmd} (hCheck : checkRequestRoute w.state cmd kPolicies = none) :
    FreshIdentity w.state cmd w.state.currentTick ↔
      ∀ route ∈ w.state.routes.values, ¬ SameName cmd w.state.currentTick route := by
  have hNamed := routesRequested_of_reachable hReach
  constructor
  · intro hFresh route hRoute hSame
    have hName := (makeRouteUid_eq_iff.mpr hSame).trans (hNamed route hRoute).uid_eq.symm
    have hUnused := hFresh.unused
    rw [hName] at hUnused
    exact KeyedMap.find_eq_none_iff.mp hUnused route hRoute rfl
  · intro hApart
    obtain ⟨rp, hGranted⟩ := exists_granted hCheck
    have hUnused : w.state.findRoute (newRoute cmd w.state.currentTick rp).uid = none := by
      refine KeyedMap.find_eq_none_iff.mpr fun route hRoute hName => hApart route hRoute ?_
      exact makeRouteUid_eq_iff.mp (hName.symm.trans (hNamed route hRoute).uid_eq)
    refine ⟨hUnused, newRoute cmd w.state.currentTick rp, ?_, ?_⟩
    · rw [routes_request hGranted.found]
      exact KeyedMap.values_emplace hUnused
    · intro c hc routeUid hLock
      exact lockedFor_request hGranted.found hc hLock

instance (cmd : RequestRouteCmd) (tick : Nat) (route : RouteState) : Decidable (SameName cmd tick route) :=
  inferInstanceAs (Decidable (_ ∧ _))

/-- While one route is active another gets a UID of its own. -/
theorem freshIdentity_beside : ∃ w : World Unit, w.state.routes.values.length = 1 ∧
    FreshIdentity w.state ⟨⟨24⟩, ⟨25⟩⟩ w.state.currentTick := by
  obtain ⟨w, -, hReach, hTest⟩ := World.exists_reachable .ml8 twoForkStation
    [.command (.requestRoute ⟨⟨21⟩, ⟨22⟩⟩), .advanceTick]
    (fun w => w.state.routes.values.length = 1 ∧ checkRequestRoute w.state ⟨⟨24⟩, ⟨25⟩⟩ kPolicies = none ∧
      ∀ route ∈ w.state.routes.values, ¬ SameName ⟨⟨24⟩, ⟨25⟩⟩ w.state.currentTick route)
    ⟨[twoForkStation], _, rfl⟩ (by decide +kernel)
  obtain ⟨hActive, hCheck, hApart⟩ := of_decide_eq_true hTest
  exact ⟨w, hActive, (freshIdentity_iff hReach hCheck).mpr hApart⟩

/-- Two opposite routes are requested in one tick. -/
theorem oppositeRoutes_collide : ¬ ∀ w : World Unit, w.Reachable World.idleTrains → ∀ cmd,
    checkRequestRoute w.state cmd kPolicies = none → FreshIdentity w.state cmd w.state.currentTick := by
  intro h
  obtain ⟨w, -, hReach, hTest⟩ := World.exists_reachable .ml8 sidingStation
    [.command (.requestRoute ⟨⟨21⟩, ⟨22⟩⟩)]
    (fun w => checkRequestRoute w.state ⟨⟨22⟩, ⟨21⟩⟩ kPolicies = none ∧
      (w.state.findRoute (makeRouteUid ⟨22⟩ ⟨21⟩ w.state.currentTick)).isSome = true)
    ⟨[sidingStation], _, rfl⟩ (by decide +kernel)
  obtain ⟨hCheck, hUsed⟩ := of_decide_eq_true hTest
  rw [(h w hReach ⟨⟨22⟩, ⟨21⟩⟩ hCheck).unused] at hUsed
  cases hUsed

end Symulator.Interlocking
