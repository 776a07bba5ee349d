import Symulator.Engine.StateApplier

/-! # What the applier does to one device

A change acts on each device on its own, whatever the rest of the state is. The runtime fields the
interlocking cares about are therefore registers over the change list, and the topology is not
written at all.
-/

namespace Symulator.Engine

open Symulator.Library

set_option autoImplicit false

def switchAfter (u : UID) (c : DeviceStateChange) (sw : Switch) : Switch :=
  match c with
  | .switchPositionChange uid pos _ movingTicks =>
    if u = uid then { sw with position := pos, movingTicksRemaining := movingTicks } else sw
  | .switchLocked uid routeUid => if u = uid then { sw with lockedByRouteUid := some routeUid } else sw
  | .switchUnlocked uid _ => if u = uid then { sw with lockedByRouteUid := none } else sw
  | .axleCounterResetChange uid .switch =>
    if u = uid then { sw with occupancy := .free, axleCount := 0 } else sw
  | .operatorCommandStateChange uid .switch code active =>
    if u = uid then { sw with operatorState := applyOperatorState sw.operatorState code active } else sw
  | .ml8CommandStateChange uid .switch code active =>
    if u = uid then
      { sw with
        operatorState := { sw.operatorState with activeMl8Command := if active then some code else none } }
    else sw
  | .switchControlStateChange uid controlLost =>
    if u = uid then { sw with controlLost := controlLost } else sw
  | _ => sw

def signalAfter (u : UID) (c : DeviceStateChange) (sig : Signal) : Signal :=
  match c with
  | .signalAspectChange uid aspect _ routeUid =>
    if u = uid then
      { sig with
        currentAspect := aspect
        lockedByRouteUid :=
          if routeUid.isSome then routeUid else if aspect.isStop then none else sig.lockedByRouteUid }
    else sig
  | .operatorCommandStateChange uid .signal code active =>
    if u = uid then { sig with operatorState := applyOperatorState sig.operatorState code active } else sig
  | .ml8CommandStateChange uid .signal code active =>
    if u = uid then
      { sig with
        operatorState := { sig.operatorState with activeMl8Command := if active then some code else none } }
    else sig
  | _ => sig

/-- The fields of a derailer that routes and commands write. -/
def derailerAfter (u : UID) (c : DeviceStateChange) (held : DerailerState × Option UID) :
    DerailerState × Option UID :=
  match c with
  | .derailerStateChange uid state _ routeUid =>
    if u = uid then
      (state, if routeUid.isSome then routeUid else if state = .locked then none else held.2)
    else held
  | _ => held

theorem find_modifyOperatorState_switches (s : EngineState) (uid : UID) (kind : OperatorTargetKind)
    (f : OperatorCommandRuntimeState → OperatorCommandRuntimeState) (u : UID) :
    (s.modifyOperatorState uid kind f).switches.find u = (s.switches.find u).map (fun sw =>
      if kind = .switch ∧ u = uid then { sw with operatorState := f sw.operatorState } else sw) := by
  cases kind
  case switch =>
    simp only [EngineState.modifyOperatorState, true_and]
    split
    · rw [KeyedMap.find_modify]
    · rename_i hNone
      by_cases h : u = uid
      · subst h
        rw [Option.not_isSome_iff_eq_none.mp hNone]
        rfl
      · simp only [if_neg h, Option.map_id_fun']
        rfl
  all_goals simp [EngineState.modifyOperatorState]

theorem find_modifyOperatorState_signals (s : EngineState) (uid : UID) (kind : OperatorTargetKind)
    (f : OperatorCommandRuntimeState → OperatorCommandRuntimeState) (u : UID) :
    (s.modifyOperatorState uid kind f).signals.find u = (s.signals.find u).map (fun sig =>
      if kind = .signal ∧ u = uid then { sig with operatorState := f sig.operatorState } else sig) := by
  cases kind
  case switch =>
    simp only [EngineState.modifyOperatorState]
    split <;> simp
  all_goals simp [EngineState.modifyOperatorState]

section Devices

attribute [local simp] EngineState.findSwitch EngineState.findSignal EngineState.findDerailer
  EngineState.findTrackSection EngineState.findBlockSection EngineState.applyTrackSectionOccupancy
  EngineState.applyLevelCrossingStatus EngineState.applySwitchPosition EngineState.applySwitchControl
  EngineState.applySwitchLock EngineState.applySwitchOccupancy EngineState.applySignalAspect
  EngineState.applySignalLock EngineState.applyDerailerState EngineState.applyDerailerLock
  EngineState.applyBlockSectionState EngineState.applyBlockSectionDirection
  EngineState.applyBlockSectionAxleCount EngineState.addRoute EngineState.removeRoute
  EngineState.addAlarm EngineState.removeAlarm EngineState.applyOperatorCommandState
  EngineState.applyMl8CommandState EngineState.applyAxleCounterReset

theorem findSwitch_apply (s : EngineState) (c : DeviceStateChange) (u : UID) :
    (apply s c).findSwitch u = (s.findSwitch u).map (switchAfter u c) := by
  cases hFind : s.switches.find u <;> cases c
  case none.signalAspectChange | some.signalAspectChange =>
    simp only [apply]
    split <;> (try split) <;> simp [hFind, switchAfter]
  case none.derailerStateChange | some.derailerStateChange =>
    simp only [apply]
    split <;> (try split) <;> simp [hFind, switchAfter]
  case none.axleCounterResetChange uid kind | some.axleCounterResetChange uid kind =>
    cases kind <;> simp [apply, hFind, switchAfter]
  case none.operatorCommandStateChange uid kind _ _ | some.operatorCommandStateChange uid kind _ _ =>
    cases kind <;> simp [apply, hFind, find_modifyOperatorState_switches, switchAfter]
  case none.ml8CommandStateChange uid kind _ _ | some.ml8CommandStateChange uid kind _ _ =>
    cases kind <;> simp [apply, hFind, find_modifyOperatorState_switches, switchAfter]
  all_goals simp [apply, hFind, switchAfter]

theorem findSignal_apply (s : EngineState) (c : DeviceStateChange) (u : UID) :
    (apply s c).findSignal u = (s.findSignal u).map (signalAfter u c) := by
  cases hFind : s.signals.find u <;> cases c
  case none.signalAspectChange uid aspect cause routeUid | some.signalAspectChange uid aspect cause routeUid =>
    by_cases hu : u = uid <;> simp only [apply]
    all_goals split <;> (try split) <;> simp_all [signalAfter]
  case none.derailerStateChange | some.derailerStateChange =>
    simp only [apply]
    split <;> (try split) <;> simp [hFind, signalAfter]
  case none.axleCounterResetChange uid kind | some.axleCounterResetChange uid kind =>
    cases kind <;> simp [apply, hFind, signalAfter]
  case none.operatorCommandStateChange uid kind _ _ | some.operatorCommandStateChange uid kind _ _ =>
    cases kind <;> simp [apply, hFind, find_modifyOperatorState_signals, signalAfter]
  case none.ml8CommandStateChange uid kind _ _ | some.ml8CommandStateChange uid kind _ _ =>
    cases kind <;> simp [apply, hFind, find_modifyOperatorState_signals, signalAfter]
  all_goals simp [apply, hFind, signalAfter]

/-- What one change, applied at `tick`, does to the block section stored under `u`. -/
def blockAfter (tick : Nat) (u : UID) (c : DeviceStateChange) (bs : BlockSection) : BlockSection :=
  match c with
  | .blockSectionStateChange uid state => if u = uid then { bs with state := state } else bs
  | .blockDirectionChange uid dir _ =>
    if u = uid then
      { bs with direction := dir, resetInitTick := if dir = .resetPending then some tick else none }
    else bs
  | .axleCounterResetChange uid .blockSection => if u = uid then { bs with axleCount := 0 } else bs
  | .operatorCommandStateChange uid .blockSection code active =>
    if u = uid then { bs with operatorState := applyOperatorState bs.operatorState code active } else bs
  | .ml8CommandStateChange uid .blockSection code active =>
    if u = uid then
      { bs with
        operatorState := { bs.operatorState with activeMl8Command := if active then some code else none } }
    else bs
  | _ => bs

theorem find_modifyOperatorState_blockSections (s : EngineState) (uid : UID) (kind : OperatorTargetKind)
    (f : OperatorCommandRuntimeState → OperatorCommandRuntimeState) (u : UID) :
    (s.modifyOperatorState uid kind f).blockSections.find u = (s.blockSections.find u).map (fun bs =>
      if kind = .blockSection ∧ u = uid then { bs with operatorState := f bs.operatorState } else bs) := by
  cases kind
  case switch =>
    simp only [EngineState.modifyOperatorState]
    split <;> simp
  all_goals simp [EngineState.modifyOperatorState]

theorem findBlockSection_apply (s : EngineState) (c : DeviceStateChange) (u : UID) :
    (apply s c).findBlockSection u = (s.findBlockSection u).map (blockAfter s.currentTick u c) := by
  cases hFind : s.blockSections.find u <;> cases c
  case none.signalAspectChange | some.signalAspectChange =>
    simp only [apply]
    split <;> (try split) <;> simp [hFind, blockAfter]
  case none.derailerStateChange | some.derailerStateChange =>
    simp only [apply]
    split <;> (try split) <;> simp [hFind, blockAfter]
  case none.axleCounterResetChange uid kind | some.axleCounterResetChange uid kind =>
    cases kind <;> simp [apply, hFind, blockAfter]
  case none.operatorCommandStateChange uid kind _ _ | some.operatorCommandStateChange uid kind _ _ =>
    cases kind <;> simp [apply, hFind, find_modifyOperatorState_blockSections, blockAfter]
  case none.ml8CommandStateChange uid kind _ _ | some.ml8CommandStateChange uid kind _ _ =>
    cases kind <;> simp [apply, hFind, find_modifyOperatorState_blockSections, blockAfter]
  all_goals simp [apply, hFind, blockAfter]

def sectionAfter (u : UID) (c : DeviceStateChange) (ts : TrackSection) : TrackSection :=
  match c with
  | .trackSectionOccupancyChange uid occ axleCount _ =>
    if u = uid then { ts with occupancy := occ, axleCount := axleCount } else ts
  | .axleCounterResetChange uid .trackSection =>
    if u = uid then { ts with occupancy := .free, axleCount := 0 } else ts
  | .operatorCommandStateChange uid .trackSection code active =>
    if u = uid then { ts with operatorState := applyOperatorState ts.operatorState code active } else ts
  | .ml8CommandStateChange uid .trackSection code active =>
    if u = uid then
      { ts with
        operatorState := { ts.operatorState with activeMl8Command := if active then some code else none } }
    else ts
  | _ => ts

theorem find_modifyOperatorState_trackSections (s : EngineState) (uid : UID) (kind : OperatorTargetKind)
    (f : OperatorCommandRuntimeState → OperatorCommandRuntimeState) (u : UID) :
    (s.modifyOperatorState uid kind f).trackSections.find u = (s.trackSections.find u).map (fun ts =>
      if kind = .trackSection ∧ u = uid then { ts with operatorState := f ts.operatorState } else ts) := by
  cases kind
  case switch =>
    simp only [EngineState.modifyOperatorState]
    split <;> simp
  all_goals simp [EngineState.modifyOperatorState]

theorem findTrackSection_apply (s : EngineState) (c : DeviceStateChange) (u : UID) :
    (apply s c).findTrackSection u = (s.findTrackSection u).map (sectionAfter u c) := by
  cases hFind : s.trackSections.find u <;> cases c
  case none.signalAspectChange | some.signalAspectChange =>
    simp only [apply]
    split <;> (try split) <;> simp [hFind, sectionAfter]
  case none.derailerStateChange | some.derailerStateChange =>
    simp only [apply]
    split <;> (try split) <;> simp [hFind, sectionAfter]
  case none.axleCounterResetChange uid kind | some.axleCounterResetChange uid kind =>
    cases kind <;> simp [apply, hFind, sectionAfter]
  case none.operatorCommandStateChange uid kind _ _ | some.operatorCommandStateChange uid kind _ _ =>
    cases kind <;> simp [apply, hFind, find_modifyOperatorState_trackSections, sectionAfter]
  case none.ml8CommandStateChange uid kind _ _ | some.ml8CommandStateChange uid kind _ _ =>
    cases kind <;> simp [apply, hFind, find_modifyOperatorState_trackSections, sectionAfter]
  all_goals simp [apply, hFind, sectionAfter]

theorem currentTick_modifyOperatorState (s : EngineState) (uid : UID) (kind : OperatorTargetKind)
    (f : OperatorCommandRuntimeState → OperatorCommandRuntimeState) :
    (s.modifyOperatorState uid kind f).currentTick = s.currentTick := by
  cases kind
  case switch =>
    simp only [EngineState.modifyOperatorState]
    split <;> rfl
  all_goals rfl

@[simp] theorem currentTick_apply (s : EngineState) (c : DeviceStateChange) :
    (apply s c).currentTick = s.currentTick := by
  cases c
  case operatorCommandStateChange | ml8CommandStateChange => exact currentTick_modifyOperatorState _ _ _ _
  case signalAspectChange | derailerStateChange =>
    simp only [apply]
    split <;> (try split) <;> rfl
  case axleCounterResetChange uid kind => cases kind <;> rfl
  all_goals rfl

def derailerHeld (s : EngineState) (u : UID) : Option (DerailerState × Option UID) :=
  (s.findDerailer u).map (fun d => (d.state, d.lockedByRouteUid))

theorem derailerHeld_modifyOperatorState (s : EngineState) (uid : UID) (kind : OperatorTargetKind)
    (f : OperatorCommandRuntimeState → OperatorCommandRuntimeState) (u : UID) :
    derailerHeld (s.modifyOperatorState uid kind f) u = derailerHeld s u := by
  cases kind
  case switch =>
    simp only [derailerHeld, EngineState.findDerailer, EngineState.modifyOperatorState]
    split
    · rfl
    · rw [KeyedMap.map_find_modify]
      intro d
      rfl
  case derailer =>
    simp only [derailerHeld, EngineState.findDerailer, EngineState.modifyOperatorState]
    rw [KeyedMap.map_find_modify]
    intro d
    rfl
  all_goals rfl

theorem derailerHeld_apply (s : EngineState) (c : DeviceStateChange) (u : UID) :
    derailerHeld (apply s c) u = (derailerHeld s u).map (derailerAfter u c) := by
  cases hFind : s.derailers.find u <;> cases c
  case none.operatorCommandStateChange | some.operatorCommandStateChange | none.ml8CommandStateChange
      | some.ml8CommandStateChange =>
    simp only [apply, EngineState.applyOperatorCommandState, EngineState.applyMl8CommandState,
      derailerHeld_modifyOperatorState]
    simp [derailerHeld, hFind, derailerAfter]
  case none.signalAspectChange | some.signalAspectChange =>
    simp only [apply]
    split <;> (try split) <;> simp [derailerHeld, hFind, derailerAfter]
  case none.derailerStateChange uid _ _ _ | some.derailerStateChange uid _ _ _ =>
    by_cases hu : u = uid <;> simp only [apply]
    all_goals split <;> (try split) <;> simp_all [derailerHeld, derailerAfter]
  case none.axleCounterResetChange uid kind | some.axleCounterResetChange uid kind =>
    cases kind <;> simp [apply, derailerHeld, hFind, derailerAfter]
  all_goals simp [apply, derailerHeld, hFind, derailerAfter]

def routeAfter (u : UID) (held : Option RouteState) : DeviceStateChange → Option RouteState
  | .routeAdded route => held.or (if route.uid = u then some route else none)
  | .routeRemoved routeUid _ => if u = routeUid then none else held
  | .routeOverlapTimerStarted routeUid releaseTick =>
    held.map (fun r => if u = routeUid then { r with overlapReleaseTick := some releaseTick } else r)
  | _ => held

def writesRoutes : DeviceStateChange → Bool
  | .routeAdded _ | .routeRemoved _ _ | .routeOverlapTimerStarted _ _ => true
  | _ => false

theorem routes_modifyOperatorState (s : EngineState) (uid : UID) (kind : OperatorTargetKind)
    (f : OperatorCommandRuntimeState → OperatorCommandRuntimeState) :
    (s.modifyOperatorState uid kind f).routes = s.routes := by
  cases kind
  case switch =>
    simp only [EngineState.modifyOperatorState]
    split <;> rfl
  all_goals rfl

theorem routes_apply_of_silent {c : DeviceStateChange} (h : writesRoutes c = false) (s : EngineState) :
    (apply s c).routes = s.routes := by
  cases c
  case operatorCommandStateChange | ml8CommandStateChange => exact routes_modifyOperatorState _ _ _ _
  case signalAspectChange | derailerStateChange =>
    simp only [apply]
    split <;> (try split) <;> rfl
  case axleCounterResetChange uid kind => cases kind <;> rfl
  case routeAdded | routeRemoved | routeOverlapTimerStarted => cases h
  all_goals rfl

theorem findRoute_apply (s : EngineState) (c : DeviceStateChange) (u : UID) :
    (apply s c).findRoute u = routeAfter u (s.findRoute u) c := by
  cases hWrites : writesRoutes c with
  | false =>
    rw [EngineState.findRoute, routes_apply_of_silent hWrites]
    cases c <;> first | rfl | cases hWrites
  | true =>
    cases c
    case routeAdded route => exact KeyedMap.find_emplace s.routes route u
    case routeRemoved routeUid reason => exact KeyedMap.find_erase s.routes routeUid u
    case routeOverlapTimerStarted routeUid tick =>
      exact KeyedMap.find_modify s.routes routeUid u
        (fun r => { r with overlapReleaseTick := some tick }) (fun _ => rfl)
    all_goals cases hWrites

end Devices

theorem findRoute_applyAll (s : EngineState) (cs : List DeviceStateChange) (u : UID) :
    (applyAll s cs).findRoute u = cs.foldl (routeAfter u) (s.findRoute u) := by
  induction cs generalizing s with
  | nil => rfl
  | cons c cs ih => rw [applyAll_cons, ih, findRoute_apply, List.foldl_cons]

@[simp] theorem currentTick_applyAll (s : EngineState) (cs : List DeviceStateChange) :
    (applyAll s cs).currentTick = s.currentTick := by
  induction cs generalizing s with
  | nil => rfl
  | cons c cs ih => rw [applyAll_cons, ih, currentTick_apply]

theorem routes_applyAll_of_silent {cs : List DeviceStateChange} (h : ∀ c ∈ cs, writesRoutes c = false)
    (s : EngineState) : (applyAll s cs).routes = s.routes := by
  induction cs generalizing s with
  | nil => rfl
  | cons c cs ih =>
    rw [applyAll_cons, ih (fun c' hc' => h c' (List.mem_cons_of_mem _ hc')),
      routes_apply_of_silent (h c List.mem_cons_self)]

/-! ## Registers -/

def switchLockWrite (u : UID) : DeviceStateChange → Option (Option UID)
  | .switchLocked uid routeUid => if u = uid then some (some routeUid) else none
  | .switchUnlocked uid _ => if u = uid then some none else none
  | _ => none

def switchPositionWrite (u : UID) : DeviceStateChange → Option SwitchPosition
  | .switchPositionChange uid pos _ _ => if u = uid then some pos else none
  | _ => none

/-- A switch machine: the position of the switch, and the ticks for which it is still in motion. -/
def switchMachineWrite (u : UID) : DeviceStateChange → Option (SwitchPosition × Int)
  | .switchPositionChange uid pos _ movingTicks => if u = uid then some (pos, movingTicks) else none
  | _ => none

def signalLockWrite (u : UID) : DeviceStateChange → Option (Option UID)
  | .signalAspectChange uid aspect _ routeUid =>
    if u = uid then
      if routeUid.isSome then some routeUid else if aspect.isStop then some none else none
    else none
  | _ => none

def signalAspectWrite (u : UID) : DeviceStateChange → Option SignalAspect
  | .signalAspectChange uid aspect _ _ => if u = uid then some aspect else none
  | _ => none

def derailerStateWrite (u : UID) : DeviceStateChange → Option DerailerState
  | .derailerStateChange uid state _ _ => if u = uid then some state else none
  | _ => none

def derailerLockWrite (u : UID) : DeviceStateChange → Option (Option UID)
  | .derailerStateChange uid state _ routeUid =>
    if u = uid then
      if routeUid.isSome then some routeUid else if state = .locked then some none else none
    else none
  | _ => none

def blockAxleCountWrite (u : UID) : DeviceStateChange → Option Int
  | .axleCounterResetChange uid .blockSection => if u = uid then some 0 else none
  | _ => none

def blockDirectionWrite (u : UID) : DeviceStateChange → Option BlockDirectionState
  | .blockDirectionChange uid dir _ => if u = uid then some dir else none
  | _ => none

def sectionOccupancyWrite (u : UID) : DeviceStateChange → Option (TrackOccupancy × Int)
  | .trackSectionOccupancyChange uid occ axleCount _ => if u = uid then some (occ, axleCount) else none
  | .axleCounterResetChange uid .trackSection => if u = uid then some (.free, 0) else none
  | _ => none

theorem switchAfter_lockedByRouteUid (u : UID) (c : DeviceStateChange) (sw : Switch) :
    (switchAfter u c sw).lockedByRouteUid = (switchLockWrite u c).getD sw.lockedByRouteUid := by
  unfold switchAfter
  split <;> simp only [switchLockWrite] <;> first | rfl | (split <;> rfl)

theorem switchAfter_position (u : UID) (c : DeviceStateChange) (sw : Switch) :
    (switchAfter u c sw).position = (switchPositionWrite u c).getD sw.position := by
  unfold switchAfter
  split <;> simp only [switchPositionWrite] <;> first | rfl | (split <;> rfl)

theorem switchAfter_machine (u : UID) (c : DeviceStateChange) (sw : Switch) :
    ((switchAfter u c sw).position, (switchAfter u c sw).movingTicksRemaining) =
      (switchMachineWrite u c).getD (sw.position, sw.movingTicksRemaining) := by
  unfold switchAfter
  split <;> simp only [switchMachineWrite] <;> first | rfl | (split <;> rfl)

theorem signalAfter_lockedByRouteUid (u : UID) (c : DeviceStateChange) (sig : Signal) :
    (signalAfter u c sig).lockedByRouteUid = (signalLockWrite u c).getD sig.lockedByRouteUid := by
  unfold signalAfter
  split
  case h_1 uid aspect cause routeUid =>
    simp only [signalLockWrite]
    split
    · cases routeUid with
      | some r => rfl
      | none => cases aspect.isStop <;> simp
    · rfl
  all_goals
    simp only [signalLockWrite]
    first | rfl | (split <;> rfl)

theorem signalAfter_currentAspect (u : UID) (c : DeviceStateChange) (sig : Signal) :
    (signalAfter u c sig).currentAspect = (signalAspectWrite u c).getD sig.currentAspect := by
  unfold signalAfter
  split <;> simp only [signalAspectWrite] <;> first | rfl | (split <;> rfl)

def switchLock (u : UID) : Register EngineState DeviceStateChange apply (Option UID) where
  read s := (s.findSwitch u).map (·.lockedByRouteUid)
  write := switchLockWrite u
  read_apply s c := by
    rw [findSwitch_apply, Option.map_map, Option.map_map]
    exact congrArg (fun f => Option.map f (s.findSwitch u)) (funext (switchAfter_lockedByRouteUid u c))

def switchPosition (u : UID) : Register EngineState DeviceStateChange apply SwitchPosition where
  read s := (s.findSwitch u).map (·.position)
  write := switchPositionWrite u
  read_apply s c := by
    rw [findSwitch_apply, Option.map_map, Option.map_map]
    exact congrArg (fun f => Option.map f (s.findSwitch u)) (funext (switchAfter_position u c))

def switchMachine (u : UID) : Register EngineState DeviceStateChange apply (SwitchPosition × Int) where
  read s := (s.findSwitch u).map fun sw => (sw.position, sw.movingTicksRemaining)
  write := switchMachineWrite u
  read_apply s c := by
    rw [findSwitch_apply, Option.map_map, Option.map_map]
    exact congrArg (fun f => Option.map f (s.findSwitch u)) (funext (switchAfter_machine u c))

def signalLock (u : UID) : Register EngineState DeviceStateChange apply (Option UID) where
  read s := (s.findSignal u).map (·.lockedByRouteUid)
  write := signalLockWrite u
  read_apply s c := by
    rw [findSignal_apply, Option.map_map, Option.map_map]
    exact congrArg (fun f => Option.map f (s.findSignal u)) (funext (signalAfter_lockedByRouteUid u c))

def signalAspect (u : UID) : Register EngineState DeviceStateChange apply SignalAspect where
  read s := (s.findSignal u).map (·.currentAspect)
  write := signalAspectWrite u
  read_apply s c := by
    rw [findSignal_apply, Option.map_map, Option.map_map]
    exact congrArg (fun f => Option.map f (s.findSignal u)) (funext (signalAfter_currentAspect u c))

theorem derailerAfter_eq (u : UID) (c : DeviceStateChange) (held : DerailerState × Option UID) :
    derailerAfter u c held = ((derailerStateWrite u c).getD held.1, (derailerLockWrite u c).getD held.2) := by
  cases c
  case derailerStateChange uid state cause routeUid =>
    simp only [derailerAfter, derailerStateWrite, derailerLockWrite]
    split <;> (try split) <;> (try split) <;> rfl
  all_goals rfl

def derailerState (u : UID) : Register EngineState DeviceStateChange apply DerailerState where
  read s := (derailerHeld s u).map Prod.fst
  write := derailerStateWrite u
  read_apply s c := by
    rw [derailerHeld_apply, Option.map_map, Option.map_map]
    congr 1
    funext held
    simp [derailerAfter_eq]

def derailerLock (u : UID) : Register EngineState DeviceStateChange apply (Option UID) where
  read s := (derailerHeld s u).map Prod.snd
  write := derailerLockWrite u
  read_apply s c := by
    rw [derailerHeld_apply, Option.map_map, Option.map_map]
    congr 1
    funext held
    simp [derailerAfter_eq]

theorem blockAfter_axleCount (tick : Nat) (u : UID) (c : DeviceStateChange) (bs : BlockSection) :
    (blockAfter tick u c bs).axleCount = (blockAxleCountWrite u c).getD bs.axleCount := by
  unfold blockAfter
  split <;> simp only [blockAxleCountWrite] <;> first | rfl | (split <;> rfl)

def blockAxleCount (u : UID) : Register EngineState DeviceStateChange apply Int where
  read s := (s.findBlockSection u).map (·.axleCount)
  write := blockAxleCountWrite u
  read_apply s c := by
    rw [findBlockSection_apply, Option.map_map, Option.map_map]
    exact congrArg (fun f => Option.map f (s.findBlockSection u))
      (funext (blockAfter_axleCount s.currentTick u c))

theorem sectionAfter_occupancy (u : UID) (c : DeviceStateChange) (ts : TrackSection) :
    ((sectionAfter u c ts).occupancy, (sectionAfter u c ts).axleCount) =
      (sectionOccupancyWrite u c).getD (ts.occupancy, ts.axleCount) := by
  unfold sectionAfter
  split <;> simp only [sectionOccupancyWrite] <;> first | rfl | (split <;> rfl)

def sectionOccupancy (u : UID) : Register EngineState DeviceStateChange apply (TrackOccupancy × Int) where
  read s := (s.findTrackSection u).map fun ts => (ts.occupancy, ts.axleCount)
  write := sectionOccupancyWrite u
  read_apply s c := by
    rw [findTrackSection_apply, Option.map_map, Option.map_map]
    exact congrArg (fun f => Option.map f (s.findTrackSection u)) (funext (sectionAfter_occupancy u c))

/-! ## The direction of a block section -/

/-- The direction of a block section and the tick its axle counter reset began, where there is one. -/
def blockHeld (s : EngineState) (u : UID) : Option (BlockDirectionState × Option Nat) :=
  (s.findBlockSection u).map (fun bs => (bs.direction, bs.resetInitTick))

/-- What a block section holds once it has been turned in a direction at `tick`. -/
def turned (tick : Nat) (dir : BlockDirectionState) : BlockDirectionState × Option Nat :=
  (dir, if dir = .resetPending then some tick else none)

theorem blockHeld_of_find {s : EngineState} {u : UID} {bs : BlockSection} (h : s.findBlockSection u = some bs) :
    blockHeld s u = some (bs.direction, bs.resetInitTick) := by
  rw [blockHeld, h]
  rfl

theorem blockAfter_held (tick : Nat) (u : UID) (c : DeviceStateChange) (bs : BlockSection) :
    ((blockAfter tick u c bs).direction, (blockAfter tick u c bs).resetInitTick) =
      ((blockDirectionWrite u c).map (turned tick)).getD (bs.direction, bs.resetInitTick) := by
  unfold blockAfter
  split <;> simp only [blockDirectionWrite] <;> first | rfl | (split <;> rfl)

theorem blockHeld_apply (s : EngineState) (c : DeviceStateChange) (u : UID) :
    blockHeld (apply s c) u = (blockHeld s u).map (fun held =>
      ((blockDirectionWrite u c).map (turned s.currentTick)).getD held) := by
  rw [blockHeld, blockHeld, findBlockSection_apply, Option.map_map, Option.map_map]
  exact congrArg (fun f => Option.map f (s.findBlockSection u)) (funext (blockAfter_held s.currentTick u c))

theorem blockHeld_applyAll (s : EngineState) (cs : List DeviceStateChange) (u : UID) :
    blockHeld (applyAll s cs) u = (blockHeld s u).map (fun held =>
      lastWrite (fun c => (blockDirectionWrite u c).map (turned s.currentTick)) held cs) := by
  induction cs generalizing s with
  | nil => simp
  | cons c cs ih =>
    rw [applyAll_cons, ih, blockHeld_apply, Option.map_map, currentTick_apply]
    rfl

section Read

variable {s : EngineState} {u : UID}

theorem switchLock_of_find {sw : Switch} (h : s.findSwitch u = some sw) :
    (switchLock u).read s = some sw.lockedByRouteUid := by
  simp [switchLock, h]

theorem switchPosition_of_find {sw : Switch} (h : s.findSwitch u = some sw) :
    (switchPosition u).read s = some sw.position := by
  simp [switchPosition, h]

theorem signalLock_of_find {sig : Signal} (h : s.findSignal u = some sig) :
    (signalLock u).read s = some sig.lockedByRouteUid := by
  simp [signalLock, h]

theorem signalAspect_of_find {sig : Signal} (h : s.findSignal u = some sig) :
    (signalAspect u).read s = some sig.currentAspect := by
  simp [signalAspect, h]

theorem derailerHeld_of_find {d : Derailer} (h : s.findDerailer u = some d) :
    derailerHeld s u = some (d.state, d.lockedByRouteUid) := by
  rw [derailerHeld, h]
  rfl

theorem derailerState_of_find {d : Derailer} (h : s.findDerailer u = some d) :
    (derailerState u).read s = some d.state := congrArg (Option.map Prod.fst) (derailerHeld_of_find h)

theorem derailerLock_of_find {d : Derailer} (h : s.findDerailer u = some d) :
    (derailerLock u).read s = some d.lockedByRouteUid :=
  congrArg (Option.map Prod.snd) (derailerHeld_of_find h)

end Read

end Symulator.Engine
