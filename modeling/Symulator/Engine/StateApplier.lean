import Symulator.Engine.EngineState
import Symulator.Library.Register

/-! # Device state changes and their application -/

namespace Symulator.Engine

open Symulator.Library

set_option autoImplicit false

inductive DeviceStateChange
  | signalAspectChange (uid : UID) (newAspect : SignalAspect) (cause : ChangeCause) (routeUid : Option UID)
  | switchPositionChange (uid : UID) (newPosition : SwitchPosition) (cause : ChangeCause)
      (movingTicksRemaining : Int)
  | switchLocked (switchUid routeUid : UID)
  | switchUnlocked (switchUid routeUid : UID)
  | derailerStateChange (uid : UID) (newState : DerailerState) (cause : ChangeCause)
      (routeUid : Option UID)
  | blockSectionStateChange (uid : UID) (newState : BlockSectionState)
  | trackSectionOccupancyChange (uid : UID) (occupancy : TrackOccupancy) (axleCount : Int)
      (trainUid : UID)
  | blockDirectionChange (uid : UID) (newDirection : BlockDirectionState)
      (requiresNeighborConfirmation : Bool)
  | axleCounterResetChange (uid : UID) (targetKind : OperatorTargetKind)
  | operatorCommandStateChange (uid : UID) (targetKind : OperatorTargetKind)
      (code : OperatorCommandCode) (active : Bool)
  | ml8CommandStateChange (uid : UID) (targetKind : OperatorTargetKind) (code : Ml8CommandCode)
      (active : Bool)
  | routeAdded (route : RouteState)
  | routeRemoved (routeUid : UID) (reason : String)
  | alarmRaised (alarm : AlarmState)
  | alarmCleared (alarmUid : UID)
  | routeOverlapTimerStarted (routeUid : UID) (releaseTick : Nat)
  | emergencyRouteReleaseExecuted (routeUid : UID)
  | levelCrossingStateChange (crossingUid : UID) (status : LevelCrossingStatus)
  | switchControlStateChange (switchUid : UID) (controlLost : Bool)

structure InterlockingViolation where
  reasonCode : Nat
  reasonText : String
  offendingUid : UID
deriving DecidableEq

def apply (s : EngineState) : DeviceStateChange → EngineState
  | .signalAspectChange uid aspect _ routeUid =>
    let s' := s.applySignalAspect uid aspect
    if routeUid.isSome then s'.applySignalLock uid routeUid
    else if aspect.isStop then s'.applySignalLock uid none
    else s'
  | .switchPositionChange uid pos _ movingTicks => s.applySwitchPosition uid pos movingTicks
  | .switchLocked uid routeUid => s.applySwitchLock uid (some routeUid)
  | .switchUnlocked uid _ => s.applySwitchLock uid none
  | .derailerStateChange uid state _ routeUid =>
    let s' := s.applyDerailerState uid state
    if routeUid.isSome then s'.applyDerailerLock uid routeUid
    else if state = .locked then s'.applyDerailerLock uid none
    else s'
  | .blockSectionStateChange uid state => s.applyBlockSectionState uid state
  | .trackSectionOccupancyChange uid occ axleCount _ => s.applyTrackSectionOccupancy uid occ axleCount
  | .blockDirectionChange uid dir _ => s.applyBlockSectionDirection uid dir
  | .axleCounterResetChange uid targetKind => s.applyAxleCounterReset uid targetKind
  | .operatorCommandStateChange uid targetKind code active =>
    s.applyOperatorCommandState uid targetKind code active
  | .ml8CommandStateChange uid targetKind code active => s.applyMl8CommandState uid targetKind code active
  | .routeAdded route => s.addRoute route
  | .routeRemoved routeUid _ => s.removeRoute routeUid
  | .alarmRaised alarm => s.addAlarm alarm
  | .alarmCleared alarmUid => s.removeAlarm alarmUid
  | .routeOverlapTimerStarted routeUid releaseTick =>
    { s with
      routes := s.routes.modify routeUid
        (fun r => { r with overlapReleaseTick := some releaseTick }) }
  | .emergencyRouteReleaseExecuted _ => s
  | .levelCrossingStateChange uid status => s.applyLevelCrossingStatus uid status
  | .switchControlStateChange uid controlLost => s.applySwitchControl uid controlLost

def applyAll (s : EngineState) (changes : List DeviceStateChange) : EngineState :=
  changes.foldl apply s

@[simp] theorem applyAll_nil (s : EngineState) : applyAll s [] = s := rfl

@[simp] theorem applyAll_cons (s : EngineState) (c : DeviceStateChange) (cs : List DeviceStateChange) :
    applyAll s (c :: cs) = applyAll (apply s c) cs := rfl

theorem applyAll_append (s : EngineState) (cs cs' : List DeviceStateChange) :
    applyAll s (cs ++ cs') = applyAll (applyAll s cs) cs' := List.foldl_append

end Symulator.Engine
