import Symulator.Engine.TrackModel

/-! # Mutable engine state

The device maps of one session and the mutators the applier uses. Every mutator looks its device
up and does nothing when there is none.
-/

namespace Symulator.Engine

open Symulator.Library

set_option autoImplicit false

structure EngineState where
  sessionId : String := ""
  currentTick : Nat := 0
  boundaryNodes : KeyedMap UID BoundaryNode := .empty
  trackSections : KeyedMap UID TrackSection := .empty
  switches : KeyedMap UID Switch := .empty
  signals : KeyedMap UID Signal := .empty
  derailers : KeyedMap UID Derailer := .empty
  blockSections : KeyedMap UID BlockSection := .empty
  routes : KeyedMap UID RouteState := .empty
  alarms : KeyedMap UID AlarmState := .empty
  levelCrossings : KeyedMap UID LevelCrossing := .empty

namespace EngineState

def findBoundaryNode (s : EngineState) (uid : UID) : Option BoundaryNode := s.boundaryNodes.find uid
def findTrackSection (s : EngineState) (uid : UID) : Option TrackSection := s.trackSections.find uid
def findSwitch (s : EngineState) (uid : UID) : Option Switch := s.switches.find uid
def findSignal (s : EngineState) (uid : UID) : Option Signal := s.signals.find uid
def findDerailer (s : EngineState) (uid : UID) : Option Derailer := s.derailers.find uid
def findBlockSection (s : EngineState) (uid : UID) : Option BlockSection := s.blockSections.find uid
def findRoute (s : EngineState) (uid : UID) : Option RouteState := s.routes.find uid
def findAlarm (s : EngineState) (uid : UID) : Option AlarmState := s.alarms.find uid

def setSessionId (s : EngineState) (id : String) : EngineState := { s with sessionId := id }
def setCurrentTick (s : EngineState) (tick : Nat) : EngineState := { s with currentTick := tick }

def insertBoundaryNode (s : EngineState) (n : BoundaryNode) : EngineState :=
  { s with boundaryNodes := s.boundaryNodes.emplace n }

def insertTrackSection (s : EngineState) (ts : TrackSection) : EngineState :=
  { s with trackSections := s.trackSections.emplace ts }

def insertSwitch (s : EngineState) (sw : Switch) : EngineState :=
  { s with switches := s.switches.emplace sw }

def insertSignal (s : EngineState) (sig : Signal) : EngineState :=
  { s with signals := s.signals.emplace sig }

def insertDerailer (s : EngineState) (d : Derailer) : EngineState :=
  { s with derailers := s.derailers.emplace d }

def insertBlockSection (s : EngineState) (b : BlockSection) : EngineState :=
  { s with blockSections := s.blockSections.emplace b }

def insertLevelCrossing (s : EngineState) (lx : LevelCrossing) : EngineState :=
  { s with levelCrossings := s.levelCrossings.emplace lx }

def applyTrackSectionOccupancy (s : EngineState) (uid : UID) (occ : TrackOccupancy) (axleCount : Int) :
    EngineState :=
  { s with
    trackSections := s.trackSections.modify uid
      (fun ts => { ts with occupancy := occ, axleCount := axleCount }) }

def applyLevelCrossingStatus (s : EngineState) (uid : UID) (status : LevelCrossingStatus) : EngineState :=
  { s with
    levelCrossings := s.levelCrossings.modify uid
      (fun lx => { lx with
        status := status
        warningStartTick := if status = .warning then some s.currentTick else none }) }

def applySwitchPosition (s : EngineState) (uid : UID) (pos : SwitchPosition) (movingTicks : Int) :
    EngineState :=
  { s with
    switches := s.switches.modify uid
      (fun sw => { sw with position := pos, movingTicksRemaining := movingTicks }) }

def applySwitchControl (s : EngineState) (uid : UID) (controlLost : Bool) : EngineState :=
  { s with switches := s.switches.modify uid fun sw => { sw with controlLost := controlLost } }

def applySwitchLock (s : EngineState) (uid : UID) (routeUid : Option UID) : EngineState :=
  { s with switches := s.switches.modify uid fun sw => { sw with lockedByRouteUid := routeUid } }

def applySwitchOccupancy (s : EngineState) (uid : UID) (occ : TrackOccupancy) (axleCount : Int) :
    EngineState :=
  { s with
    switches := s.switches.modify uid
      (fun sw => { sw with occupancy := occ, axleCount := axleCount }) }

def applySignalAspect (s : EngineState) (uid : UID) (aspect : SignalAspect) : EngineState :=
  { s with signals := s.signals.modify uid fun sig => { sig with currentAspect := aspect } }

def applySignalLock (s : EngineState) (uid : UID) (routeUid : Option UID) : EngineState :=
  { s with signals := s.signals.modify uid fun sig => { sig with lockedByRouteUid := routeUid } }

def applyDerailerState (s : EngineState) (uid : UID) (state : DerailerState) : EngineState :=
  { s with derailers := s.derailers.modify uid fun d => { d with state := state } }

def applyDerailerLock (s : EngineState) (uid : UID) (routeUid : Option UID) : EngineState :=
  { s with derailers := s.derailers.modify uid fun d => { d with lockedByRouteUid := routeUid } }

def applyBlockSectionState (s : EngineState) (uid : UID) (state : BlockSectionState) : EngineState :=
  { s with blockSections := s.blockSections.modify uid fun b => { b with state := state } }

def applyBlockSectionDirection (s : EngineState) (uid : UID) (dir : BlockDirectionState) : EngineState :=
  { s with
    blockSections := s.blockSections.modify uid
      (fun b => { b with
        direction := dir
        resetInitTick := if dir = .resetPending then some s.currentTick else none }) }

def applyBlockSectionAxleCount (s : EngineState) (uid : UID) (axleCount : Int) : EngineState :=
  { s with blockSections := s.blockSections.modify uid fun b => { b with axleCount := axleCount } }

def addRoute (s : EngineState) (route : RouteState) : EngineState :=
  { s with routes := s.routes.emplace route }

def removeRoute (s : EngineState) (routeUid : UID) : EngineState :=
  { s with routes := s.routes.erase routeUid }

def addAlarm (s : EngineState) (alarm : AlarmState) : EngineState :=
  { s with alarms := s.alarms.emplace alarm }

def removeAlarm (s : EngineState) (alarmUid : UID) : EngineState :=
  { s with alarms := s.alarms.erase alarmUid }

end EngineState

def applyOperatorState (state : OperatorCommandRuntimeState) (code : OperatorCommandCode) (active : Bool) :
    OperatorCommandRuntimeState :=
  match code with
  | .ses => { state with stopped := active }
  | .seo => { state with stopped := false }
  | .szi => { state with substituteInitialized := active, specialInitialized := active }
  | .szw | .szn =>
    { state with substituteInitialized := false, substituteActive := active, specialActive := active }
  | .szo =>
    { state with
      substituteInitialized := false
      substituteActive := false
      specialInitialized := false
      specialActive := false }
  | .sam => { state with automaticRouteEnabled := active }
  | .saw => { state with automaticRouteEnabled := false }
  | .zws => { state with clamped := active }
  | .zwo => { state with clamped := false }
  | .its | .bls => { state with trafficClosed := active }
  | .ito | .ost => { state with trafficClosed := false }
  | .zwb => { state with detectionBypassed := active }
  | .zbp | .zbm => { state with detectionBypassed := false }
  | .zri | .blai | .zkb | .zesi | .pzzi | .dpoi | .dkoi | .dkpi | .dpwi | .pdii | .pzai | .upai =>
    { state with specialInitialized := active }
  | .zrk | .bla | .zes | .pzz | .dpo | .dko | .dkp | .dpw | .pdi | .pza | .pzm =>
    { state with specialInitialized := false, specialActive := active }
  | .ops | .ozk | .bto | .pdo | .upao | .zso =>
    { state with specialInitialized := false, specialActive := false, axleResetInitialized := false }
  | .sli => { state with axleResetInitialized := active, specialInitialized := active }
  | .slk => { state with axleResetInitialized := false, specialInitialized := false }
  | _ => { state with specialActive := active }

namespace EngineState

/-- Rewrite the operator state of the device that a target kind and a UID name. A switch command
falls back to the derailer of that UID. -/
def modifyOperatorState (s : EngineState) (uid : UID) (targetKind : OperatorTargetKind)
    (f : OperatorCommandRuntimeState → OperatorCommandRuntimeState) : EngineState :=
  match targetKind with
  | .signal =>
    { s with signals := s.signals.modify uid fun x => { x with operatorState := f x.operatorState } }
  | .switch =>
    if (s.switches.find uid).isSome then
      { s with switches := s.switches.modify uid fun x => { x with operatorState := f x.operatorState } }
    else
      { s with derailers := s.derailers.modify uid fun x => { x with operatorState := f x.operatorState } }
  | .derailer =>
    { s with derailers := s.derailers.modify uid fun x => { x with operatorState := f x.operatorState } }
  | .trackSection =>
    { s with
      trackSections := s.trackSections.modify uid
        (fun x => { x with operatorState := f x.operatorState }) }
  | .blockSection =>
    { s with
      blockSections := s.blockSections.modify uid
        (fun x => { x with operatorState := f x.operatorState }) }
  | .axleCounterSystem | .station | .route | .levelCrossing | .interlockingComputer | .powerSupply => s

def applyOperatorCommandState (s : EngineState) (uid : UID) (targetKind : OperatorTargetKind)
    (code : OperatorCommandCode) (active : Bool) : EngineState :=
  s.modifyOperatorState uid targetKind fun state => applyOperatorState state code active

def applyMl8CommandState (s : EngineState) (uid : UID) (targetKind : OperatorTargetKind)
    (code : Ml8CommandCode) (active : Bool) : EngineState :=
  s.modifyOperatorState uid targetKind
    fun state => { state with activeMl8Command := if active then some code else none }

def applyAxleCounterReset (s : EngineState) (uid : UID) (targetKind : OperatorTargetKind) : EngineState :=
  match targetKind with
  | .switch => s.applySwitchOccupancy uid .free 0
  | .trackSection => s.applyTrackSectionOccupancy uid .free 0
  | .blockSection => s.applyBlockSectionAxleCount uid 0
  | _ => s

end EngineState

end Symulator.Engine
