import Symulator.Engine.StateApplier
import Symulator.Server.Frame

/-! # Domain events

The dispatch bus turns the changes of a tick into domain events and broadcasts one frame for each. An event
is the FlatBuffers table of `events.fbs`; its enumerations are the numbers written on the wire, most of them
the engine's own.
-/

namespace Symulator.Server

open Symulator.Library Symulator.Engine

set_option autoImplicit false

inductive DomainEvent
  | switchPositionChanged (uid : UID) (newPosition cause : Nat)
  | signalAspectChanged (uid : UID) (newAspect cause : Nat)
  | trackSectionOccupancyChanged (uid : UID) (occupied : Bool) (axleCount : Int) (trainUid : UID)
  | derailerPositionChanged (uid : UID) (newPosition cause : Nat)
  | blockSectionStateChanged (uid : UID) (newState : Nat)
  | routeSet (uid fromSignalUid toSignalUid : UID) (sectionUids : List UID)
  | routeReleased (routeUid : UID) (reason : Nat)
  | alarmRaised (alarmUid : UID) (alarmType : Nat) (objectUid : UID) (message : String)
  | alarmCleared (alarmUid : UID)
  | blockDirectionStateChanged (uid : UID) (newDirection cause : Nat)
  | operatorCommandStateChanged (uid : UID) (targetKind commandCode : Nat) (active : Bool)
  | ml8CommandStateChanged (uid : UID) (targetKind commandCode : Nat) (active : Bool)
deriving DecidableEq

def DomainEvent.eventType : DomainEvent → Byte
  | .switchPositionChanged .. => 0x01
  | .signalAspectChanged .. => 0x03
  | .trackSectionOccupancyChanged .. => 0x04
  | .derailerPositionChanged .. => 0x05
  | .blockSectionStateChanged .. => 0x06
  | .routeSet .. => 0x07
  | .routeReleased .. => 0x08
  | .alarmRaised .. => 0x0A
  | .alarmCleared .. => 0x0B
  | .blockDirectionStateChanged .. => 0x10
  | .operatorCommandStateChanged .. => 0x11
  | .ml8CommandStateChanged .. => 0x12

def toProtoDerailer (state : DerailerState) : Nat := if state = .locked then 0 else 1

/-- The numbers of the open and the closed state are exchanged on the wire. -/
def toProtoBlockSection (state : BlockSectionState) : Nat := if state = .closed then 1 else 0

def toProtoDirection (direction : BlockDirectionState) : Nat := direction.ctorIdx

def toProtoCause (cause : ChangeCause) : Nat := cause.ctorIdx

def toProtoReleaseReason (reason : String) : Nat :=
  if reason = "OPERATOR_CANCEL" then 1
  else if reason = "TIMEOUT" then 2
  else if reason = "CONFLICT" then 3
  else 0

def eventAlarmType (kind : String) : Nat :=
  if kind = "SWITCH_FAILURE" then 1
  else if kind = "SIGNAL_FAILURE" then 2
  else if kind = "DERAILER_CONFLICT" then 3
  else if kind = "COMMS_FAILURE" then 4
  else if kind = "ENGINE_FAULT" then 5
  else 0

/-- The event of a change, when there is one. A lock taken or given up is told as a switch lying straight. -/
def makeEvent : DeviceStateChange → Option DomainEvent
  | .signalAspectChange uid newAspect cause _ =>
    some (.signalAspectChanged uid newAspect.ctorIdx (toProtoCause cause))
  | .switchPositionChange uid newPosition cause _ =>
    some (.switchPositionChanged uid newPosition.ctorIdx (toProtoCause cause))
  | .switchLocked switchUid _ | .switchUnlocked switchUid _ =>
    some (.switchPositionChanged switchUid 0 1)
  | .derailerStateChange uid newState cause _ =>
    some (.derailerPositionChanged uid (toProtoDerailer newState) (toProtoCause cause))
  | .trackSectionOccupancyChange uid occupancy axleCount trainUid =>
    some (.trackSectionOccupancyChanged uid (occupancy = .occupied) axleCount trainUid)
  | .blockSectionStateChange uid newState => some (.blockSectionStateChanged uid (toProtoBlockSection newState))
  | .blockDirectionChange uid newDirection _ =>
    some (.blockDirectionStateChanged uid (toProtoDirection newDirection) 0)
  | .operatorCommandStateChange uid targetKind code active =>
    some (.operatorCommandStateChanged uid targetKind.ctorIdx code.ctorIdx active)
  | .ml8CommandStateChange uid targetKind code active =>
    some (.ml8CommandStateChanged uid targetKind.ctorIdx code.ctorIdx active)
  | .routeAdded route => some (.routeSet route.uid route.fromSignalUid route.toSignalUid route.sectionUids)
  | .routeRemoved routeUid reason => some (.routeReleased routeUid (toProtoReleaseReason reason))
  | .alarmRaised alarm => some (.alarmRaised alarm.uid (eventAlarmType alarm.kind) alarm.objectUid alarm.message)
  | .alarmCleared alarmUid => some (.alarmCleared alarmUid)
  | .axleCounterResetChange .. | .routeOverlapTimerStarted .. | .emergencyRouteReleaseExecuted ..
  | .levelCrossingStateChange .. | .switchControlStateChange .. => none

/-! ## Frames -/

structure DispatchBus where
  nextEventId : BitVec 32 := 1
  txSeq : BitVec 32 := 0

def buildEventPrefix (eventType : Byte) (eventId : BitVec 32) (timestampUs : BitVec 64) : List Byte :=
  [eventType] ++ leBytes 4 eventId ++ leBytes 8 timestampUs

section Bus

-- The FlatBuffers body of an event.
variable (body : DomainEvent → List Byte)

/-- An event number is spent on every change, a sequence number only where a frame is sent. -/
def makeEventFrame (bus : DispatchBus) (change : DeviceStateChange) (timestampUs : BitVec 64) :
    DispatchBus × Option (List Byte) :=
  let eid := bus.nextEventId
  let bus := { bus with nextEventId := eid + 1 }
  match makeEvent change with
  | none => (bus, none)
  | some event =>
    -- a cleared alarm has a buffer of its own and returns early, with the same layout
    let payload := buildEventPrefix event.eventType eid timestampUs ++ body event
    ({ bus with txSeq := bus.txSeq + 1 }, some (encodeFrame MsgType.kDomainEvent 0 bus.txSeq payload))

def onStateChanges (bus : DispatchBus) (timestampUs : BitVec 64) :
    List DeviceStateChange → DispatchBus × List (List Byte)
  | [] => (bus, [])
  | change :: changes =>
    let (bus, frame) := makeEventFrame body bus change timestampUs
    let (bus, frames) := onStateChanges bus timestampUs changes
    (bus, frame.toList ++ frames)

variable {body}

def frameSeqId (frame : List Byte) : BitVec 32 := leWord 32 ((frame.drop 4).take 4)

theorem frameSeqId_encodeFrame (msgType flags : Byte) (seqId : BitVec 32) (payload : List Byte) :
    frameSeqId (encodeFrame msgType flags seqId payload) = seqId := by
  have hCut : ((encodeFrame msgType flags seqId payload).drop 4).take 4 = leBytes 4 seqId := by
    simp [encodeFrame, frameHead]
  rw [frameSeqId, hCut]
  exact leWord_leBytes seqId (by omega)

/-- One frame goes out for each event of the list, in their order, with the event in its payload. -/
theorem onStateChanges_frames (bus : DispatchBus) (timestampUs : BitVec 64) (changes : List DeviceStateChange) :
    List.Forall₂ (fun event frame => ∃ eventId seqId, frame = encodeFrame MsgType.kDomainEvent 0 seqId
        (buildEventPrefix event.eventType eventId timestampUs ++ body event))
      (changes.filterMap makeEvent) (onStateChanges body bus timestampUs changes).2 := by
  induction changes generalizing bus with
  | nil => exact List.Forall₂.nil
  | cons change changes ih =>
    cases hEvent : makeEvent change with
    | none =>
      simp only [onStateChanges, makeEventFrame, hEvent, List.filterMap_cons_none hEvent, Option.toList_none,
        List.nil_append]
      exact ih _
    | some event =>
      simp only [onStateChanges, makeEventFrame, hEvent, List.filterMap_cons_some hEvent, Option.toList_some,
        List.singleton_append]
      exact List.Forall₂.cons ⟨_, _, rfl⟩ (ih _)

end Bus

end Symulator.Server
