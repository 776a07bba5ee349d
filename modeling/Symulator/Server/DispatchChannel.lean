import Symulator.Server.DispatchCoordinator
import Symulator.Server.Frame

/-! # The dispatch channel

A message names the pair of areas it is about, the area of its sender first, and says itself whether it was sent
or received. A grant that reaches the exchange of a pair is therefore always told by the area that asked for it,
and what the neighbour tells goes to the exchange of the opposite pair.
-/

namespace Symulator.Server

open Symulator.Library

set_option autoImplicit false

def MsgType.kDispatchChannel : Byte := 0x61

/-! The numbers of `common.fbs` and `dispatch_channel.fbs`. -/

namespace Proto

def directionSent : Byte := 0
def directionReceived : Byte := 1

def kindDispatchForm : Byte := 0
def kindFreeText : Byte := 1

def statusPending : Byte := 0
def statusAccepted : Byte := 1
def statusRejected : Byte := 2
def statusClosed : Byte := 3

end Proto

/-- The body of a message, read as the type that the message gives for it. -/
inductive ChannelBody
  | none
  | dispatchForm (formType : Byte) (trainNumber : Option String) (kmMarkers : Option (List (Option String)))
      (trackNumber : Option String)
  | freeText (body : Option String)
deriving DecidableEq

structure ChannelMessage where
  srcAreaUid : UInt64 := 0
  dstAreaUid : UInt64 := 0
  direction : Byte := 0
  kind : Byte := 0
  body : ChannelBody := .none
  exchangeUid : UInt64 := 0
  exchangeStatus : Byte := 0
  timestampUs : UInt64 := 0
  senderId : Option String := none
deriving DecidableEq

def toEngineForm (formType : Byte) : DispatchFormType :=
  if formType = 0 then .s2
  else if formType = 1 then .s24
  else if formType = 2 then .s25
  else if formType = 3 then .s26
  else if formType = 4 then .s55
  else if formType = 5 then .s56
  else .s2

def toProtoStatus : ExchangeStatus → Byte
  | .idle | .s2Sent | .s25Sent => Proto.statusPending
  | .s24Received | .s26Received => Proto.statusAccepted
  | .cancelled => Proto.statusRejected
  | .closed => Proto.statusClosed

def toEngineDirection (direction : Byte) : TelegramDirection :=
  if direction = Proto.directionSent then .sent else .received

structure Inbound where
  payload : List Byte
  senderClientId : String
  senderAreaId : String
  timestampUs : UInt64

/-- A frame for all active sessions of the two areas. -/
structure PairBroadcast where
  srcArea : String
  dstArea : String
  frame : List Byte

namespace DispatchChannel

variable (read : List Byte → Option ChannelMessage) (finish : ChannelMessage → List Byte)

/-- A message that verifies, names two areas, and comes from the area it names first. -/
def admitted (call : Inbound) : Option ChannelMessage :=
  match read call.payload with
  | none => none
  | some msg =>
    if msg.srcAreaUid = 0 ∨ msg.dstAreaUid = 0 then none
    else if toString msg.srcAreaUid ≠ call.senderAreaId then none
    else some msg

/-- The form that a message which is not free text brings. -/
def formOf (msg : ChannelMessage) (timestampUs : UInt64) : Option DispatchForm :=
  match msg.body with
  | .dispatchForm formType (some trainNumber) kmMarkers trackNumber =>
    some {
      form := toEngineForm formType
      direction := toEngineDirection msg.direction
      srcArea := toString msg.srcAreaUid
      dstArea := toString msg.dstAreaUid
      trainNumber
      trackNumber
      kmMarkers := (kmMarkers.getD []).reduceOption
      timestampUs }
  | _ => none

def broadcastToPair (msg : ChannelMessage) (reply : ChannelMessage) : PairBroadcast where
  srcArea := toString msg.srcAreaUid
  dstArea := toString msg.dstAreaUid
  frame := encodeFrame MsgType.kDispatchChannel 0 0 (finish reply)

def freeTextReply (msg : ChannelMessage) (call : Inbound) (body : String) : ChannelMessage where
  srcAreaUid := msg.srcAreaUid
  dstAreaUid := msg.dstAreaUid
  direction := Proto.directionSent
  kind := Proto.kindFreeText
  body := .freeText (some body)
  exchangeUid := 0
  exchangeStatus := Proto.statusAccepted
  timestampUs := call.timestampUs
  senderId := some call.senderClientId

/-- The identifier of the exchange goes out as a number where it is one. -/
def formReply (msg : ChannelMessage) (call : Inbound) (f : DispatchForm) (outcome : DispatchOutcome) :
    ChannelMessage where
  srcAreaUid := msg.srcAreaUid
  dstAreaUid := msg.dstAreaUid
  direction := msg.direction
  kind := Proto.kindDispatchForm
  body :=
    match msg.body with
    | .dispatchForm formType _ _ _ =>
      .dispatchForm formType (some f.trainNumber) (some (f.kmMarkers.map some)) f.trackNumber
    | body => body
  exchangeUid := (stoull outcome.exchangeId).toOption.getD 0
  exchangeStatus := toProtoStatus outcome.newStatus
  timestampUs := call.timestampUs
  senderId := some call.senderClientId

def onInbound (c : DispatchCoordinator) (call : Inbound) :
    DispatchCoordinator × Except StoullError (List DbWrite × Option PairBroadcast) :=
  match admitted read call with
  | none => (c, .ok ([], none))
  | some msg =>
    if msg.kind = Proto.kindFreeText then
      match msg.body with
      | .freeText (some body) =>
        (c, do
          let written ← c.handleFreeText (toString msg.srcAreaUid) (toString msg.dstAreaUid) body call.timestampUs
          return (written, some (broadcastToPair finish msg (freeTextReply msg call body))))
      | _ => (c, .ok ([], none))
    else
      match formOf msg call.timestampUs with
      | none => (c, .ok ([], none))
      | some f =>
        let (c', result) := c.handleDispatchForm f
        (c', result.map fun (written, outcome) =>
          (written, outcome.map fun outcome => broadcastToPair finish msg (formReply msg call f outcome)))

/-- The form that a call brings before the exchanges. -/
def formAdmitted (call : Inbound) : Option DispatchForm := do
  let msg ← admitted read call
  if msg.kind = Proto.kindFreeText then none else formOf msg call.timestampUs

variable {read}

theorem onInbound_exchanges (c : DispatchCoordinator) (call : Inbound) :
    (onInbound read finish c call).1.exchanges = (formAdmitted read call).elim c.exchanges fun f =>
      (c.exchanges.submitTelegram f.srcArea f.dstArea f.form f.direction f.trainNumber).2 := by
  unfold onInbound formAdmitted
  cases admitted read call with
  | none => rfl
  | some msg =>
    dsimp only [Option.bind_eq_bind, Option.bind_some]
    split
    · split <;> rfl
    · cases formOf msg call.timestampUs <;> rfl

/-- The form comes from the area it names first. -/
theorem formAdmitted_spec {call : Inbound} {f : DispatchForm} (h : formAdmitted read call = some f) :
    ∃ msg, admitted read call = some msg ∧ formOf msg call.timestampUs = some f ∧ f.srcArea = call.senderAreaId := by
  obtain ⟨msg, hAdmitted, hForm⟩ := Option.bind_eq_some_iff.mp h
  split at hForm
  · cases hForm
  · refine ⟨msg, hAdmitted, hForm, ?_⟩
    have hSender : toString msg.srcAreaUid = call.senderAreaId := by
      unfold admitted at hAdmitted
      split at hAdmitted
      · cases hAdmitted
      · split at hAdmitted
        · cases hAdmitted
        · split at hAdmitted
          · cases hAdmitted
          · rename_i hSender
            cases hAdmitted
            exact not_not.mp hSender
    unfold formOf at hForm
    split at hForm
    · cases hForm
      exact hSender
    · cases hForm

end DispatchChannel

end Symulator.Server
