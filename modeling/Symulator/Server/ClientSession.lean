import Symulator.Engine.Command
import Symulator.Server.DispatchChannel
import Symulator.Server.SnapshotDelivery

/-! # The session of a client

The bytes of a connection are gathered in a buffer, and every frame that is complete there is handled at once.
A handshake makes the session active, a bad one or bytes that are no frame close it. The loop over the buffer
does not look at the state of the session, so the frames that are complete behind a bad handshake are handled
by a session that is closing.
-/

namespace Symulator.Server

open Symulator.Library Symulator.Engine

set_option autoImplicit false

namespace MsgType

def kHandshake : Byte := 0x01
def kHandshakeAck : Byte := 0x02
def kHeartbeat : Byte := 0x03
def kHeartbeatAck : Byte := 0x04
def kCommand : Byte := 0x10
def kCommandAck : Byte := 0x11
def kCommandNak : Byte := 0x12
def kSnapshotRequest : Byte := 0x30

end MsgType

def kReadBufSize : Nat := 65536 + kHeaderSize.toNat

inductive SessionState
  | handshake | active | closing
deriving DecidableEq, Repr

structure ClientInfo where
  playerId : String := ""
  sessionId : String := ""
  dispatchAreaId : String := ""
  state : SessionState := .handshake
deriving DecidableEq

/-- `UNSUPPORTED` of `commands.fbs`. -/
def Proto.nakReasonUnsupported : Nat := 7

/-- The tables the session writes. -/
inductive ServerMessage
  | handshakeAck (sessionId : String) (serverTickHz assignedDispatchAreas serverTimeUs : Nat)
  | commandNak (reqSeqId : BitVec 32) (reason : Nat) (reasonText : String)
  | commandAck (reqSeqId : BitVec 32)
  | heartbeatAck (reqSeqId : BitVec 32) (serverTimeUs : Nat)
deriving DecidableEq

/-- A verified handshake. -/
structure HandshakeForm where
  playerId : Option String := none
  authToken : Option String := none

/-- What FlatBuffers and the command ingress make of payloads. -/
structure SessionCodec (γ : Type) where
  readHandshake : List Byte → Option HandshakeForm
  parsePayload : List Byte → Option γ
  build : ServerMessage → List Byte

/-- What a handler finds around the session: the clock, read twice, the published snapshot, the command queue and
the handler of the dispatch channel. -/
structure Surroundings where
  nowUs : Nat := 0
  laterUs : Nat := 0
  snapshot : Option (List Byte) := none
  queueOpen : Bool := true
  dispatchChannelHandler : Bool := true

inductive SessionEffect (γ : Type)
  | send (frame : DecodedFrame)
  | push (cmdMeta : CommandMeta) (cmd : γ)
  | dispatch (payload : List Byte) (senderClientId senderAreaId : String)

structure ClientSession where
  info : ClientInfo := {}
  txSeq : BitVec 32 := 0
  isOpen : Bool := true
deriving DecidableEq

namespace ClientSession

variable {γ : Type} (codec : SessionCodec γ)

def isActive (s : ClientSession) : Bool := s.info.state = .active

/-- Closing shuts the socket down as well. -/
def close (s : ClientSession) : ClientSession := { s with info := { s.info with state := .closing }, isOpen := false }

def sendFrame (s : ClientSession) (msgType flags : Byte) (payload : List Byte) :
    ClientSession × List (SessionEffect γ) :=
  ({ s with txSeq := s.txSeq + 1 }, [.send { msgType, flags, seqId := s.txSeq, payload }])

def handleHandshake (around : Surroundings) (s : ClientSession) (frame : DecodedFrame) :
    ClientSession × List (SessionEffect γ) :=
  if frame.payload = [] then (s.close, [])
  else
    match codec.readHandshake frame.payload with
    | none => (s.close, [])
    | some hs =>
      match hs.playerId, hs.authToken with
      | some playerId, some _ =>
        let sessionId := "SID-" ++ playerId ++ "-" ++ toString around.nowUs
        let s := { s with info := { s.info with playerId, sessionId, state := .active } }
        s.sendFrame MsgType.kHandshakeAck 0 (codec.build (.handshakeAck sessionId 20 0 around.laterUs))
      | _, _ => (s.close, [])

def handleSnapshotRequest (around : Surroundings) (s : ClientSession) : ClientSession × List (SessionEffect γ) :=
  match around.snapshot with
  | none => (s, [])
  | some serialised =>
    let chunks := chunk serialised defaultChunkSize
    ({ s with txSeq := s.txSeq + BitVec.ofNat 32 chunks.length }, (snapshotFrames s.txSeq chunks).map .send)

/-- The acknowledgement goes out when the command is queued. -/
def handleCommand (around : Surroundings) (s : ClientSession) (frame : DecodedFrame) :
    ClientSession × List (SessionEffect γ) :=
  if frame.payload = [] then (s, [])
  else
    match codec.parsePayload frame.payload with
    | none =>
      s.sendFrame MsgType.kCommandNak 0
        (codec.build (.commandNak frame.seqId Proto.nakReasonUnsupported "Unsupported command type"))
    | some cmd =>
      if around.queueOpen then
        let cmdMeta : CommandMeta :=
          { seqId := frame.seqId, priority := .normal, playerId := s.info.playerId, timestampUs := around.nowUs }
        let sent := s.sendFrame MsgType.kCommandAck 0 (codec.build (.commandAck frame.seqId))
        (sent.1, .push cmdMeta cmd :: sent.2)
      else (s, [])

def handleHeartbeat (around : Surroundings) (s : ClientSession) (frame : DecodedFrame) :
    ClientSession × List (SessionEffect γ) :=
  s.sendFrame MsgType.kHeartbeatAck 0 (codec.build (.heartbeatAck frame.seqId around.nowUs))

def handleDispatchChannel (around : Surroundings) (s : ClientSession) (frame : DecodedFrame) :
    ClientSession × List (SessionEffect γ) :=
  if around.dispatchChannelHandler then
    (s, [.dispatch frame.payload s.info.playerId s.info.dispatchAreaId])
  else (s, [])

def handleFrame (around : Surroundings) (s : ClientSession) (frame : DecodedFrame) :
    ClientSession × List (SessionEffect γ) :=
  if frame.msgType = MsgType.kHandshake then handleHandshake codec around s frame
  else if frame.msgType = MsgType.kSnapshotRequest then
    if s.isActive then handleSnapshotRequest around s else (s, [])
  else if frame.msgType = MsgType.kCommand then
    if s.isActive then handleCommand codec around s frame else (s, [])
  else if frame.msgType = MsgType.kHeartbeat then handleHeartbeat codec around s frame
  else if frame.msgType = MsgType.kDispatchChannel then
    if s.isActive then handleDispatchChannel around s frame else (s, [])
  else (s, [])

/-- The handshake is verified, names a player and gives a token. -/
def acceptsHandshake (payload : List Byte) : Bool :=
  payload ≠ [] && (codec.readHandshake payload).any fun hs => hs.playerId.isSome && hs.authToken.isSome

/-- A handshake that closes the session. -/
def Refused (frame : DecodedFrame) : Prop :=
  frame.msgType = MsgType.kHandshake ∧ acceptsHandshake codec frame.payload = false

instance (frame : DecodedFrame) : Decidable (Refused codec frame) := inferInstanceAs (Decidable (_ ∧ _))

/-! ## What a frame does to the state of the session -/

section Handlers

variable {codec} {around : Surroundings} {s : ClientSession} {frame : DecodedFrame}

theorem handleHandshake_eq : (handleHandshake codec around s frame).1.info.state =
      (if acceptsHandshake codec frame.payload then .active else .closing) ∧
    (handleHandshake codec around s frame).1.isOpen = (s.isOpen && acceptsHandshake codec frame.payload) := by
  unfold handleHandshake acceptsHandshake
  by_cases hEmpty : frame.payload = []
  · simp [hEmpty, close]
  · cases hRead : codec.readHandshake frame.payload with
    | none => simp [hEmpty, close]
    | some hs =>
      cases hPlayer : hs.playerId with
      | none => simp [hEmpty, hPlayer, close]
      | some playerId =>
        cases hToken : hs.authToken with
        | none => simp [hEmpty, hPlayer, hToken, close]
        | some token => simp [hEmpty, hPlayer, hToken, sendFrame]

theorem handleFrame_eq : (handleFrame codec around s frame).1.info.state =
      (if frame.msgType = MsgType.kHandshake then
        if acceptsHandshake codec frame.payload then .active else .closing
      else s.info.state) ∧
    (handleFrame codec around s frame).1.isOpen = (s.isOpen && ! decide (Refused codec frame)) := by
  unfold handleFrame Refused
  by_cases hHandshake : frame.msgType = MsgType.kHandshake
  · rw [if_pos hHandshake, if_pos hHandshake]
    obtain ⟨hState, hOpen⟩ := @handleHandshake_eq γ codec around s frame
    refine ⟨hState, ?_⟩
    rw [hOpen]
    by_cases hAccepts : acceptsHandshake codec frame.payload = true <;> simp [hHandshake, hAccepts]
  · rw [if_neg hHandshake, if_neg hHandshake]
    simp only [hHandshake, false_and, decide_false, Bool.not_false, Bool.and_true]
    split
    · unfold handleSnapshotRequest
      repeat' split
      all_goals exact ⟨rfl, rfl⟩
    · split
      · unfold handleCommand
        repeat' split
        all_goals exact ⟨rfl, rfl⟩
      · split
        · exact ⟨rfl, rfl⟩
        · unfold handleDispatchChannel
          repeat' split
          all_goals exact ⟨rfl, rfl⟩

theorem state_handleFrame_of_refused (h : Refused codec frame) :
    (handleFrame codec around s frame).1.info.state = .closing := by
  rw [handleFrame_eq.1, if_pos h.1, h.2]
  rfl

theorem handleFrame_of_not_refused (h : ¬ Refused codec frame) (hState : s.info.state ≠ .closing) :
    (handleFrame codec around s frame).1.info.state ≠ .closing ∧
      (handleFrame codec around s frame).1.isOpen = s.isOpen := by
  obtain ⟨hAfter, hOpen⟩ := @handleFrame_eq γ codec around s frame
  constructor
  · rw [hAfter]
    split
    · rename_i hHandshake
      have hAccepts : acceptsHandshake codec frame.payload = true := by
        by_contra hNot
        exact h ⟨hHandshake, by simpa using hNot⟩
      rw [hAccepts]
      decide
    · exact hState
  · rw [hOpen, decide_eq_false h, Bool.not_false, Bool.and_true]

end Handlers

end ClientSession

/-! ## The read buffer -/

/-- A frame the session handled, the state it found and left, and what it did. -/
structure HandledFrame (γ : Type) where
  frame : DecodedFrame
  before : SessionState
  after : SessionState
  effects : List (SessionEffect γ)

/-- A session with its read buffer, whether a read is under way, and the frames handled so far. -/
structure Connection (γ : Type) where
  session : ClientSession := {}
  readBuf : List Byte := []
  reading : Bool := true
  handled : List (HandledFrame γ) := []

namespace Connection

variable {γ : Type} (codec : SessionCodec γ) (around : Nat → Surroundings)

/-- The frame is handled in the surroundings of its turn. -/
def handle (c : Connection γ) (frame : DecodedFrame) : Connection γ :=
  let result := c.session.handleFrame codec (around c.handled.length) frame
  { c with
    session := result.1
    handled := c.handled ++
      [{ frame, before := c.session.info.state, after := result.1.info.state, effects := result.2 }] }

/-- The loop over the buffer, on its content. -/
def processFrames (c : Connection γ) (buffer : List Byte) : Connection γ :=
  if buffer = [] then { c with readBuf := buffer }
  else
    let result := decodeFrame buffer
    if result.status = .needMoreData then { c with readBuf := buffer }
    else if _hOk : result.status = .ok then
      processFrames (handle codec around c result.frame) (buffer.drop result.bytesConsumed.toNat)
    else { c with session := c.session.close, readBuf := buffer }
termination_by buffer.length
decreasing_by
  have hBounds := frameReader.read_bounds (if_pos _hOk : frameReader.read buffer = some _)
  rw [List.length_drop]
  omega

def processBuffer (c : Connection γ) : Connection γ := processFrames codec around c c.readBuf

/-- Bytes have come in: they are handled, and the next read is issued unless the session is closing. -/
def onRead (c : Connection γ) (bytes : List Byte) : Connection γ :=
  let c := processBuffer codec around { c with readBuf := c.readBuf ++ bytes }
  { c with reading := c.session.info.state ≠ .closing }

/-- Bytes come in only while a read is under way on an open socket. -/
def receive (c : Connection γ) (bytes : List Byte) : Connection γ :=
  if c.reading ∧ c.session.isOpen then onRead codec around c bytes else c

def receiveAll (c : Connection γ) (reads : List (List Byte)) : Connection γ := reads.foldl (receive codec around) c

/-- No read is empty, and each fits into what is left of the buffer when it comes in. -/
def Fits (c : Connection γ) : List (List Byte) → Prop
  | [] => True
  | bytes :: reads =>
    bytes ≠ [] ∧ (c.reading ∧ c.session.isOpen → c.readBuf.length + bytes.length ≤ kReadBufSize) ∧
      Fits (receive codec around c bytes) reads

end Connection

end Symulator.Server
