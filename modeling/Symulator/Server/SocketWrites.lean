import Symulator.Server.SessionHistory

/-! # What is written of the replies

The replies to the frames of a read are posted, and written once the read has been worked off. A read that closes the
session has shut the socket by then: a reply that is still due throws in the thread of the gateway, and the server
ends. So it shows how a stream was cut where a reply is due to a frame that can be in the buffer together with what
closes the session, as it does where a frame is behind the first handshake refused.
-/

namespace Symulator.Server

open Symulator.Library Symulator.Engine ClientSession

set_option autoImplicit false

/-- A session, the frames written to its socket, and whether a write has thrown. -/
structure ServedConnection (γ : Type) where
  connection : Connection γ := {}
  written : List DecodedFrame := []
  threw : Bool := false

namespace ServedConnection

variable {γ : Type} (codec : SessionCodec γ) (around : Nat → Surroundings)

/-- A write that was posted has its turn. -/
def write (v : ServedConnection γ) (frame : DecodedFrame) : ServedConnection γ :=
  if v.threw then v
  else if v.connection.session.isOpen then { v with written := v.written ++ [frame] }
  else { v with threw := true }

/-- The read is worked off, then what it has posted. The next read is issued behind both. -/
def receive (v : ServedConnection γ) (bytes : List Byte) : ServedConnection γ :=
  if v.threw then v
  else
    let connection := v.connection.receive codec around bytes
    (replies (connection.handled.drop v.connection.handled.length)).foldl write { v with connection }

def receiveAll (v : ServedConnection γ) (reads : List (List Byte)) : ServedConnection γ :=
  reads.foldl (receive codec around) v

/-- Once the session is closing no frame is handled, by the loop over the buffer or after it, and the session stays
closing. -/
structure ClosingFinal (reads : List (List Byte)) : Prop where
  unhandled : ∀ h ∈ (receiveAll codec around {} reads).connection.handled, h.before ≠ .closing
  final : (∃ h ∈ (receiveAll codec around {} reads).connection.handled, h.after = .closing) →
    (receiveAll codec around {} reads).connection.session.info.state = .closing
  deaf : ∀ part rest, reads = part ++ rest →
    (receiveAll codec around {} part).connection.session.info.state = .closing →
      receiveAll codec around {} reads = receiveAll codec around {} part

/-- The same frames were handled with the same effects, and the same was written. -/
structure SameCourse (v v' : ServedConnection γ) : Prop where
  handled : v.connection.handled = v'.connection.handled
  session : v.connection.session = v'.connection.session
  written : v.written = v'.written
  threw : v.threw = v'.threw

/-- How the stream is cut into reads does not matter, and closing is final. -/
def CutIndependent (stream : List Byte) : Prop :=
  (∀ reads reads', Cut codec around reads stream → Cut codec around reads' stream →
    SameCourse (receiveAll codec around {} reads) (receiveAll codec around {} reads')) ∧
  ∀ reads, Cut codec around reads stream → ClosingFinal codec around reads

/-! ## When it does not matter -/

/-- The session replies to the frame; to a snapshot request or a command only once it has been joined. -/
def RepliesTo (around : Surroundings) (joined : Prop) (frame : DecodedFrame) : Prop :=
  frame.msgType = MsgType.kHandshake ∨ frame.msgType = MsgType.kHeartbeat ∨ joined ∧
    (frame.msgType = MsgType.kSnapshotRequest ∧ around.snapshot ≠ none ∨
      frame.msgType = MsgType.kCommand ∧ frame.payload ≠ [] ∧
        (codec.parsePayload frame.payload = none ∨ around.queueOpen = true))

/-- A handshake that is refused, or bytes that are no frame. -/
def Closes (closing : List Byte) : Prop :=
  (∃ frame : DecodedFrame, frame.payload.length ≤ kMaxPayloadLen.toNat ∧ Refused codec frame ∧ closing = frame.encode) ∨
    Broken closing

/-- No reply is due to a frame near enough to be in the buffer with what closes the session. -/
def NoReplyDue (stream : List Byte) : Prop :=
  ∀ earlier frame between closing rest,
    stream = (earlier ++ frame :: between).flatMap DecodedFrame.encode ++ closing ++ rest →
      (∀ other ∈ earlier ++ frame :: between, other.payload.length ≤ kMaxPayloadLen.toNat ∧ ¬ Refused codec other) →
        Closes codec closing →
          RepliesTo codec (around earlier.length) (∃ other ∈ earlier, other.msgType = MsgType.kHandshake) frame →
            kReadBufSize < ((frame :: between).flatMap DecodedFrame.encode ++ closing).length

/-! ## The replies to frames -/

section Replies

variable {codec : SessionCodec γ} {around : Surroundings} {s : ClientSession} {frame : DecodedFrame}

theorem sendsOf_of_refused (h : Refused codec frame) : sendsOf (handleFrame codec around s frame).2 = [] := by
  obtain ⟨hHandshake, hAccepts⟩ := h
  rw [handleFrame, if_pos hHandshake, handleHandshake]
  by_cases hEmpty : frame.payload = []
  · rw [if_pos hEmpty]
    rfl
  · rw [if_neg hEmpty]
    cases hRead : codec.readHandshake frame.payload with
    | none => rfl
    | some hs =>
      cases hPlayer : hs.playerId with
      | none => simp [hPlayer, sendsOf]
      | some playerId =>
        cases hToken : hs.authToken with
        | none => simp [hPlayer, hToken, sendsOf]
        | some token => simp [acceptsHandshake, hEmpty, hRead, hPlayer, hToken] at hAccepts

theorem sendsOf_handshake (hHandshake : frame.msgType = MsgType.kHandshake) (h : ¬ Refused codec frame) :
    sendsOf (handleHandshake codec around s frame).2 ≠ [] := by
  have hAccepts : acceptsHandshake codec frame.payload = true := by
    by_contra hNot
    exact h ⟨hHandshake, by simpa using hNot⟩
  simp only [acceptsHandshake, Bool.and_eq_true, decide_eq_true_eq, Option.any_eq_true,
    Option.isSome_iff_exists] at hAccepts
  obtain ⟨hSome, hs, hRead, ⟨playerId, hPlayer⟩, ⟨token, hToken⟩⟩ := hAccepts
  simp [handleHandshake, hSome, hRead, hPlayer, hToken, sendsOf, sendFrame]

theorem sendsOf_snapshotRequest :
    sendsOf (ClientSession.handleSnapshotRequest around s : _ × List (SessionEffect γ)).2 ≠ [] ↔
      around.snapshot ≠ none := by
  cases hSnapshot : around.snapshot with
  | none => simp [ClientSession.handleSnapshotRequest, hSnapshot, sendsOf]
  | some serialised =>
    have hChunks : chunk serialised defaultChunkSize ≠ [] := chunk_ne_nil
    simp [ClientSession.handleSnapshotRequest, hSnapshot, sendsOf, List.filterMap_map, snapshotFrames, hChunks]

theorem sendsOf_command : sendsOf (handleCommand codec around s frame).2 ≠ [] ↔
    frame.payload ≠ [] ∧ (codec.parsePayload frame.payload = none ∨ around.queueOpen = true) := by
  by_cases hEmpty : frame.payload = []
  · simp [handleCommand, hEmpty, sendsOf]
  · cases hParse : codec.parsePayload frame.payload with
    | none => simp [handleCommand, hEmpty, hParse, sendsOf, sendFrame]
    | some cmd =>
      cases hQueue : around.queueOpen <;> simp [handleCommand, hEmpty, hParse, hQueue, sendsOf, sendFrame]

/-- The session has a reply to a frame that is not refused. -/
theorem sendsOf_ne_nil_iff (h : ¬ Refused codec frame) :
    sendsOf (handleFrame codec around s frame).2 ≠ [] ↔ RepliesTo codec around (s.isActive = true) frame := by
  unfold handleFrame RepliesTo
  by_cases hHandshake : frame.msgType = MsgType.kHandshake
  · rw [if_pos hHandshake]
    exact iff_of_true (sendsOf_handshake hHandshake h) (Or.inl hHandshake)
  rw [if_neg hHandshake]
  by_cases hSnapshot : frame.msgType = MsgType.kSnapshotRequest
  · have hOther : MsgType.kSnapshotRequest ≠ MsgType.kHandshake ∧ MsgType.kSnapshotRequest ≠ MsgType.kHeartbeat ∧
        MsgType.kSnapshotRequest ≠ MsgType.kCommand := by decide
    rw [if_pos hSnapshot, hSnapshot]
    cases hActive : s.isActive
    · simp [hOther, sendsOf]
    · simp [hOther, sendsOf_snapshotRequest]
  rw [if_neg hSnapshot]
  by_cases hCommand : frame.msgType = MsgType.kCommand
  · have hOther : MsgType.kCommand ≠ MsgType.kHandshake ∧ MsgType.kCommand ≠ MsgType.kHeartbeat ∧
        MsgType.kCommand ≠ MsgType.kSnapshotRequest := by decide
    rw [if_pos hCommand, hCommand]
    cases hActive : s.isActive
    · simp [hOther, sendsOf]
    · simp [hOther, sendsOf_command]
  rw [if_neg hCommand]
  by_cases hHeartbeat : frame.msgType = MsgType.kHeartbeat
  · rw [if_pos hHeartbeat]
    exact iff_of_true (by simp [handleHeartbeat, sendFrame, sendsOf]) (Or.inr (Or.inl hHeartbeat))
  rw [if_neg hHeartbeat]
  refine iff_of_false (fun hSends => hSends ?_) (by simp [hHandshake, hSnapshot, hCommand, hHeartbeat])
  unfold handleDispatchChannel
  repeat' split
  all_goals rfl

end Replies

/-! ## The frames of a read -/

section Turns

variable {codec : SessionCodec γ} {around : Nat → Surroundings}

variable (codec around) in
/-- What the session did with a frame it handled next. -/
def turn (c : Connection γ) (frame : DecodedFrame) : HandledFrame γ where
  frame
  before := c.session.info.state
  after := (c.session.handleFrame codec (around c.handled.length) frame).1.info.state
  effects := (c.session.handleFrame codec (around c.handled.length) frame).2

variable (codec around) in
def turns (c : Connection γ) : List DecodedFrame → List (HandledFrame γ)
  | [] => []
  | frame :: frames => turn codec around c frame :: turns (c.handle codec around frame) frames

theorem handled_handleAll (c : Connection γ) (frames : List DecodedFrame) :
    (c.handleAll codec around frames).handled = c.handled ++ turns codec around c frames := by
  induction frames generalizing c with
  | nil => exact (List.append_nil _).symm
  | cons frame frames ih =>
    refine (ih (c.handle codec around frame)).trans ?_
    rw [turns, Connection.handle, List.append_assoc]
    rfl

theorem length_turns (c : Connection γ) (frames : List DecodedFrame) :
    (turns codec around c frames).length = frames.length := by
  induction frames generalizing c with
  | nil => rfl
  | cons frame frames ih => rw [turns, List.length_cons, ih, List.length_cons]

theorem length_handled (frames : List DecodedFrame) :
    (Connection.handleAll codec around {} frames).handled.length = frames.length := by
  rw [handled_handleAll, List.length_append, length_turns]
  exact Nat.zero_add _

theorem turns_append (c : Connection γ) (frames more : List DecodedFrame) : turns codec around c (frames ++ more) =
    turns codec around c frames ++ turns codec around (c.handleAll codec around frames) more := by
  induction frames generalizing c with
  | nil => rfl
  | cons frame frames ih =>
    rw [List.cons_append, turns, ih, turns]
    rfl

theorem replies_turns_eq_nil_iff {c : Connection γ} {frames : List DecodedFrame} :
    replies (turns codec around c frames) = [] ↔ ∀ earlier frame between, frames = earlier ++ frame :: between →
      sendsOf (turn codec around (c.handleAll codec around earlier) frame).effects = [] := by
  induction frames generalizing c with
  | nil => exact iff_of_true rfl fun earlier frame between h => by simp at h
  | cons first frames ih =>
    have hSplit : replies (turns codec around c (first :: frames)) =
        sendsOf (turn codec around c first).effects ++
          replies (turns codec around (c.handle codec around first) frames) := rfl
    rw [hSplit, List.append_eq_nil_iff, ih]
    constructor
    · rintro ⟨hFirst, hRest⟩ earlier frame between h
      cases earlier with
      | nil =>
        cases h
        exact hFirst
      | cons other earlier =>
        cases h
        exact hRest earlier frame between rfl
    · intro h
      refine ⟨h [] first frames rfl, fun earlier frame between hFrames => ?_⟩
      exact h (first :: earlier) frame between (by rw [hFrames]; rfl)

theorem replies_append (handled more : List (HandledFrame γ)) :
    replies (handled ++ more) = replies handled ++ replies more :=
  List.flatMap_append

theorem replies_turn_of_refused {c : Connection γ} {frame : DecodedFrame} (h : Refused codec frame) :
    replies (turns codec around c [frame]) = [] := (List.append_nil _).trans (sendsOf_of_refused h)

/-- A session that has refused no handshake has been joined when one came in. -/
theorem isActive_handleAll {c : Connection γ} {frames : List DecodedFrame}
    (h : ∀ frame ∈ frames, ¬ Refused codec frame) :
    (c.handleAll codec around frames).session.isActive = true ↔
      c.session.isActive = true ∨ ∃ other ∈ frames, other.msgType = MsgType.kHandshake := by
  induction frames generalizing c with
  | nil => simp [Connection.handleAll]
  | cons frame frames ih =>
    have hNext := @ih (c.handle codec around frame) fun other hOther => h other (List.mem_cons_of_mem _ hOther)
    have hState := (@handleFrame_eq γ codec (around c.handled.length) c.session frame).1
    have hFirst : (c.handle codec around frame).session.isActive = true ↔
        c.session.isActive = true ∨ frame.msgType = MsgType.kHandshake := by
      by_cases hHandshake : frame.msgType = MsgType.kHandshake
      · have hAccepts : acceptsHandshake codec frame.payload = true := by
          by_contra hNot
          exact h frame List.mem_cons_self ⟨hHandshake, by simpa using hNot⟩
        rw [if_pos hHandshake, if_pos hAccepts] at hState
        exact iff_of_true (decide_eq_true hState) (Or.inr hHandshake)
      · rw [if_neg hHandshake] at hState
        rw [or_iff_left hHandshake]
        exact Eq.congr_left (congrArg (fun state => decide (state = SessionState.active)) hState)
    refine hNext.trans ?_
    rw [hFirst, or_assoc, List.exists_mem_cons_iff]

/-- The replies to the frames of a read, told from the frames of the stream. -/
theorem replies_eq_nil_iff {old new : List DecodedFrame} (h : ∀ frame ∈ old ++ new, ¬ Refused codec frame) :
    replies (turns codec around (Connection.handleAll codec around {} old) new) = [] ↔
      ∀ earlier frame between, new = earlier ++ frame :: between →
        ¬ RepliesTo codec (around (old ++ earlier).length)
          (∃ other ∈ old ++ earlier, other.msgType = MsgType.kHandshake)
          frame := by
  rw [replies_turns_eq_nil_iff]
  refine forall_congr' fun earlier => forall_congr' fun frame => forall_congr' fun between => imp_congr_right ?_
  rintro rfl
  have hFrame : ¬ Refused codec frame := h frame (by simp)
  have hEarlier : ∀ other ∈ old ++ earlier, ¬ Refused codec other := by
    intro other hOther
    refine h other ?_
    rw [← List.append_assoc]
    exact List.mem_append_left _ hOther
  rw [← Connection.handleAll_append, ← not_iff_not, not_not]
  refine (sendsOf_ne_nil_iff hFrame).trans ?_
  rw [isActive_handleAll hEarlier, length_handled]
  have hNew : ({} : Connection γ).session.isActive = false := rfl
  rw [hNew]
  simp only [Bool.false_eq_true, false_or]

end Turns

/-! ## Writing behind a read -/

section Writes

variable {codec : SessionCodec γ} {around : Nat → Surroundings}

theorem foldl_write_of_open {v : ServedConnection γ} (hThrew : v.threw = false)
    (hOpen : v.connection.session.isOpen = true)
    (frames : List DecodedFrame) : frames.foldl write v = { v with written := v.written ++ frames } := by
  induction frames generalizing v with
  | nil => rw [List.foldl_nil, List.append_nil]
  | cons frame frames ih =>
    have hWrite : v.write frame = { v with written := v.written ++ [frame] } := by
      rw [write, hThrew, if_neg Bool.false_ne_true, if_pos hOpen]
    rw [List.foldl_cons, hWrite]
    refine (@ih { v with written := v.written ++ [frame] } hThrew hOpen).trans ?_
    simp only [List.append_assoc, List.singleton_append]

theorem foldl_write_of_threw {v : ServedConnection γ} (hThrew : v.threw = true) (frames : List DecodedFrame) :
    frames.foldl write v = v := by
  induction frames with
  | nil => rfl
  | cons frame frames ih =>
    have hWrite : v.write frame = v := if_pos hThrew
    rw [List.foldl_cons, hWrite, ih]

theorem foldl_write_of_shut {v : ServedConnection γ} (hThrew : v.threw = false)
    (hShut : v.connection.session.isOpen = false)
    {frames : List DecodedFrame} (hFrames : frames ≠ []) : frames.foldl write v = { v with threw := true } := by
  cases frames with
  | nil => exact absurd rfl hFrames
  | cons frame frames =>
    have hWrite : v.write frame = { v with threw := true } := by
      rw [write, hThrew, hShut, if_neg Bool.false_ne_true, if_neg Bool.false_ne_true]
    rw [List.foldl_cons, hWrite]
    exact foldl_write_of_threw rfl frames

theorem connection_foldl_write (v : ServedConnection γ) (frames : List DecodedFrame) :
    (frames.foldl write v).connection = v.connection := by
  induction frames generalizing v with
  | nil => rfl
  | cons frame frames ih =>
    refine (ih (v.write frame)).trans ?_
    unfold write
    repeat' split
    all_goals rfl

/-- Nothing opens a socket again. -/
theorem isOpen_of_receive {c : Connection γ} {bytes : List Byte}
    (h : (c.receive codec around bytes).session.isOpen = true) :
    c.session.isOpen = true := by
  refine Connection.receive_invariant (fun s _ => s.isOpen = true → c.session.isOpen = true)
    (fun s handled around frame s' effects hBefore hReacts hAfter => ?_) (fun s handled hBefore hAfter => ?_) id bytes h
  · cases hReacts with
    | refuse => exact absurd hAfter Bool.false_ne_true
    | join | snapshot | answer | command | dispatch | ignore => exact hBefore hAfter
  · exact absurd hAfter Bool.false_ne_true

/-- While the socket is open all replies have been written. -/
def UpToDate (v : ServedConnection γ) : Prop :=
  v.connection.session.isOpen = true → v.threw = false ∧ v.written = replies v.connection.handled

variable (codec around) in
theorem replies_handled (c : Connection γ) (bytes : List Byte) : replies (c.receive codec around bytes).handled =
    replies c.handled ++ replies ((c.receive codec around bytes).handled.drop c.handled.length) := by
  obtain ⟨new, hNew⟩ := @Connection.handled_prefix γ codec around c bytes
  rw [← hNew, List.drop_left, replies_append]

theorem receive_of_open {v : ServedConnection γ} (h : v.UpToDate) {bytes : List Byte}
    (hOpen : (v.connection.receive codec around bytes).session.isOpen = true) :
    v.receive codec around bytes =
      { connection := v.connection.receive codec around bytes
        written := replies (v.connection.receive codec around bytes).handled
        threw := false } := by
  obtain ⟨hThrew, hWritten⟩ := h (isOpen_of_receive hOpen)
  rw [receive, hThrew, if_neg Bool.false_ne_true]
  refine (foldl_write_of_open rfl hOpen _).trans ?_
  rw [replies_handled codec around v.connection bytes, hWritten]

theorem connection_receive {v : ServedConnection γ} (h : v.UpToDate) (bytes : List Byte) :
    (v.receive codec around bytes).connection = v.connection.receive codec around bytes := by
  unfold receive
  split
  · rename_i hThrew
    have hShut : ¬ (v.connection.reading ∧ v.connection.session.isOpen) := by
      rintro ⟨-, hOpen⟩
      rw [(h hOpen).1] at hThrew
      cases hThrew
    exact (Connection.receive_of_deaf hShut bytes).symm
  · exact connection_foldl_write _ _

theorem UpToDate.receive {v : ServedConnection γ} (h : v.UpToDate) (bytes : List Byte) :
    (v.receive codec around bytes).UpToDate := by
  intro hOpen
  rw [connection_receive h] at hOpen
  rw [receive_of_open h hOpen]
  exact ⟨rfl, rfl⟩

theorem UpToDate.receiveAll {v : ServedConnection γ} (h : v.UpToDate) (reads : List (List Byte)) :
    (v.receiveAll codec around reads).UpToDate ∧
      (v.receiveAll codec around reads).connection = v.connection.receiveAll codec around reads := by
  induction reads generalizing v with
  | nil => exact ⟨h, rfl⟩
  | cons bytes reads ih =>
    obtain ⟨hDate, hConnection⟩ := ih (@UpToDate.receive γ codec around v h bytes)
    refine ⟨hDate, hConnection.trans ?_⟩
    rw [connection_receive h]
    rfl

theorem upToDate_start : ({} : ServedConnection γ).UpToDate := fun _ => ⟨rfl, rfl⟩

variable (codec around) in
theorem connection_receiveAll (reads : List (List Byte)) :
    (receiveAll codec around ({} : ServedConnection γ) reads).connection =
      Connection.receiveAll codec around {} reads :=
  (upToDate_start.receiveAll reads).2

theorem receiveAll_of_deaf {v : ServedConnection γ} (h : ¬ (v.connection.reading ∧ v.connection.session.isOpen))
    (reads : List (List Byte)) : v.receiveAll codec around reads = v := by
  induction reads with
  | nil => rfl
  | cons bytes reads ih =>
    have hStays : v.receive codec around bytes = v := by
      unfold receive
      split
      · rfl
      · simp only [Connection.receive_of_deaf h, List.drop_length]
        rfl
    rw [receiveAll, List.foldl_cons, hStays]
    exact ih

theorem receiveAll_append (v : ServedConnection γ) (reads more : List (List Byte)) :
    v.receiveAll codec around (reads ++ more) = (v.receiveAll codec around reads).receiveAll codec around more :=
  List.foldl_append

end Writes

/-! ## The read that closes the session -/

section Closing

variable {codec : SessionCodec γ} {around : Nat → Surroundings}

/-- The replies to the frames that a read brings. -/
theorem replies_receive {stream : List Byte} {c : Connection γ} (h : c.Open codec around stream) (bytes : List Byte) :
    replies ((c.receive codec around bytes).handled.drop c.handled.length) =
      replies (turns codec around (Connection.handleAll codec around {} (frameReader.readAll stream).1)
        (frameReader.readAll (c.readBuf ++ bytes)).1) := by
  have hBuf : c.readBuf = (frameReader.readAll stream).2 := by rw [h.eq]
  have hHandled : c.handled = turns codec around {} (frameReader.readAll stream).1 := by
    rw [h.eq]
    exact (handled_handleAll _ _).trans (List.nil_append _)
  have hAfter : (c.receive codec around bytes).handled =
      turns codec around {} (frameReader.readAll (stream ++ bytes)).1 := by
    have hReached : (Connection.reached codec around (stream ++ bytes)).handled =
        (Connection.handleAll codec around {} (frameReader.readAll (stream ++ bytes)).1).handled := by
      rw [Connection.reached, Connection.closeIfBroken]
      split <;> rfl
    rw [h.receive_eq bytes]
    exact hReached.trans ((handled_handleAll _ _).trans (List.nil_append _))
  rw [hAfter, hHandled, Connection.frames_append, turns_append, List.drop_left, hBuf]

/-- Nothing is written behind a read that closes the session, and none but a reply that is due throws. -/
theorem receive_of_shut {v : ServedConnection γ} (h : v.UpToDate) (hOpen : v.connection.session.isOpen = true)
    {bytes : List Byte} (hShut : (v.connection.receive codec around bytes).session.isOpen = false) :
    v.receive codec around bytes =
      { connection := v.connection.receive codec around bytes
        written := replies v.connection.handled
        threw := decide (replies
          ((v.connection.receive codec around bytes).handled.drop v.connection.handled.length) ≠ []) } := by
  obtain ⟨hThrew, hWritten⟩ := h hOpen
  rw [receive, hThrew, if_neg Bool.false_ne_true, ← hWritten]
  by_cases hDue : replies ((v.connection.receive codec around bytes).handled.drop v.connection.handled.length) = []
  · rw [decide_eq_false (not_not.mpr hDue)]
    dsimp only
    rw [hDue]
    rfl
  · rw [decide_eq_true hDue]
    exact foldl_write_of_shut rfl hShut hDue

end Closing

/-! ## Every cut of a stream -/

section Cuts

variable {codec : SessionCodec γ} {around : Nat → Surroundings}

/-- No reply is due to what a read brings in front of the bytes that close the session. -/
theorem NoReplyDue.replies_eq_nil {stream : List Byte} (h : NoReplyDue codec around stream)
    {old new : List DecodedFrame}
    {closing rest : List Byte} (hStream : stream = (old ++ new).flatMap DecodedFrame.encode ++ closing ++ rest)
    (hFrames : ∀ other ∈ old ++ new, other.payload.length ≤ kMaxPayloadLen.toNat ∧ ¬ Refused codec other)
    (hCloses : Closes codec closing) (hFits : (new.flatMap DecodedFrame.encode ++ closing).length ≤ kReadBufSize) :
    replies (turns codec around (Connection.handleAll codec around {} old) new) = [] := by
  rw [replies_eq_nil_iff fun frame hFrame => (hFrames frame hFrame).2]
  rintro earlier frame between rfl hReplies
  have hSame : old ++ earlier ++ frame :: between = old ++ (earlier ++ frame :: between) := List.append_assoc _ _ _
  have hLong := h (old ++ earlier) frame between closing rest (by rw [hSame]; exact hStream)
    (by rw [hSame]; exact hFrames)
    hCloses hReplies
  rw [List.flatMap_append, List.append_assoc, List.length_append] at hFits
  omega

/-- A read that shuts the socket leaves no reply due. -/
theorem replies_of_shut {stream bytes more : List Byte} {c : Connection γ} (h : c.Open codec around stream)
    (hFits : c.readBuf.length + bytes.length ≤ kReadBufSize) (hBehind : NoFrameBehind codec (stream ++ bytes ++ more))
    (hDue : NoReplyDue codec around (stream ++ bytes ++ more))
    (hShut : (c.receive codec around bytes).session.isOpen = false) :
    replies ((c.receive codec around bytes).handled.drop c.handled.length) = [] := by
  have hBuf : c.readBuf = (frameReader.readAll stream).2 := by rw [h.eq]
  have hAll := Connection.frames_append stream bytes
  have hLeft : (frameReader.readAll (stream ++ bytes)).2 = (frameReader.readAll (c.readBuf ++ bytes)).2 := by
    rw [StreamReader.readAll_append frameReader_stable, hBuf]
  have hWhole := @StreamReader.eq_flatMap_append _ _ frameReader _ take_eq_encode (stream ++ bytes)
  have hRead := congrArg List.length (@StreamReader.eq_flatMap_append _ _ frameReader _ take_eq_encode
    (c.readBuf ++ bytes))
  have hLimit : ∀ other ∈ (frameReader.readAll (stream ++ bytes)).1, other.payload.length ≤ kMaxPayloadLen.toNat :=
    fun other hOther => payload_le_of_mem_readAll hOther
  rw [← hBuf] at hAll
  rw [replies_receive h]
  rcases @Connection.refused_cases γ codec (frameReader.readAll (stream ++ bytes)).1 with
    hNone | ⟨before, frame, after, hFrames, hBefore, hRefused⟩
  · have hBroken : Broken (frameReader.readAll (stream ++ bytes)).2 := by
      by_contra hSound
      rw [(h.receive hNone hSound).state.2.1] at hShut
      cases hShut
    have hStream : stream ++ bytes ++ more =
        ((frameReader.readAll stream).1 ++ (frameReader.readAll (c.readBuf ++ bytes)).1).flatMap DecodedFrame.encode ++
          (frameReader.readAll (stream ++ bytes)).2 ++ more := by
      rw [← hAll, ← hWhole]
    refine hDue.replies_eq_nil hStream ?_ (Or.inr hBroken) ?_
    · rw [← hAll]
      exact fun other hOther => ⟨hLimit other hOther, hNone other hOther⟩
    · rw [hLeft, ← hRead, List.length_append]
      exact hFits
  · have hLast := h.last_of_refused hFits hBehind hFrames hBefore hRefused
    subst hLast
    obtain ⟨earlier, hNew⟩ := h.refused_new hFrames hRefused
    have hSplit : (frameReader.readAll stream).1 ++ earlier = before := by
      rw [hFrames, hNew, ← List.append_assoc] at hAll
      exact (List.append_inj_left' hAll rfl).symm
    have hStream : stream ++ bytes ++ more =
        ((frameReader.readAll stream).1 ++ earlier).flatMap DecodedFrame.encode ++ frame.encode ++
          ((frameReader.readAll (stream ++ bytes)).2 ++ more) := by
      rw [hSplit, ← List.append_assoc]
      refine congrArg (· ++ more) (hWhole.trans ?_)
      rw [hFrames, List.flatMap_append, List.flatMap_singleton]
    have hCloses : Closes codec frame.encode := Or.inl ⟨frame, hLimit frame (by rw [hFrames]; simp), hRefused, rfl⟩
    have hEarlier : replies (turns codec around (Connection.handleAll codec around {} (frameReader.readAll stream).1)
        earlier) = [] := by
      refine hDue.replies_eq_nil hStream ?_ hCloses ?_
      · rw [hSplit]
        exact fun other hOther => ⟨hLimit other (by rw [hFrames]; exact List.mem_append_left _ hOther),
          hBefore other hOther⟩
      · rw [hNew, List.flatMap_append, List.flatMap_singleton, List.length_append, List.length_append] at hRead
        omega
    rw [hNew, turns_append, replies_append, hEarlier, replies_turn_of_refused hRefused, List.append_nil]

/-- What every cut of a stream comes to. -/
structure Settled (codec : SessionCodec γ) (around : Nat → Surroundings) (stream : List Byte) (v : ServedConnection γ) :
    Prop where
  done : Connection.Done codec around stream v.connection
  written : v.written = replies (Connection.outcome codec around stream).handled
  threw : v.threw = false

theorem receiveAll_settled {stream : List Byte} {v : ServedConnection γ} (hDate : v.UpToDate)
    (h : v.connection.Open codec around stream) (reads : List (List Byte))
    (hFits : v.connection.Fits codec around reads) (hBehind : NoFrameBehind codec (stream ++ reads.flatten))
    (hDue : NoReplyDue codec around (stream ++ reads.flatten)) :
    Settled codec around (stream ++ reads.flatten) (v.receiveAll codec around reads) := by
  induction reads generalizing stream v with
  | nil =>
    obtain ⟨hThrew, hWritten⟩ := hDate h.state.2.1
    rw [List.flatten_nil, List.append_nil]
    refine ⟨h.done, ?_, hThrew⟩
    rw [← h.done.handled]
    exact hWritten
  | cons bytes reads ih =>
    obtain ⟨-, hRoom, hRest⟩ := hFits
    obtain ⟨-, hOpen, hReading, -⟩ := h.state
    have hConnection := @connection_receive γ codec around v hDate bytes
    rw [List.flatten_cons, ← List.append_assoc] at hBehind hDue ⊢
    rcases h.receive_done (hRoom ⟨hReading, hOpen⟩) hBehind with hNext | ⟨hDone, hDeaf⟩
    · rw [← hConnection] at hNext hRest
      exact ih (hDate.receive bytes) hNext hRest hBehind hDue
    · have hStays : v.receiveAll codec around (bytes :: reads) = v.receive codec around bytes := by
        refine receiveAll_of_deaf (fun hHears => ?_) reads
        rw [hConnection, hDeaf] at hHears
        exact absurd hHears.1 Bool.false_ne_true
      rw [hStays]
      cases hShut : (v.connection.receive codec around bytes).session.isOpen with
      | true =>
        rw [receive_of_open hDate hShut]
        refine ⟨hDone, ?_, rfl⟩
        rw [← hDone.handled]
      | false =>
        have hNone := replies_of_shut h (hRoom ⟨hReading, hOpen⟩) hBehind hDue hShut
        rw [receive_of_shut hDate hOpen hShut]
        refine ⟨hDone, ?_, decide_eq_false (not_not.mpr hNone)⟩
        rw [← hDone.handled, replies_handled codec around v.connection bytes, hNone, List.append_nil]

theorem cut_settled {reads : List (List Byte)} {stream : List Byte} (hCut : Cut codec around reads stream)
    (hBehind : NoFrameBehind codec stream) (hDue : NoReplyDue codec around stream) :
    Settled codec around stream (receiveAll codec around {} reads) := by
  obtain ⟨rfl, hFits⟩ := hCut
  have hAll := @receiveAll_settled γ codec around [] {} upToDate_start Connection.open_nil reads hFits
  rw [List.nil_append] at hAll
  exact hAll hBehind hDue

theorem Settled.closingFinal {reads : List (List Byte)} {stream : List Byte}
    (h : Settled codec around stream (receiveAll codec around {} reads)) : ClosingFinal codec around reads := by
  obtain ⟨hHandled, hState⟩ := @Connection.outcome_final γ codec around stream
  refine ⟨?_, ?_, ?_⟩
  · rw [h.done.handled]
    exact hHandled
  · rw [h.done.handled, h.done.session]
    exact hState
  · rintro part rest rfl hClosing
    have hDeaf := @Connection.deaf_of_closing γ codec around part {} (by simp)
    rw [connection_receiveAll] at hClosing
    rw [receiveAll_append]
    refine receiveAll_of_deaf (fun hHears => ?_) rest
    rw [connection_receiveAll] at hHears
    exact hDeaf hHears.1 hClosing

/-! ## A cut in which a reply is due -/

theorem Closes.ne_nil {closing : List Byte} (h : Closes codec closing) : closing ≠ [] := by
  rcases h with ⟨frame, hLimit, -, rfl⟩ | hBroken
  · exact Connection.encode_ne_nil hLimit
  · rintro rfl
    exact Connection.not_broken_nil hBroken

/-- A read that ends with the bytes that close the session shuts the socket, and no reply is due to these. -/
theorem receive_closing {stream closing : List Byte} {new : List DecodedFrame} {c : Connection γ}
    (h : c.Open codec around stream) (hBuf : c.readBuf = [])
    (hFrames : ∀ other ∈ new, other.payload.length ≤ kMaxPayloadLen.toNat ∧ ¬ Refused codec other)
    (hCloses : Closes codec closing) :
    (c.receive codec around (new.flatMap DecodedFrame.encode ++ closing)).session.isOpen = false ∧
      replies ((c.receive codec around (new.flatMap DecodedFrame.encode ++ closing)).handled.drop c.handled.length) =
        replies (turns codec around (Connection.handleAll codec around {} (frameReader.readAll stream).1) new) := by
  have hRest : (frameReader.readAll stream).2 = [] := by
    rw [← hBuf, h.eq]
  have hNew := StreamReader.readAll_flatMap
    (fun frame hFrame rest => frameReader_read (hFrames frame hFrame).1 rest) closing
  have hAll : frameReader.readAll (stream ++ (new.flatMap DecodedFrame.encode ++ closing)) =
      ((frameReader.readAll stream).1 ++ (new ++ (frameReader.readAll closing).1),
        (frameReader.readAll closing).2) := by
    rw [StreamReader.readAll_append frameReader_stable, hRest, List.nil_append, hNew]
  have hUnrefused : ∀ other ∈ (frameReader.readAll stream).1 ++ new, ¬ Refused codec other := by
    intro other hOther
    rcases List.mem_append.mp hOther with hOld | hIn
    · exact h.unrefused other hOld
    · exact (hFrames other hIn).2
  rw [replies_receive h, hBuf, List.nil_append, hNew, h.receive_eq, Connection.reached, hAll]
  rcases hCloses with ⟨frame, hLimit, hRefused, rfl⟩ | hBroken
  · have hOne := @Connection.readAll_frames [frame] (by simpa using hLimit)
    rw [List.flatMap_singleton] at hOne
    obtain ⟨hState, hShut, -⟩ := @Connection.handleAll_of_refused γ codec around _ _ hUnrefused hRefused
    rw [hOne, ← List.append_assoc]
    refine ⟨?_, ?_⟩
    · rw [Connection.closeIfBroken_of_closed hState hShut]
      exact hShut
    · rw [turns_append, replies_append, replies_turn_of_refused hRefused, List.append_nil]
  · rw [StreamReader.readAll_of_none (frameReader_read_of_not_ok hBroken.1), List.append_nil]
    refine ⟨?_, rfl⟩
    rw [Connection.closeIfBroken, if_pos hBroken]
    rfl

/-- The frames up to some point come in one by one, and the others in one read with the bytes that close the session. -/
theorem exists_cut_due {old new : List DecodedFrame} {closing : List Byte} (rest : List Byte)
    (hFrames : ∀ other ∈ old ++ new, other.payload.length ≤ kMaxPayloadLen.toNat ∧ ¬ Refused codec other)
    (hCloses : Closes codec closing) (hFits : (new.flatMap DecodedFrame.encode ++ closing).length ≤ kReadBufSize) :
    ∃ reads, Cut codec around reads ((old ++ new).flatMap DecodedFrame.encode ++ closing ++ rest) ∧
      (receiveAll codec around {} reads).threw =
        decide (replies (turns codec around (Connection.handleAll codec around {} old) new) ≠ []) := by
  have hOld : ∀ other ∈ old, other.payload.length ≤ kMaxPayloadLen.toNat ∧ ¬ Refused codec other :=
    fun other hOther => hFrames other (List.mem_append_left _ hOther)
  have hNew : ∀ other ∈ new, other.payload.length ≤ kMaxPayloadLen.toNat ∧ ¬ Refused codec other :=
    fun other hOther => hFrames other (List.mem_append_right _ hOther)
  obtain ⟨hOneByOne, hOpen, hEmpty⟩ := (@Connection.open_nil γ codec around).receive_frames rfl
    (fun other hOther => (hOld other hOther).1) fun other hOther => (hOld other hOther).2
  rw [List.nil_append] at hOpen
  obtain ⟨hDate, hConnection⟩ := @UpToDate.receiveAll γ codec around _ upToDate_start (old.map DecodedFrame.encode)
  obtain ⟨hShut, hReplies⟩ := receive_closing hOpen hEmpty hNew hCloses
  rw [Connection.readAll_frames fun other hOther => (hOld other hOther).1] at hReplies
  have hDeaf : ¬ ((Connection.receive codec around (Connection.receiveAll codec around {} (old.map DecodedFrame.encode))
      (new.flatMap DecodedFrame.encode ++ closing)).reading ∧
      (Connection.receive codec around (Connection.receiveAll codec around {} (old.map DecodedFrame.encode))
        (new.flatMap DecodedFrame.encode ++ closing)).session.isOpen) := by
    rintro ⟨-, hHears⟩
    rw [hShut] at hHears
    cases hHears
  refine ⟨old.map DecodedFrame.encode ++ (new.flatMap DecodedFrame.encode ++ closing) :: Connection.asRead rest,
    ⟨?_, ?_⟩, ?_⟩
  · rw [List.flatten_append, List.flatten_cons, Connection.flatten_asRead, ← List.flatMap_def, List.flatMap_append]
    simp only [List.append_assoc]
  · rw [Connection.fits_append]
    refine ⟨hOneByOne, ?_, fun _ => ?_, Connection.fits_asRead hDeaf rest⟩
    · exact fun hNil => hCloses.ne_nil (List.append_eq_nil_iff.mp hNil).2
    · rw [hEmpty, List.length_nil, Nat.zero_add]
      exact hFits
  · rw [← hConnection] at hShut hReplies hDeaf
    have hReceived := receive_of_shut hDate (hConnection ▸ hOpen.state.2.1) hShut
    have hStays : (receive codec around (receiveAll codec around {} (old.map DecodedFrame.encode))
        (new.flatMap DecodedFrame.encode ++ closing)).receiveAll codec around (Connection.asRead rest) =
        receive codec around (receiveAll codec around {} (old.map DecodedFrame.encode))
          (new.flatMap DecodedFrame.encode ++ closing) := by
      refine receiveAll_of_deaf ?_ _
      rw [hReceived]
      exact hDeaf
    rw [receiveAll_append]
    refine (congrArg threw hStays).trans ?_
    rw [hReceived, hReplies]

/-- Where a reply is due, the server ends in one cut and lives on in another. -/
theorem exists_cuts_apart {earlier between : List DecodedFrame} {frame : DecodedFrame} {closing : List Byte}
    (rest : List Byte)
    (hFrames : ∀ other ∈ earlier ++ frame :: between,
      other.payload.length ≤ kMaxPayloadLen.toNat ∧ ¬ Refused codec other)
    (hCloses : Closes codec closing)
    (hReplies : RepliesTo codec (around earlier.length) (∃ other ∈ earlier, other.msgType = MsgType.kHandshake) frame)
    (hFits : ((frame :: between).flatMap DecodedFrame.encode ++ closing).length ≤ kReadBufSize) :
    ∃ reads reads', Cut codec around reads ((earlier ++ frame :: between).flatMap DecodedFrame.encode ++
      closing ++ rest) ∧
      Cut codec around reads' ((earlier ++ frame :: between).flatMap DecodedFrame.encode ++ closing ++ rest) ∧
      (receiveAll codec around {} reads).threw = false ∧ (receiveAll codec around {} reads').threw = true := by
  have hShort : (([] : List DecodedFrame).flatMap DecodedFrame.encode ++ closing).length ≤ kReadBufSize := by
    rw [List.length_append] at hFits
    rw [List.flatMap_nil, List.nil_append]
    omega
  have hAll : ∀ other ∈ earlier ++ frame :: between ++ [], other.payload.length ≤ kMaxPayloadLen.toNat ∧
      ¬ Refused codec other := by
    rw [List.append_nil]
    exact hFrames
  obtain ⟨reads, hCut, hThrew⟩ := @exists_cut_due γ codec around _ _ _ rest hAll hCloses hShort
  obtain ⟨reads', hCut', hThrew'⟩ := @exists_cut_due γ codec around _ _ _ rest hFrames hCloses hFits
  rw [List.append_nil] at hCut
  refine ⟨reads, reads', hCut, hCut', hThrew.trans (decide_eq_false (not_not.mpr rfl)),
    hThrew'.trans (decide_eq_true ?_)⟩
  rw [Ne, replies_eq_nil_iff fun other hOther => (hFrames other hOther).2]
  intro hNone
  refine hNone [] frame between rfl ?_
  rw [List.append_nil]
  exact hReplies

end Cuts

end ServedConnection

/-- However the stream is cut, the same frames are handled with the same effects and replies written, and closing is
final, exactly when no complete frame is behind the first handshake refused, and no reply is due to a frame, near
enough to be in the buffer with what closes the session. -/
theorem segmentation_iff {γ : Type} (codec : SessionCodec γ) (around : Nat → Surroundings) (stream : List Byte) :
    ServedConnection.CutIndependent codec around stream ↔
      NoFrameBehind codec stream ∧ ServedConnection.NoReplyDue codec around stream := by
  constructor
  · rintro ⟨hSame, hFinal⟩
    constructor
    · intro before frame next after hFrames hBefore hRefused
      by_contra hNear
      obtain ⟨reads, hCut, h, hIn, hClosing⟩ := @Connection.exists_cut γ codec around _ _ _ _ _ hFrames hBefore hRefused
        (Nat.le_of_not_lt hNear)
      rw [← ServedConnection.connection_receiveAll] at hIn
      exact (hFinal reads hCut).unhandled h hIn hClosing
    · intro earlier frame between closing rest hStream hFrames hCloses hReplies
      by_contra hNear
      obtain ⟨reads, reads', hCut, hCut', hLives, hThrew⟩ := ServedConnection.exists_cuts_apart rest hFrames hCloses
        hReplies (Nat.le_of_not_lt hNear)
      rw [← hStream] at hCut hCut'
      have hBoth := hLives.symm.trans ((hSame reads reads' hCut hCut').threw.trans hThrew)
      cases hBoth
  · rintro ⟨hBehind, hDue⟩
    refine ⟨fun reads reads' hCut hCut' => ?_, fun reads hCut => ?_⟩
    · have h := ServedConnection.cut_settled hCut hBehind hDue
      have h' := ServedConnection.cut_settled hCut' hBehind hDue
      exact ⟨h.done.handled.trans h'.done.handled.symm, h.done.session.trans h'.done.session.symm,
        h.written.trans h'.written.symm, h.threw.trans h'.threw.symm⟩
    · exact (ServedConnection.cut_settled hCut hBehind hDue).closingFinal

/-- A handshake without a payload closes the session; the good one that came in with it is handled all the same. -/
theorem closed_handles : ¬ ∀ (codec : SessionCodec Unit) (around : Nat → Surroundings) (stream : List Byte),
    ServedConnection.CutIndependent codec around stream := by
  intro h
  let codec : SessionCodec Unit :=
    { readHandshake := fun _ => some { playerId := some "A", authToken := some "t" }
      parsePayload := fun _ => none
      build := fun _ => [] }
  let bad : DecodedFrame := { msgType := MsgType.kHandshake }
  let good : DecodedFrame := { msgType := MsgType.kHandshake, payload := [1] }
  have hFrames : (frameReader.readAll ([bad, good].flatMap DecodedFrame.encode)).1 = [] ++ bad :: good :: [] := by
    rw [Connection.readAll_frames (by decide)]
    rfl
  have hNear : bad.encode.length + good.encode.length ≤ kReadBufSize := by
    rw [DecodedFrame.encode, DecodedFrame.encode, length_encodeFrame _ _ _ (by decide),
      length_encodeFrame _ _ _ (by decide)]
    decide
  obtain ⟨reads, hCut, handled, hIn, hClosing⟩ := @Connection.exists_cut Unit codec (fun _ => {}) _ _ _ _ _ hFrames
    (by simp) (by decide) hNear
  rw [← ServedConnection.connection_receiveAll] at hIn
  exact ((h codec (fun _ => {}) _).2 reads hCut).unhandled handled hIn hClosing

end Symulator.Server
