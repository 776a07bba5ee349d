import Symulator.Server.Segmentation

/-! # The read buffer of a session

The buffer of a session has a fixed size. What has come in stands at its front, a read writes behind it, and what
follows a frame that was handled is moved to the front. The buffer is larger than the longest frame, so that an open
session always has room for the next read.
-/

namespace Symulator.Server

open Symulator.Library Symulator.Engine ClientSession

set_option autoImplicit false

/-- The bytes of the buffer, and how many of them are in use. -/
structure ReadBuffer where
  readBuf : List Byte
  bufFill : Nat
  length_readBuf : readBuf.length = kReadBufSize
  bufFill_le : bufFill ≤ kReadBufSize

namespace ReadBuffer

def empty : ReadBuffer where
  readBuf := List.replicate kReadBufSize 0
  bufFill := 0
  length_readBuf := List.length_replicate
  bufFill_le := Nat.zero_le _

/-- What has come in and was not consumed. -/
def unread (b : ReadBuffer) : List Byte := b.readBuf.take b.bufFill

def room (b : ReadBuffer) : Nat := b.readBuf.length - b.bufFill

/-- A read writes behind the bytes in use, no further than the buffer goes. -/
def receive (b : ReadBuffer) (bytes : List Byte) : ReadBuffer where
  readBuf := b.readBuf.take b.bufFill ++ bytes.take b.room ++ b.readBuf.drop (b.bufFill + (bytes.take b.room).length)
  bufFill := b.bufFill + (bytes.take b.room).length
  length_readBuf := by
    have hSize := b.length_readBuf
    have hFill := b.bufFill_le
    simp only [room, List.length_append, List.length_take, List.length_drop]
    omega
  bufFill_le := by
    have hSize := b.length_readBuf
    have hFill := b.bufFill_le
    simp only [room, List.length_take]
    omega

/-- The bytes behind those consumed are moved to the front. -/
def consume (b : ReadBuffer) (consumed : Nat) : ReadBuffer where
  readBuf := (b.readBuf.drop consumed).take (b.bufFill - consumed) ++ b.readBuf.drop (b.bufFill - consumed)
  bufFill := b.bufFill - consumed
  length_readBuf := by
    have hSize := b.length_readBuf
    have hFill := b.bufFill_le
    simp only [List.length_append, List.length_take, List.length_drop]
    omega
  bufFill_le := (Nat.sub_le _ _).trans b.bufFill_le

@[simp] theorem unread_empty : empty.unread = [] := rfl

@[simp] theorem length_unread (b : ReadBuffer) : b.unread.length = b.bufFill := by
  rw [unread, List.length_take, b.length_readBuf]
  exact Nat.min_eq_left b.bufFill_le

theorem unread_receive (b : ReadBuffer) (bytes : List Byte) :
    (b.receive bytes).unread = b.unread ++ bytes.take b.room := by
  have hLength := b.length_unread
  simp only [unread] at hLength
  simp only [unread, receive]
  rw [List.take_left']
  rw [List.length_append, hLength]

theorem unread_consume (b : ReadBuffer) (consumed : Nat) : (b.consume consumed).unread = b.unread.drop consumed := by
  have hSize := b.length_readBuf
  have hFill := b.bufFill_le
  simp only [unread, consume]
  rw [List.take_left', List.drop_take]
  rw [List.length_take, List.length_drop]
  omega

end ReadBuffer

/-- A session with its read buffer, whether a read is under way, and the frames handled so far. -/
structure BufferedSession (γ : Type) where
  session : ClientSession := {}
  buffer : ReadBuffer := .empty
  reading : Bool := true
  handled : List (HandledFrame γ) := []

namespace BufferedSession

variable {γ : Type} (codec : SessionCodec γ) (around : Nat → Surroundings)

def handle (c : BufferedSession γ) (frame : DecodedFrame) : BufferedSession γ :=
  let result := c.session.handleFrame codec (around c.handled.length) frame
  { c with
    session := result.1
    handled := c.handled ++
      [{ frame, before := c.session.info.state, after := result.1.info.state, effects := result.2 }] }

/-- The frame at the front of the buffer is consumed. -/
def advance (c : BufferedSession γ) (consumed : Nat) : BufferedSession γ :=
  { c with buffer := c.buffer.consume consumed }

def processBuffer (c : BufferedSession γ) : BufferedSession γ :=
  if c.buffer.bufFill = 0 then c
  else
    let result := decodeFrame c.buffer.unread
    if result.status = .needMoreData then c
    else if _hOk : result.status = .ok then
      processBuffer (advance (handle codec around c result.frame) result.bytesConsumed.toNat)
    else { c with session := c.session.close }
termination_by c.buffer.bufFill
decreasing_by
  have hBounds := frameReader.read_bounds (if_pos _hOk : frameReader.read c.buffer.unread = some _)
  rw [ReadBuffer.length_unread] at hBounds
  simp only [advance, handle, ReadBuffer.consume]
  omega

def onRead (c : BufferedSession γ) (bytes : List Byte) : BufferedSession γ :=
  let c := processBuffer codec around { c with buffer := c.buffer.receive bytes }
  { c with reading := c.session.info.state ≠ .closing }

/-- The session with what its buffer holds. -/
def toConnection (c : BufferedSession γ) : Connection γ :=
  { session := c.session, readBuf := c.buffer.unread, reading := c.reading, handled := c.handled }

end BufferedSession

/-- A session and the bytes its client has sent it that were not read. -/
structure Wire (γ : Type) where
  pending : List Byte
  conn : BufferedSession γ := {}

namespace Wire

variable {γ : Type} (codec : SessionCodec γ) (around : Nat → Surroundings)

/-- A read that finds `n` bytes takes as many of them as the buffer has room for. -/
def doRead (w : Wire γ) (n : Nat) : Wire γ :=
  if w.conn.reading ∧ w.conn.session.isOpen then
    let got := (w.pending.take n).take w.conn.buffer.room
    { pending := w.pending.drop got.length, conn := w.conn.onRead codec around got }
  else w

def run (stream : List Byte) (sizes : List Nat) : Wire γ := sizes.foldl (doRead codec around) { pending := stream }

end Wire

/-! ## The buffer follows its content -/

namespace BufferedSession

variable {γ : Type} {codec : SessionCodec γ} {around : Nat → Surroundings}

theorem session_toConnection (c : BufferedSession γ) : c.toConnection.session = c.session := rfl

theorem readBuf_toConnection (c : BufferedSession γ) : c.toConnection.readBuf = c.buffer.unread := rfl

theorem handled_toConnection (c : BufferedSession γ) : c.toConnection.handled = c.handled := rfl

theorem readBuf_ne_nil {c : BufferedSession γ} (h : ¬ c.buffer.bufFill = 0) : c.toConnection.readBuf ≠ [] := by
  intro hNil
  exact h (c.buffer.length_unread.symm.trans (List.length_eq_zero_iff.mpr hNil))

theorem processFrames_readBuf (c : Connection γ) (readBuf buffer : List Byte) :
    Connection.processFrames codec around { c with readBuf } buffer =
      Connection.processFrames codec around c buffer := by
  rw [Connection.processFrames_eq, Connection.processFrames_eq, Connection.handleAll_readBuf,
    Connection.closeIfBroken_readBuf]

theorem processFrames_of_ok (c : Connection γ) {buffer : List Byte} (h : (decodeFrame buffer).status = .ok) :
    Connection.processFrames codec around c buffer =
      Connection.processFrames codec around (Connection.handle codec around c (decodeFrame buffer).frame)
        (buffer.drop (decodeFrame buffer).bytesConsumed.toNat) := by
  have hRead : frameReader.read buffer = some ((decodeFrame buffer).frame, (decodeFrame buffer).bytesConsumed.toNat) :=
    if_pos h
  rw [Connection.processFrames_eq, Connection.processFrames_eq, StreamReader.readAll_of_some hRead]
  rfl

/-- The loop that moves the bytes goes as the one that cuts the content. -/
theorem toConnection_processBuffer (c : BufferedSession γ) :
    (processBuffer codec around c).toConnection = Connection.processBuffer codec around c.toConnection := by
  fun_induction processBuffer codec around c with
  | case1 c hEmpty =>
    have hNil : c.toConnection.readBuf = [] := List.length_eq_zero_iff.mp (c.buffer.length_unread.trans hEmpty)
    rw [Connection.processBuffer, Connection.processFrames, if_pos hNil]
  | case2 c hSome result hMore =>
    rw [Connection.processBuffer, Connection.processFrames, if_neg (readBuf_ne_nil hSome)]
    exact (if_pos hMore).symm
  | case3 c hSome result hMore hOk ih =>
    have hNext : (advance (handle codec around c result.frame) result.bytesConsumed.toNat).toConnection =
        { Connection.handle codec around c.toConnection result.frame with
          readBuf := c.buffer.unread.drop result.bytesConsumed.toNat } := by
      rw [← c.buffer.unread_consume]
      rfl
    rw [ih, hNext, Connection.processBuffer, processFrames_readBuf]
    exact (processFrames_of_ok c.toConnection hOk).symm
  | case4 c hSome result hMore hOk =>
    have hBroken : frameReader.read c.toConnection.readBuf = none := frameReader_read_of_not_ok hOk
    rw [Connection.processBuffer, Connection.processFrames_eq, StreamReader.readAll_of_none hBroken,
      Connection.closeIfBroken, if_pos ⟨hOk, hMore⟩]
    rfl

theorem toConnection_onRead (c : BufferedSession γ) {bytes : List Byte} (h : bytes.length ≤ c.buffer.room) :
    (onRead codec around c bytes).toConnection = Connection.onRead codec around c.toConnection bytes := by
  have hReceived : toConnection { c with buffer := c.buffer.receive bytes } =
      { c.toConnection with readBuf := c.toConnection.readBuf ++ bytes } := by
    rw [toConnection, ReadBuffer.unread_receive, List.take_of_length_le h]
    rfl
  have hLoop := @toConnection_processBuffer γ codec around { c with buffer := c.buffer.receive bytes }
  rw [hReceived] at hLoop
  rw [Connection.onRead, ← hLoop]
  rfl

theorem bytesConsumed_bounds {data : List Byte} (h : (decodeFrame data).status = .ok) :
    16 ≤ (decodeFrame data).bytesConsumed.toNat ∧ (decodeFrame data).bytesConsumed.toNat ≤ data.length := by
  have hRead : frameReader.read data = some ((decodeFrame data).frame, (decodeFrame data).bytesConsumed.toNat) :=
    if_pos h
  obtain ⟨hLimit, hLength, -⟩ := frameReader_read_eq_some.mp hRead
  rw [DecodedFrame.encode, length_encodeFrame _ _ _ hLimit] at hLength
  have hBounds := frameReader.read_bounds hRead
  omega

/-- A frame handled is one of those the loop took out of the buffer, and takes sixteen bytes of it at least. -/
theorem handled_processBuffer (c : BufferedSession γ) :
    16 * (processBuffer codec around c).handled.length + (processBuffer codec around c).buffer.bufFill ≤
      16 * c.handled.length + c.buffer.bufFill := by
  fun_induction processBuffer codec around c with
  | case1 c hEmpty => exact le_rfl
  | case2 c hSome result hMore => exact le_rfl
  | case3 c hSome result hMore hOk ih =>
    have hHeader : 16 ≤ result.bytesConsumed.toNat := (bytesConsumed_bounds hOk).1
    have hThere : result.bytesConsumed.toNat ≤ c.buffer.unread.length := (bytesConsumed_bounds hOk).2
    have hHandled : (advance (handle codec around c result.frame) result.bytesConsumed.toNat).handled.length =
        c.handled.length + 1 := by
      simp [advance, handle]
    have hFill : (advance (handle codec around c result.frame) result.bytesConsumed.toNat).buffer.bufFill =
        c.buffer.bufFill - result.bytesConsumed.toNat := rfl
    rw [ReadBuffer.length_unread] at hThere
    omega
  | case4 c hSome result hMore hOk => exact le_rfl

end BufferedSession

/-! ## What is left in the buffer -/

theorem length_lt_of_needMoreData {data : List Byte} (h : (decodeFrame data).status = .needMoreData) :
    data.length < kReadBufSize := by
  have hSize : kReadBufSize = 65552 := rfl
  by_cases hHeader : data.length < 16
  · omega
  obtain ⟨magic, msgType, flags, seq, len, crc, tail, hMagic, hSeq, hLen, hCrc, rfl⟩ :=
    exists_fields (Nat.le_of_not_lt hHeader)
  rw [decodeFrame_fields msgType flags tail hMagic hSeq hLen hCrc] at h
  split at h
  · cases h
  split at h
  · cases h
  rename_i hMax
  split at h
  · rename_i hTotal
    have hLimit : (leWord 32 len).toNat ≤ kMaxPayloadLen.toNat := BitVec.not_lt.mp hMax
    have hMaxLen : kMaxPayloadLen.toNat = 65535 := rfl
    rw [toNat_total (BitVec.not_lt.mp hMax)] at hTotal
    simp only [List.length_append, List.length_cons, List.length_nil, hMagic, hSeq, hLen, hCrc]
    omega
  · split at h
    · cases h
    · cases h

namespace Wire

variable {γ : Type} {codec : SessionCodec γ} {around : Nat → Surroundings}

/-- Where there is room for them, a read takes the bytes it finds, and the connection receives them. -/
theorem doRead_eq (w : Wire γ) {n : Nat} (hRoom : w.conn.toConnection.readBuf.length + n ≤ kReadBufSize)
    (hHears : w.conn.toConnection.reading = true ∧ w.conn.toConnection.session.isOpen = true) :
    (doRead codec around w n).conn.toConnection =
        Connection.receive codec around w.conn.toConnection (w.pending.take n) ∧
      (doRead codec around w n).pending = w.pending.drop n := by
  have hFits : n ≤ w.conn.buffer.room := by
    rw [show w.conn.toConnection.readBuf.length = w.conn.buffer.bufFill from w.conn.buffer.length_unread] at hRoom
    rw [ReadBuffer.room, w.conn.buffer.length_readBuf]
    omega
  have hGot : (w.pending.take n).take w.conn.buffer.room = w.pending.take n := by
    rw [List.take_take, Nat.min_eq_right hFits]
  have hTakes : w.conn.reading = true ∧ w.conn.session.isOpen = true := hHears
  rw [doRead, if_pos hTakes, hGot, Connection.receive, if_pos hHears]
  refine ⟨BufferedSession.toConnection_onRead w.conn ?_, ?_⟩
  · rw [List.length_take]
    exact (Nat.min_le_left _ _).trans hFits
  · change w.pending.drop (w.pending.take n).length = w.pending.drop n
    rw [List.length_take]
    rcases Nat.le_total n w.pending.length with hLe | hLe
    · rw [Nat.min_eq_left hLe]
    · rw [Nat.min_eq_right hLe, List.drop_length, List.drop_of_length_le hLe]

/-- What holds of an open session between its reads. -/
structure Waiting (stream : List Byte) (w : Wire γ) : Prop where
  state : w.conn.session.info.state ≠ .closing
  reading : w.conn.reading = true
  incomplete : (decodeFrame w.conn.buffer.unread).status = .needMoreData
  suffix : stream = w.conn.handled.flatMap (fun h => h.frame.encode) ++ w.conn.buffer.unread ++ w.pending

/-- What holds of any session between its reads. -/
structure Unwedged (stream : List Byte) (w : Wire γ) : Prop where
  room : w.conn.reading = true → w.conn.buffer.bufFill < kReadBufSize
  waiting : w.conn.session.isOpen = true → Waiting stream w

theorem unwedged_start (stream : List Byte) : Unwedged stream ({ pending := stream } : Wire γ) where
  room _ := (by decide : 0 < kReadBufSize)
  waiting _ := ⟨by simp, rfl, (by decide : (decodeFrame []).status = .needMoreData), rfl⟩

theorem handled_handleAll (c : Connection γ) (frames : List DecodedFrame) :
    (Connection.handleAll codec around c frames).handled.map HandledFrame.frame =
      c.handled.map HandledFrame.frame ++ frames := by
  induction frames generalizing c with
  | nil => simp [Connection.handleAll]
  | cons frame frames ih =>
    rw [Connection.handleAll, List.foldl_cons]
    refine (ih (Connection.handle codec around c frame)).trans ?_
    simp [Connection.handle]

theorem isOpen_of_handleAll {c : Connection γ} {frames : List DecodedFrame}
    (h : (Connection.handleAll codec around c frames).session.isOpen = true) : c.session.isOpen = true := by
  induction frames generalizing c with
  | nil => exact h
  | cons frame frames ih =>
    have hNext : (c.session.handleFrame codec (around c.handled.length) frame).1.isOpen = true :=
      @ih (Connection.handle codec around c frame) h
    rw [handleFrame_eq.2, Bool.and_eq_true] at hNext
    exact hNext.1

theorem state_handleAll {c : Connection γ} {frames : List DecodedFrame} (hState : c.session.info.state ≠ .closing)
    (h : (Connection.handleAll codec around c frames).session.isOpen = true) :
    (Connection.handleAll codec around c frames).session.info.state ≠ .closing := by
  induction frames generalizing c with
  | nil => exact hState
  | cons frame frames ih =>
    have hNext : (c.session.handleFrame codec (around c.handled.length) frame).1.isOpen = true :=
      @isOpen_of_handleAll γ codec around (Connection.handle codec around c frame) frames h
    rw [handleFrame_eq.2, Bool.and_eq_true, Bool.not_eq_true', decide_eq_false_iff_not] at hNext
    exact ih (handleFrame_of_not_refused hNext.2 hState).1 h

/-- The loop over the buffer of a session, told from what was in the buffer. -/
theorem processBuffer_spec (c : BufferedSession γ) :
    (BufferedSession.processBuffer codec around c).handled.map HandledFrame.frame =
        c.handled.map HandledFrame.frame ++ (frameReader.readAll c.buffer.unread).1 ∧
      (BufferedSession.processBuffer codec around c).buffer.unread = (frameReader.readAll c.buffer.unread).2 ∧
      (Broken (frameReader.readAll c.buffer.unread).2 →
        (BufferedSession.processBuffer codec around c).session.info.state = .closing ∧
          (BufferedSession.processBuffer codec around c).session.isOpen = false) ∧
      (c.session.info.state ≠ .closing → (BufferedSession.processBuffer codec around c).session.isOpen = true →
        (BufferedSession.processBuffer codec around c).session.info.state ≠ .closing) := by
  have hLoop := @BufferedSession.toConnection_processBuffer γ codec around c
  rw [Connection.processBuffer, Connection.processFrames_eq] at hLoop
  have hHandled := congrArg Connection.handled hLoop
  have hUnread := congrArg Connection.readBuf hLoop
  have hSession := congrArg Connection.session hLoop
  have hClosed : (BufferedSession.processBuffer codec around c).session = _ := hSession
  refine ⟨?_, hUnread, fun hBroken => ?_, fun hState hOpen => ?_⟩
  · have hSame : ∀ (c : Connection γ) (rest : List Byte), (Connection.closeIfBroken c rest).handled = c.handled := by
      intro c rest
      unfold Connection.closeIfBroken
      split <;> rfl
    refine (congrArg (List.map HandledFrame.frame) (hHandled.trans (hSame _ _))).trans ?_
    exact handled_handleAll c.toConnection _
  · rw [hClosed]
    simp only [Connection.closeIfBroken]
    rw [if_pos (by exact hBroken)]
    exact ⟨rfl, rfl⟩
  · rw [hClosed] at hOpen ⊢
    simp only [Connection.closeIfBroken] at hOpen ⊢
    split at hOpen
    · cases hOpen
    · rename_i hSound
      rw [if_neg hSound]
      exact state_handleAll hState hOpen

/-- The reader is stuck, and not on bytes that are no frame: the rest is still to come. -/
theorem needMoreData_of_not_broken {data : List Byte} (hStuck : frameReader.read data = none) (h : ¬ Broken data) :
    (decodeFrame data).status = .needMoreData := by
  by_contra hMore
  refine h ⟨fun hOk => ?_, hMore⟩
  have hRead : frameReader.read data = some ((decodeFrame data).frame, (decodeFrame data).bytesConsumed.toNat) :=
    if_pos hOk
  rw [hStuck] at hRead
  cases hRead

theorem flatMap_handled (handled : List (HandledFrame γ)) :
    handled.flatMap (fun h => h.frame.encode) = (handled.map HandledFrame.frame).flatMap DecodedFrame.encode := by
  rw [List.flatMap_map]

/-- A read of an open session: the frames that are complete are handled, and the rest waits. -/
theorem Waiting.doRead {stream : List Byte} {w : Wire γ} (h : Waiting stream w) (hOpen : w.conn.session.isOpen = true)
    (n : Nat) :
    let w' := Wire.doRead codec around w n
    frameReader.read w'.conn.buffer.unread = none ∧
      stream = w'.conn.handled.flatMap (fun h => h.frame.encode) ++ w'.conn.buffer.unread ++ w'.pending ∧
      w'.conn.reading = decide (w'.conn.session.info.state ≠ .closing) ∧
      (Broken w'.conn.buffer.unread → w'.conn.session.info.state = .closing ∧ w'.conn.session.isOpen = false) ∧
      (w'.conn.session.isOpen = true → w'.conn.session.info.state ≠ .closing) := by
  let got := (w.pending.take n).take w.conn.buffer.room
  let before : BufferedSession γ := { w.conn with buffer := w.conn.buffer.receive got }
  let after := BufferedSession.processBuffer codec around before
  have hGot : before.buffer.unread = w.conn.buffer.unread ++ got := by
    rw [ReadBuffer.unread_receive, List.take_take, Nat.min_self]
  obtain ⟨hHandled, hUnread, hBroken, hStays⟩ := @processBuffer_spec γ codec around before
  rw [Wire.doRead, if_pos ⟨h.reading, hOpen⟩]
  refine ⟨?_, ?_, rfl, fun hNoFrame => hBroken ?_, hStays h.state⟩
  · exact (congrArg frameReader.read hUnread).trans (StreamReader.read_readAll _)
  · -- what was unread and what came in are the frames handled now and what is left
    have hSplit := @StreamReader.eq_flatMap_append _ _ frameReader _ take_eq_encode before.buffer.unread
    have hTaken : w.pending = got ++ w.pending.drop got.length := by
      have hPrefix : got <+: w.pending := (List.take_prefix _ _).trans (List.take_prefix _ _)
      obtain ⟨later, hLater⟩ := hPrefix
      rw [← hLater, List.drop_left]
    calc stream
        = w.conn.handled.flatMap (fun h => h.frame.encode) ++ before.buffer.unread ++ w.pending.drop got.length := by
          rw [hGot, ← List.append_assoc, List.append_assoc _ got, ← hTaken]
          exact h.suffix
      _ = after.handled.flatMap (fun h => h.frame.encode) ++ after.buffer.unread ++ w.pending.drop got.length := by
          rw [flatMap_handled after.handled, hHandled, hUnread, List.flatMap_append,
            List.append_assoc _ _ (frameReader.readAll before.buffer.unread).2, ← hSplit, ← flatMap_handled]
  · rw [← hUnread]
    exact hNoFrame

theorem Unwedged.doRead {stream : List Byte} {w : Wire γ} (h : Unwedged stream w) (n : Nat) :
    Unwedged stream (Wire.doRead codec around w n) := by
  by_cases hHears : w.conn.reading ∧ w.conn.session.isOpen
  · obtain ⟨hStuck, hSuffix, hReading, hBroken, hState⟩ :=
      @Waiting.doRead γ codec around _ _ (h.waiting hHears.2) hHears.2 n
    refine ⟨fun hGoesOn => ?_, fun hOpen => ?_⟩
    · rw [hReading] at hGoesOn
      have hSound := fun hNoFrame => of_decide_eq_true hGoesOn (hBroken hNoFrame).1
      have hRoom := length_lt_of_needMoreData (needMoreData_of_not_broken hStuck hSound)
      rwa [ReadBuffer.length_unread] at hRoom
    · have hSound := fun hNoFrame => hState hOpen (hBroken hNoFrame).1
      exact ⟨hState hOpen, hReading.trans (decide_eq_true (hState hOpen)), needMoreData_of_not_broken hStuck hSound,
        hSuffix⟩
  · rw [Wire.doRead, if_neg hHears]
    exact h

theorem unwedged_run (stream : List Byte) (sizes : List Nat) : Unwedged stream (run codec around stream sizes) := by
  have hAll : ∀ w : Wire γ, Unwedged stream w → Unwedged stream (sizes.foldl (Wire.doRead codec around) w) := by
    induction sizes with
    | nil => exact fun w h => h
    | cons n sizes ih => exact fun w h => ih _ (h.doRead n)
  exact hAll _ (unwedged_start stream)

/-- A read of an open session takes bytes as long as there are any. -/
theorem Unwedged.progress {stream : List Byte} {w : Wire γ} (h : Unwedged stream w)
    (hOpen : w.conn.session.isOpen = true) (hPending : w.pending ≠ []) {n : Nat} (hn : 0 < n) :
    (Wire.doRead codec around w n).pending.length < w.pending.length := by
  have hReading := (h.waiting hOpen).reading
  have hRoom := h.room hReading
  have hSize := w.conn.buffer.length_readBuf
  have hThere := List.length_pos_iff.mpr hPending
  rw [Wire.doRead, if_pos ⟨hReading, hOpen⟩]
  simp only [ReadBuffer.room, List.length_drop, List.length_take]
  omega

end Wire

/-- Every call that handles the buffer of an open session leaves no complete frame at its front and consumes no byte but
those of frames handled. The next read is issued with room in the buffer and takes bytes as long as there are any, and
the loop over the buffer takes sixteen bytes out of it in every round that it goes on. -/
theorem readBuffer_neverWedges {γ : Type} (codec : SessionCodec γ) (around : Nat → Surroundings) (stream : List Byte)
    (sizes : List Nat) :
    let w := Wire.run codec around stream sizes
    (w.conn.session.isOpen = true → ∀ n, let w' := Wire.doRead codec around w n
      (∀ frame : DecodedFrame, frame.payload.length ≤ kMaxPayloadLen.toNat → ¬ frame.encode <+: w'.conn.buffer.unread) ∧
        stream = w'.conn.handled.flatMap (fun h => h.frame.encode) ++ w'.conn.buffer.unread ++ w'.pending ∧
        (w'.conn.session.isOpen = true → w'.conn.reading = true ∧ w'.conn.buffer.bufFill < kReadBufSize)) ∧
    (w.conn.reading = true → w.conn.buffer.bufFill < kReadBufSize) ∧
    (w.conn.session.isOpen = true → w.pending ≠ [] → ∀ n, 0 < n →
      (Wire.doRead codec around w n).pending.length < w.pending.length) ∧
    ∀ c : BufferedSession γ,
      16 * (c.processBuffer codec around).handled.length + (c.processBuffer codec around).buffer.bufFill ≤
      16 * c.handled.length + c.buffer.bufFill := by
  intro w
  have h : Wire.Unwedged stream w := Wire.unwedged_run stream sizes
  refine ⟨fun hOpen n => ?_, h.room, fun hOpen hPending n hn => h.progress hOpen hPending hn,
    BufferedSession.handled_processBuffer⟩
  obtain ⟨hStuck, hSuffix, -, -, -⟩ := @Wire.Waiting.doRead γ codec around _ _ (h.waiting hOpen) hOpen n
  have hNext : Wire.Unwedged stream (Wire.doRead codec around w n) := h.doRead n
  refine ⟨fun frame hLimit hFrame => ?_, hSuffix, fun hStill => ?_⟩
  · have hRead := frameReader_read_eq_some.mpr ⟨hLimit, rfl, hFrame⟩
    rw [hStuck] at hRead
    cases hRead
  · have hReading := (hNext.waiting hStill).reading
    exact ⟨hReading, hNext.room hReading⟩

def heartbeatFrame (seqId : BitVec 32) : DecodedFrame := { msgType := MsgType.kHeartbeat, seqId }

/-- A codec that reads neither handshakes nor commands. -/
def quietCodec : SessionCodec Unit where
  readHandshake _ := none
  parsePayload _ := none
  build _ := []

def heartbeats : List Byte := (heartbeatFrame 1).encode ++ (heartbeatFrame 2).encode

/-- The first of two frames comes in two parts, the second with the beginning of the next frame behind it. It is
handled, and what is left waits. -/
theorem readBuffer_neverWedges_cutFrame : ∃ w w' : Wire Unit,
    w = Wire.run quietCodec (fun _ => {}) heartbeats [6] ∧ w' = Wire.doRead quietCodec (fun _ => {}) w 20 ∧
      w.conn.buffer.unread = heartbeats.take 6 ∧ w'.conn.handled.length = 1 ∧ w'.pending.length < w.pending.length ∧
      (∀ frame : DecodedFrame, frame.payload.length ≤ kMaxPayloadLen.toNat →
        ¬ frame.encode <+: w'.conn.buffer.unread) ∧
      heartbeats = w'.conn.handled.flatMap (fun h => h.frame.encode) ++ w'.conn.buffer.unread ++ w'.pending := by
  have hKept := readBuffer_neverWedges quietCodec (fun _ => {}) heartbeats [6]
  have hFirst : (Wire.run quietCodec (fun _ => {}) heartbeats [6]).conn.toConnection =
        Connection.receive quietCodec (fun _ => {}) {} (heartbeats.take 6) ∧
      (Wire.run quietCodec (fun _ => {}) heartbeats [6]).pending = heartbeats.drop 6 :=
    Wire.doRead_eq { pending := heartbeats } (by decide) ⟨rfl, rfl⟩
  generalize Wire.run quietCodec (fun _ => {}) heartbeats [6] = w at hKept hFirst ⊢
  obtain ⟨hConnection, hPending⟩ := hFirst
  have hSecond := @Wire.doRead_eq _ quietCodec (fun _ => {}) w 20 (by rw [hConnection]; decide +kernel)
    (by rw [hConnection]; decide +kernel)
  rw [hConnection, hPending] at hSecond
  have hOpen : w.conn.session.isOpen = true := by
    rw [← BufferedSession.session_toConnection, hConnection]
    decide +kernel
  have hThere : w.pending ≠ [] := by
    rw [hPending]
    decide
  have hUnread : w.conn.buffer.unread = heartbeats.take 6 := by
    rw [← BufferedSession.readBuf_toConnection, hConnection]
    decide +kernel
  have hHandled : (Wire.doRead quietCodec (fun _ => {}) w 20).conn.handled.length = 1 := by
    rw [← BufferedSession.handled_toConnection, hSecond.1]
    decide +kernel
  obtain ⟨hLeaves, -, hProgress, -⟩ := hKept
  obtain ⟨hNoFrame, hSuffix, -⟩ := hLeaves hOpen 20
  exact ⟨w, _, rfl, rfl, hUnread, hHandled, hProgress hOpen hThere 20 (by decide), hNoFrame, hSuffix⟩

end Symulator.Server
