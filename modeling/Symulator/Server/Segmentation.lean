import Symulator.Server.ClientSession

/-! # A stream cut into reads

However the bytes of a client come in, the frames handled are those of the whole stream up to the handshake that
closes the session. One frame more is handled only where it is complete in the buffer together with that handshake.
-/

namespace Symulator.Server

open Symulator.Library Symulator.Engine ClientSession

set_option autoImplicit false

section Statement

variable {γ : Type} (codec : SessionCodec γ) (around : Nat → Surroundings)

/-- The reads of a new session make up the stream. -/
def Cut (reads : List (List Byte)) (stream : List Byte) : Prop :=
  reads.flatten = stream ∧ Connection.Fits codec around {} reads

omit around in
/-- No complete frame follows the first handshake refused, near enough to be in the buffer with it. -/
def NoFrameBehind (stream : List Byte) : Prop :=
  ∀ before frame next after, (frameReader.readAll stream).1 = before ++ frame :: next :: after →
    (∀ other ∈ before, ¬ Refused codec other) → Refused codec frame →
      kReadBufSize < frame.encode.length + next.encode.length

end Statement

namespace Connection

variable {γ : Type} {codec : SessionCodec γ} {around : Nat → Surroundings}

/-! ## The loop over the buffer -/

variable (codec around) in
def handleAll (c : Connection γ) (frames : List DecodedFrame) : Connection γ := frames.foldl (handle codec around) c

theorem handleAll_append (c : Connection γ) (frames more : List DecodedFrame) :
    handleAll codec around c (frames ++ more) = handleAll codec around (handleAll codec around c frames) more :=
  List.foldl_append

/-- The session of a client that sent bytes which are no frame is closed. -/
def closeIfBroken (c : Connection γ) (rest : List Byte) : Connection γ :=
  if Broken rest then { c with session := c.session.close } else c

theorem processFrames_eq (c : Connection γ) (buffer : List Byte) : processFrames codec around c buffer =
    { closeIfBroken (handleAll codec around c (frameReader.readAll buffer).1) (frameReader.readAll buffer).2 with
      readBuf := (frameReader.readAll buffer).2 } := by
  fun_induction processFrames codec around c buffer with
  | case1 c =>
    have hRead : frameReader.read [] = none := frameReader_read_of_not_ok (by decide)
    rw [StreamReader.readAll_of_none hRead, closeIfBroken, if_neg (by decide)]
    rfl
  | case2 c buffer hSome result hMore =>
    have hRead : frameReader.read buffer = none := frameReader_read_of_not_ok (by simp [result, hMore])
    rw [StreamReader.readAll_of_none hRead, closeIfBroken, if_neg fun h => h.2 hMore]
    rfl
  | case3 c buffer hSome result hMore hOk ih =>
    have hRead : frameReader.read buffer = some (result.frame, result.bytesConsumed.toNat) := if_pos hOk
    rw [ih, StreamReader.readAll_of_some hRead]
    rfl
  | case4 c buffer hSome result hMore hOk =>
    have hRead : frameReader.read buffer = none := frameReader_read_of_not_ok hOk
    rw [StreamReader.readAll_of_none hRead, closeIfBroken, if_pos ⟨hOk, hMore⟩]
    rfl

theorem handleAll_of_unrefused {c : Connection γ} {frames : List DecodedFrame}
    (hFrames : ∀ frame ∈ frames, ¬ Refused codec frame) (hState : c.session.info.state ≠ .closing)
    (hHandled : ∀ h ∈ c.handled, h.before ≠ .closing ∧ h.after ≠ .closing) :
    (handleAll codec around c frames).session.info.state ≠ .closing ∧
      (handleAll codec around c frames).session.isOpen = c.session.isOpen ∧
      (handleAll codec around c frames).reading = c.reading ∧
      ∀ h ∈ (handleAll codec around c frames).handled, h.before ≠ .closing ∧ h.after ≠ .closing := by
  induction frames generalizing c with
  | nil => exact ⟨hState, rfl, rfl, hHandled⟩
  | cons frame frames ih =>
    obtain ⟨hNext, hOpen⟩ := @handleFrame_of_not_refused γ codec (around c.handled.length) c.session frame
      (hFrames frame List.mem_cons_self) hState
    obtain ⟨hLast, hOpen', hReading, hAll⟩ := @ih (handle codec around c frame)
      (fun other hOther => hFrames other (List.mem_cons_of_mem _ hOther)) hNext (by
        intro h hIn
        rcases List.mem_append.mp hIn with hIn | hIn
        · exact hHandled h hIn
        · rw [List.mem_singleton.mp hIn]
          exact ⟨hState, hNext⟩)
    exact ⟨hLast, hOpen'.trans hOpen, hReading, hAll⟩

/-! ## What a stream comes to -/

variable (codec) in
/-- The frames up to the first handshake refused. -/
def served : List DecodedFrame → List DecodedFrame
  | [] => []
  | frame :: frames => if Refused codec frame then [frame] else frame :: served frames

theorem served_of_unrefused {frames : List DecodedFrame} (h : ∀ frame ∈ frames, ¬ Refused codec frame) :
    served codec frames = frames := by
  induction frames with
  | nil => rfl
  | cons frame frames ih =>
    rw [served, if_neg (h frame List.mem_cons_self), ih fun other hOther => h other (List.mem_cons_of_mem _ hOther)]

theorem served_of_refused {before after : List DecodedFrame} {frame : DecodedFrame}
    (h : ∀ other ∈ before, ¬ Refused codec other) (hRefused : Refused codec frame) :
    served codec (before ++ frame :: after) = before ++ [frame] := by
  induction before with
  | nil => exact if_pos hRefused
  | cons other before ih =>
    rw [List.cons_append, served, if_neg (h other List.mem_cons_self),
      ih fun earlier hEarlier => h earlier (List.mem_cons_of_mem _ hEarlier)]
    rfl

theorem refused_cases (frames : List DecodedFrame) : (∀ frame ∈ frames, ¬ Refused codec frame) ∨
    ∃ before frame after, frames = before ++ frame :: after ∧ (∀ other ∈ before, ¬ Refused codec other) ∧
      Refused codec frame := by
  induction frames with
  | nil => exact Or.inl (by simp)
  | cons frame frames ih =>
    by_cases hRefused : Refused codec frame
    · exact Or.inr ⟨[], frame, frames, rfl, by simp, hRefused⟩
    · rcases ih with hNone | ⟨before, first, after, rfl, hBefore, hFirst⟩
      · exact Or.inl (List.forall_mem_cons.mpr ⟨hRefused, hNone⟩)
      · exact Or.inr ⟨frame :: before, first, after, rfl, List.forall_mem_cons.mpr ⟨hRefused, hBefore⟩, hFirst⟩

variable (codec around) in
/-- The frames served, and the end of the session where the stream breaks off before. -/
def outcome (stream : List Byte) : Connection γ :=
  closeIfBroken (handleAll codec around {} (served codec (frameReader.readAll stream).1)) (frameReader.readAll stream).2

/-- A session that has read `stream` and gone on reading. -/
structure Open (codec : SessionCodec γ) (around : Nat → Surroundings) (stream : List Byte)
    (c : Connection γ) : Prop where
  eq : c = { handleAll codec around {} (frameReader.readAll stream).1 with readBuf := (frameReader.readAll stream).2 }
  unrefused : ∀ frame ∈ (frameReader.readAll stream).1, ¬ Refused codec frame
  sound : ¬ Broken (frameReader.readAll stream).2

theorem Open.state {stream : List Byte} {c : Connection γ} (h : Open codec around stream c) :
    c.session.info.state ≠ .closing ∧ c.session.isOpen = true ∧ c.reading = true ∧
      ∀ h ∈ c.handled, h.before ≠ .closing ∧ h.after ≠ .closing := by
  obtain ⟨hState, hOpen, hReading, hHandled⟩ := @handleAll_of_unrefused γ codec around {} _ h.unrefused (by simp)
    (by simp)
  rw [h.eq]
  exact ⟨hState, hOpen, hReading, hHandled⟩

/-- The session that has read all of the stream it follows. -/
structure Done (codec : SessionCodec γ) (around : Nat → Surroundings) (stream : List Byte)
    (c : Connection γ) : Prop where
  session : c.session = (outcome codec around stream).session
  handled : c.handled = (outcome codec around stream).handled

theorem Open.done {stream : List Byte} {c : Connection γ} (h : Open codec around stream c) :
    Done codec around stream c := by
  have hOutcome : outcome codec around stream = handleAll codec around {} (frameReader.readAll stream).1 := by
    rw [outcome, served_of_unrefused h.unrefused, closeIfBroken, if_neg h.sound]
  constructor
  · rw [hOutcome, h.eq]
  · rw [hOutcome, h.eq]

theorem open_nil : Open codec around [] ({} : Connection γ) := by
  have hRead : frameReader.read [] = none := frameReader_read_of_not_ok (by decide)
  have hAll := StreamReader.readAll_of_none hRead
  refine ⟨?_, ?_, ?_⟩
  · rw [hAll]
    rfl
  · rw [hAll]
    simp
  · rw [hAll]
    decide

theorem handleAll_readBuf (c : Connection γ) (readBuf : List Byte) (frames : List DecodedFrame) :
    handleAll codec around { c with readBuf } frames = { handleAll codec around c frames with readBuf } := by
  induction frames generalizing c with
  | nil => rfl
  | cons frame frames ih => exact ih (handle codec around c frame)

theorem closeIfBroken_readBuf (c : Connection γ) (readBuf rest : List Byte) :
    closeIfBroken { c with readBuf } rest = { closeIfBroken c rest with readBuf } := by
  unfold closeIfBroken
  split <;> rfl

variable (codec around) in
/-- The session when all frames of the stream have been handled. -/
def reached (stream : List Byte) : Connection γ :=
  closeIfBroken (handleAll codec around {} (frameReader.readAll stream).1) (frameReader.readAll stream).2

/-- A read of a session that has gone on reading handles the frames it completes. -/
theorem Open.receive_eq {stream : List Byte} {c : Connection γ} (h : Open codec around stream c) (bytes : List Byte) :
    receive codec around c bytes =
      { reached codec around (stream ++ bytes) with
        readBuf := (frameReader.readAll (stream ++ bytes)).2
        reading := (reached codec around (stream ++ bytes)).session.info.state ≠ .closing } := by
  obtain ⟨-, hOpen, hReading, -⟩ := h.state
  have hAll := StreamReader.readAll_append frameReader_stable stream bytes
  have hReached : closeIfBroken (handleAll codec around { c with readBuf := c.readBuf ++ bytes }
      (frameReader.readAll (c.readBuf ++ bytes)).1) (frameReader.readAll (c.readBuf ++ bytes)).2 =
        { reached codec around (stream ++ bytes) with readBuf := c.readBuf ++ bytes } := by
    rw [handleAll_readBuf, closeIfBroken_readBuf, reached, hAll, handleAll_append, h.eq, handleAll_readBuf,
      closeIfBroken_readBuf]
  have hRest : (frameReader.readAll (c.readBuf ++ bytes)).2 = (frameReader.readAll (stream ++ bytes)).2 := by
    rw [hAll, h.eq]
  rw [receive, if_pos ⟨hReading, hOpen⟩, onRead, processBuffer, processFrames_eq, hReached, hRest]

/-- Where no new frame closes the session it goes on reading. -/
theorem Open.receive {stream : List Byte} {c : Connection γ} (h : Open codec around stream c) {bytes : List Byte}
    (hFrames : ∀ frame ∈ (frameReader.readAll (stream ++ bytes)).1, ¬ Refused codec frame)
    (hSound : ¬ Broken (frameReader.readAll (stream ++ bytes)).2) :
    Open codec around (stream ++ bytes) (Connection.receive codec around c bytes) := by
  obtain ⟨hState, -, hReading, -⟩ := @handleAll_of_unrefused γ codec around {} _ hFrames (by simp) (by simp)
  refine ⟨?_, hFrames, hSound⟩
  rw [h.receive_eq bytes, reached, closeIfBroken, if_neg hSound, decide_eq_true hState]
  exact congrArg (fun reading => { handleAll codec around {} (frameReader.readAll (stream ++ bytes)).1 with
    readBuf := (frameReader.readAll (stream ++ bytes)).2, reading }) hReading.symm

theorem frames_append (stream more : List Byte) : (frameReader.readAll (stream ++ more)).1 =
    (frameReader.readAll stream).1 ++ (frameReader.readAll ((frameReader.readAll stream).2 ++ more)).1 := by
  rw [StreamReader.readAll_append frameReader_stable]

theorem length_frames_le {data : List Byte} : ((frameReader.readAll data).1.map fun frame => frame.encode.length).sum ≤
    data.length := by
  have hSplit := congrArg List.length (@StreamReader.eq_flatMap_append _ _ frameReader _ take_eq_encode data)
  rw [List.length_append, List.length_flatMap] at hSplit
  omega

theorem handleAll_of_refused {before : List DecodedFrame} {frame : DecodedFrame}
    (hBefore : ∀ other ∈ before, ¬ Refused codec other) (hRefused : Refused codec frame) :
    (handleAll codec around {} (before ++ [frame])).session.info.state = .closing ∧
      (handleAll codec around {} (before ++ [frame])).session.isOpen = false ∧
      ∀ h ∈ (handleAll codec around {} (before ++ [frame])).handled, h.before ≠ .closing := by
  obtain ⟨hState, -, -, hHandled⟩ := @handleAll_of_unrefused γ codec around {} _ hBefore (by simp) (by simp)
  rw [handleAll_append]
  refine ⟨state_handleFrame_of_refused hRefused, ?_, fun h hIn => ?_⟩
  · exact handleFrame_eq.2.trans (by simp [hRefused])
  · rcases List.mem_append.mp hIn with hIn | hIn
    · exact (hHandled h hIn).1
    · rw [List.mem_singleton.mp hIn]
      exact hState

theorem closeIfBroken_of_closed {c : Connection γ} (hState : c.session.info.state = .closing)
    (hOpen : c.session.isOpen = false) (rest : List Byte) : closeIfBroken c rest = c := by
  unfold closeIfBroken
  split
  · have hClose : c.session.close = c.session := by
      rw [close, ← hState, ← hOpen]
    rw [hClose]
  · rfl

/-- Where the first handshake refused is the last frame read, or the rest is broken, the stream has come to its
outcome. -/
theorem outcome_of_refused {stream : List Byte} {before after : List DecodedFrame} {frame : DecodedFrame}
    (hFrames : (frameReader.readAll stream).1 = before ++ frame :: after)
    (hBefore : ∀ other ∈ before, ¬ Refused codec other) (hRefused : Refused codec frame) :
    outcome codec around stream = handleAll codec around {} (before ++ [frame]) := by
  obtain ⟨hState, hOpen, -⟩ := @handleAll_of_refused γ codec around _ _ hBefore hRefused
  rw [outcome, hFrames, served_of_refused hBefore hRefused, closeIfBroken_of_closed hState hOpen]

theorem outcome_of_broken {stream more : List Byte}
    (hFrames : ∀ frame ∈ (frameReader.readAll stream).1, ¬ Refused codec frame)
    (hBroken : Broken (frameReader.readAll stream).2) :
    outcome codec around (stream ++ more) = reached codec around stream ∧
      (reached codec around stream).session.info.state = .closing := by
  have hRead := frameReader_read_of_not_ok (hBroken.append more).1
  constructor
  · rw [outcome, StreamReader.readAll_append frameReader_stable, StreamReader.readAll_of_none hRead, List.append_nil,
      served_of_unrefused hFrames, reached, closeIfBroken, closeIfBroken, if_pos hBroken, if_pos (hBroken.append more)]
  · rw [reached, closeIfBroken, if_pos hBroken]
    rfl

theorem Open.refused_new {stream bytes : List Byte} {c : Connection γ} (h : Open codec around stream c)
    {before after : List DecodedFrame} {frame : DecodedFrame}
    (hFrames : (frameReader.readAll (stream ++ bytes)).1 = before ++ frame :: after) (hRefused : Refused codec frame) :
    ∃ earlier, (frameReader.readAll (c.readBuf ++ bytes)).1 = earlier ++ frame :: after := by
  have hBuf : c.readBuf = (frameReader.readAll stream).2 := by rw [h.eq]
  rw [frames_append, ← hBuf] at hFrames
  rcases List.append_eq_append_iff.mp hFrames with ⟨earlier, -, hNew⟩ | ⟨later, hOld, hNew⟩
  · exact ⟨earlier, hNew⟩
  · cases later with
    | nil => exact ⟨[], hNew.symm⟩
    | cons other later =>
      cases hNew
      exact absurd hRefused (h.unrefused frame (by rw [hOld]; simp))

/-- Where no frame is behind the first handshake refused, it is the last frame that the read brings. -/
theorem Open.last_of_refused {stream bytes more : List Byte} {c : Connection γ} (h : Open codec around stream c)
    (hFits : c.readBuf.length + bytes.length ≤ kReadBufSize) (hBehind : NoFrameBehind codec (stream ++ bytes ++ more))
    {before after : List DecodedFrame} {frame : DecodedFrame}
    (hFrames : (frameReader.readAll (stream ++ bytes)).1 = before ++ frame :: after)
    (hBefore : ∀ other ∈ before, ¬ Refused codec other) (hRefused : Refused codec frame) : after = [] := by
  cases after with
  | nil => rfl
  | cons next after =>
    obtain ⟨earlier, hNew⟩ := h.refused_new hFrames hRefused
    have hWhole : (frameReader.readAll (stream ++ bytes ++ more)).1 = before ++ frame :: next ::
        (after ++ (frameReader.readAll ((frameReader.readAll (stream ++ bytes)).2 ++ more)).1) := by
      rw [frames_append, hFrames]
      simp
    have hFar := hBehind before frame next _ hWhole hBefore hRefused
    have hThere := @length_frames_le (c.readBuf ++ bytes)
    rw [hNew, List.length_append] at hThere
    simp only [List.map_append, List.map_cons, List.sum_append, List.sum_cons] at hThere
    omega

/-- Where no frame is behind the first handshake refused, the read that closes the session is the last it needs. -/
theorem Open.receive_done {stream : List Byte} {c : Connection γ} {bytes more : List Byte}
    (h : Open codec around stream c) (hFits : c.readBuf.length + bytes.length ≤ kReadBufSize)
    (hBehind : NoFrameBehind codec (stream ++ bytes ++ more)) :
    Open codec around (stream ++ bytes) (Connection.receive codec around c bytes) ∨
      Done codec around (stream ++ bytes ++ more) (Connection.receive codec around c bytes) ∧
        (Connection.receive codec around c bytes).reading = false := by
  rcases @refused_cases γ codec (frameReader.readAll (stream ++ bytes)).1 with
    hNone | ⟨before, frame, after, hFrames, hBefore, hRefused⟩
  · by_cases hBroken : Broken (frameReader.readAll (stream ++ bytes)).2
    · obtain ⟨hOutcome, hState⟩ := @outcome_of_broken γ codec around _ more hNone hBroken
      right
      rw [h.receive_eq bytes]
      exact ⟨⟨by rw [hOutcome], by rw [hOutcome]⟩, decide_eq_false (not_not.mpr hState)⟩
    · exact Or.inl (h.receive hNone hBroken)
  · have hAlone := h.last_of_refused hFits hBehind hFrames hBefore hRefused
    subst hAlone
    obtain ⟨hState, hOpen, -⟩ := @handleAll_of_refused γ codec around _ _ hBefore hRefused
    have hReached : reached codec around (stream ++ bytes) = handleAll codec around {} (before ++ [frame]) := by
      rw [reached, hFrames, closeIfBroken_of_closed hState hOpen]
    have hOutcome : outcome codec around (stream ++ bytes ++ more) = handleAll codec around {} (before ++ [frame]) := by
      have hWhole : (frameReader.readAll (stream ++ bytes ++ more)).1 = before ++ frame ::
          (frameReader.readAll ((frameReader.readAll (stream ++ bytes)).2 ++ more)).1 := by
        rw [frames_append, hFrames, List.append_assoc]
        rfl
      exact outcome_of_refused hWhole hBefore hRefused
    right
    rw [h.receive_eq bytes, hReached]
    exact ⟨⟨by rw [hOutcome], by rw [hOutcome]⟩, decide_eq_false (not_not.mpr hState)⟩

/-! ## All reads of a stream -/

theorem receive_of_deaf {c : Connection γ} (h : ¬ (c.reading ∧ c.session.isOpen)) (bytes : List Byte) :
    receive codec around c bytes = c := if_neg h

theorem receiveAll_of_deaf {c : Connection γ} (h : ¬ (c.reading ∧ c.session.isOpen)) (reads : List (List Byte)) :
    receiveAll codec around c reads = c := by
  induction reads with
  | nil => rfl
  | cons bytes reads ih =>
    rw [receiveAll, List.foldl_cons, receive_of_deaf h]
    exact ih

theorem deaf_of_closing (reads : List (List Byte)) {c : Connection γ}
    (hStart : c.reading = true → c.session.info.state ≠ .closing) :
    (receiveAll codec around c reads).reading = true →
    (receiveAll codec around c reads).session.info.state ≠ .closing := by
  induction reads generalizing c with
  | nil => exact hStart
  | cons bytes reads ih =>
    refine ih ?_
    unfold receive
    split
    · exact fun hReading => of_decide_eq_true hReading
    · exact hStart

theorem outcome_final (stream : List Byte) :
    (∀ h ∈ (outcome codec around stream).handled, h.before ≠ .closing) ∧
      ((∃ h ∈ (outcome codec around stream).handled, h.after = .closing) →
        (outcome codec around stream).session.info.state = .closing) := by
  rcases @refused_cases γ codec (frameReader.readAll stream).1 with
    hNone | ⟨before, frame, after, hFrames, hBefore, hRefused⟩
  · obtain ⟨-, -, -, hHandled⟩ := @handleAll_of_unrefused γ codec around {} _ hNone (by simp) (by simp)
    have hSame : (outcome codec around stream).handled =
        (handleAll codec around {} (frameReader.readAll stream).1).handled := by
      rw [outcome, served_of_unrefused hNone, closeIfBroken]
      split <;> rfl
    rw [hSame]
    refine ⟨fun h hIn => (hHandled h hIn).1, ?_⟩
    rintro ⟨h, hIn, hClosing⟩
    exact absurd hClosing (hHandled h hIn).2
  · obtain ⟨hState, -, hHandled⟩ := @handleAll_of_refused γ codec around _ _ hBefore hRefused
    rw [outcome_of_refused hFrames hBefore hRefused]
    exact ⟨hHandled, fun _ => hState⟩

/-! ## A frame behind a refused handshake -/

theorem not_broken_nil : ¬ Broken [] := by decide

theorem readAll_frames {frames : List DecodedFrame}
    (h : ∀ frame ∈ frames, frame.payload.length ≤ kMaxPayloadLen.toNat) :
    frameReader.readAll (frames.flatMap DecodedFrame.encode) = (frames, []) := by
  have hRead : frameReader.read [] = none := frameReader_read_of_not_ok (by decide)
  have hAll := StreamReader.readAll_flatMap (fun frame hFrame rest => frameReader_read (h frame hFrame) rest) []
  rw [List.append_nil, StreamReader.readAll_of_none hRead, List.append_nil] at hAll
  exact hAll

theorem encode_ne_nil {frame : DecodedFrame} (h : frame.payload.length ≤ kMaxPayloadLen.toNat) : frame.encode ≠ [] := by
  apply List.ne_nil_of_length_pos
  rw [DecodedFrame.encode, length_encodeFrame _ _ _ h]
  omega

theorem encode_length_le {frame : DecodedFrame} (h : frame.payload.length ≤ kMaxPayloadLen.toNat) :
    frame.encode.length ≤ kReadBufSize := by
  have hMax : kMaxPayloadLen.toNat = 65535 := rfl
  have hSize : kReadBufSize = 65552 := rfl
  rw [DecodedFrame.encode, length_encodeFrame _ _ _ h]
  omega

theorem fits_append {c : Connection γ} {reads more : List (List Byte)} : Fits codec around c (reads ++ more) ↔
    Fits codec around c reads ∧ Fits codec around (receiveAll codec around c reads) more := by
  induction reads generalizing c with
  | nil => exact (Iff.of_eq (true_and _)).symm
  | cons bytes reads ih =>
    rw [List.cons_append, Fits, ih, Fits, receiveAll, receiveAll, List.foldl_cons, and_assoc, and_assoc]

/-- Frame by frame, the session goes on reading and keeps nothing in the buffer. -/
theorem Open.receive_frames {stream : List Byte} {c : Connection γ} (h : Open codec around stream c)
    (hBuf : c.readBuf = []) {frames : List DecodedFrame}
    (hLimit : ∀ frame ∈ frames, frame.payload.length ≤ kMaxPayloadLen.toNat)
    (hFrames : ∀ frame ∈ frames, ¬ Refused codec frame) :
    Fits codec around c (frames.map DecodedFrame.encode) ∧
      Open codec around (stream ++ frames.flatMap DecodedFrame.encode)
        (receiveAll codec around c (frames.map DecodedFrame.encode)) ∧
      (receiveAll codec around c (frames.map DecodedFrame.encode)).readBuf = [] := by
  induction frames generalizing stream c with
  | nil =>
    refine ⟨trivial, ?_, hBuf⟩
    rw [List.flatMap_nil, List.append_nil]
    exact h
  | cons frame frames ih =>
    have hFrame := hLimit frame List.mem_cons_self
    have hRest : (frameReader.readAll stream).2 = [] := by
      rw [← hBuf, h.eq]
    have hRead : frameReader.readAll (stream ++ frame.encode) = ((frameReader.readAll stream).1 ++ [frame], []) := by
      have hOne := @readAll_frames [frame] (by simpa using hFrame)
      rw [List.flatMap_singleton] at hOne
      rw [StreamReader.readAll_append frameReader_stable, hRest, List.nil_append, hOne]
    have hNext : Open codec around (stream ++ frame.encode) (Connection.receive codec around c frame.encode) := by
      refine h.receive (fun other hOther => ?_) ?_
      · rw [hRead] at hOther
        rcases List.mem_append.mp hOther with hOld | hNew
        · exact h.unrefused other hOld
        · rw [List.mem_singleton.mp hNew]
          exact hFrames frame List.mem_cons_self
      · rw [hRead]
        exact not_broken_nil
    have hEmpty : (Connection.receive codec around c frame.encode).readBuf = [] := by
      rw [hNext.eq, hRead]
    obtain ⟨hFits, hOpen, hLast⟩ := ih hNext hEmpty (fun other hOther => hLimit other (List.mem_cons_of_mem _ hOther))
      (fun other hOther => hFrames other (List.mem_cons_of_mem _ hOther))
    refine ⟨⟨encode_ne_nil hFrame, fun _ => ?_, hFits⟩, ?_, hLast⟩
    · rw [hBuf, List.length_nil, Nat.zero_add]
      exact encode_length_le hFrame
    · rw [List.flatMap_cons, ← List.append_assoc]
      exact hOpen

/-- A read that brings the first handshake refused and one frame more: the session handles both and is shut. -/
theorem Open.receive_both {stream : List Byte} {c : Connection γ} (h : Open codec around stream c)
    (hBuf : c.readBuf = [])
    {frame next : DecodedFrame} (hLimit : ∀ other ∈ [frame, next], other.payload.length ≤ kMaxPayloadLen.toNat)
    (hRefused : Refused codec frame) :
    (∃ h ∈ (Connection.receive codec around c (frame.encode ++ next.encode)).handled, h.before = .closing) ∧
      ¬ ((Connection.receive codec around c (frame.encode ++ next.encode)).reading ∧
        (Connection.receive codec around c (frame.encode ++ next.encode)).session.isOpen) := by
  have hRest : (frameReader.readAll stream).2 = [] := by
    rw [← hBuf, h.eq]
  have hBoth : frameReader.readAll (stream ++ (frame.encode ++ next.encode)) =
      ((frameReader.readAll stream).1 ++ [frame] ++ [next], []) := by
    have hTwo := readAll_frames hLimit
    rw [List.flatMap_cons, List.flatMap_singleton] at hTwo
    rw [StreamReader.readAll_append frameReader_stable, hRest, List.nil_append, hTwo, List.append_assoc]
    rfl
  have hReached : reached codec around (stream ++ (frame.encode ++ next.encode)) =
      handle codec around (handleAll codec around {} ((frameReader.readAll stream).1 ++ [frame])) next := by
    rw [reached, hBoth, handleAll_append, closeIfBroken, if_neg not_broken_nil]
    rfl
  obtain ⟨hState, hShut, -⟩ := @handleAll_of_refused γ codec around _ _ h.unrefused hRefused
  rw [h.receive_eq, hReached]
  refine ⟨⟨_, List.mem_append_right _ List.mem_cons_self, hState⟩, fun hHears => ?_⟩
  have hStill := handleFrame_eq.2.symm.trans hHears.2
  rw [hShut, Bool.false_and] at hStill
  cases hStill

/-- The bytes as one read, unless there are none. -/
def asRead (left : List Byte) : List (List Byte) := if left = [] then [] else [left]

theorem flatten_asRead (left : List Byte) : (asRead left).flatten = left := by
  by_cases hLeft : left = [] <;> simp [asRead, hLeft]

theorem fits_asRead {c : Connection γ} (h : ¬ (c.reading ∧ c.session.isOpen)) (left : List Byte) :
    Fits codec around c (asRead left) := by
  by_cases hLeft : left = []
  · simp only [asRead, if_pos hLeft]
    trivial
  · simp only [asRead, if_neg hLeft]
    exact ⟨hLeft, fun hHears => absurd hHears h, trivial⟩

/-- A frame near enough behind the first handshake refused is handled by a closing session in some cut. -/
theorem exists_cut {stream : List Byte} {before after : List DecodedFrame} {frame next : DecodedFrame}
    (hFrames : (frameReader.readAll stream).1 = before ++ frame :: next :: after)
    (hBefore : ∀ other ∈ before, ¬ Refused codec other) (hRefused : Refused codec frame)
    (hNear : frame.encode.length + next.encode.length ≤ kReadBufSize) :
    ∃ reads, Cut codec around reads stream ∧
      ∃ h ∈ (receiveAll codec around ({} : Connection γ) reads).handled, h.before = .closing := by
  have hLimit : ∀ other ∈ before ++ ([frame, next] ++ after), other.payload.length ≤ kMaxPayloadLen.toNat := by
    intro other hOther
    refine @payload_le_of_mem_readAll stream other ?_
    rw [hFrames]
    exact hOther
  have hStream := @StreamReader.eq_flatMap_append _ _ frameReader _ take_eq_encode stream
  rw [hFrames, List.flatMap_append, List.flatMap_cons, List.flatMap_cons] at hStream
  obtain ⟨hFits, hOpen, hEmpty⟩ := (@open_nil γ codec around).receive_frames rfl
    (fun other hOther => hLimit other (List.mem_append_left _ hOther)) hBefore
  obtain ⟨hBad, hDeaf⟩ := hOpen.receive_both hEmpty
    (fun other hOther => hLimit other (List.mem_append_right _ (List.mem_append_left _ hOther))) hRefused
  let left := after.flatMap DecodedFrame.encode ++ (frameReader.readAll stream).2
  refine ⟨before.map DecodedFrame.encode ++ (frame.encode ++ next.encode) :: asRead left, ⟨?_, ?_⟩, ?_⟩
  · rw [List.flatten_append, List.flatten_cons, flatten_asRead, ← List.flatMap_def, hStream]
    simp only [left, List.append_assoc]
  · rw [fits_append]
    refine ⟨hFits, ?_, fun _ => ?_, fits_asRead hDeaf left⟩
    · exact fun hNil => encode_ne_nil (hLimit frame (by simp)) (List.append_eq_nil_iff.mp hNil).1
    · rw [hEmpty, List.length_append, List.length_nil]
      omega
  · have hAll : receiveAll codec around {}
        (before.map DecodedFrame.encode ++ (frame.encode ++ next.encode) :: asRead left) =
        receive codec around (receiveAll codec around {} (before.map DecodedFrame.encode))
          (frame.encode ++ next.encode) := by
      rw [receiveAll, List.foldl_append, List.foldl_cons]
      exact receiveAll_of_deaf hDeaf (asRead left)
    rw [hAll]
    exact hBad

end Connection

end Symulator.Server
