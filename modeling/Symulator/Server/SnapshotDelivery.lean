import Symulator.Server.Frame

/-! # Delivery of a snapshot

A serialised snapshot is cut into chunks, every chunk goes out in a frame of its own, and the last frame is
marked. The client decodes the frames off the connection and puts the payloads together.
-/

namespace Symulator.Server

open Symulator.Library

set_option autoImplicit false

def defaultChunkSize : Nat := 64 * 1024

/-- The loop of the chunking, on the part of the binary it has not come to. -/
def chunkRest (chunkSize : Nat) (rest : List Byte) : List (List Byte) :=
  if rest = [] ∨ chunkSize = 0 then []
  else
    let len := min chunkSize rest.length
    rest.take len :: chunkRest chunkSize (rest.drop len)
termination_by rest.length
decreasing_by
  rename_i h
  rw [not_or] at h
  have hPos := List.length_pos_iff.mpr h.1
  rw [List.length_drop]
  omega

def chunk (binary : List Byte) (chunkSize : Nat) : List (List Byte) :=
  if binary = [] ∨ chunkSize = 0 then [[]] else chunkRest chunkSize binary

/-- The frames sent for the chunks, the first with sequence number `txSeq`. -/
def snapshotFrames (txSeq : BitVec 32) (chunks : List (List Byte)) : List DecodedFrame :=
  chunks.mapIdx fun i payload =>
    { msgType := MsgType.kSnapshotChunk
      flags := if i + 1 = chunks.length then kFlagIsLastChunk else 0
      seqId := txSeq + BitVec.ofNat 32 i
      payload }

def handleSnapshotRequest (txSeq : BitVec 32) (binary : List Byte) (chunkSize : Nat) : List Byte :=
  (snapshotFrames txSeq (chunk binary chunkSize)).flatMap DecodedFrame.encode

def DecodedFrame.isLastChunk (frame : DecodedFrame) : Bool := frame.flags &&& kFlagIsLastChunk ≠ 0

/-- All frames are decoded, the last one alone is marked as the last, and the payloads make up the binary. -/
structure Delivered (txSeq : BitVec 32) (binary : List Byte) (chunkSize : Nat) : Prop where
  rest : (frameReader.readAll (handleSnapshotRequest txSeq binary chunkSize)).2 = []
  length : (frameReader.readAll (handleSnapshotRequest txSeq binary chunkSize)).1.length =
    (chunk binary chunkSize).length
  last : ∃ frames frame, (frameReader.readAll (handleSnapshotRequest txSeq binary chunkSize)).1 = frames ++ [frame] ∧
    frame.isLastChunk = true ∧ ∀ other ∈ frames, other.isLastChunk = false
  payload : (frameReader.readAll (handleSnapshotRequest txSeq binary chunkSize)).1.flatMap DecodedFrame.payload = binary

section Chunks

variable {chunkSize : Nat} {binary : List Byte}

theorem flatten_chunkRest (hSize : 0 < chunkSize) (rest : List Byte) : (chunkRest chunkSize rest).flatten = rest := by
  fun_induction chunkRest chunkSize rest with
  | case1 rest h => exact (h.resolve_right (Nat.pos_iff_ne_zero.mp hSize)).symm
  | case2 rest h len ih => rw [List.flatten_cons, ih, List.take_append_drop]

theorem flatten_chunk (hSize : 0 < chunkSize) (binary : List Byte) : (chunk binary chunkSize).flatten = binary := by
  rw [chunk]
  split
  · rename_i h
    exact (h.resolve_right (Nat.pos_iff_ne_zero.mp hSize)).symm
  · exact flatten_chunkRest hSize binary

theorem length_le_of_mem_chunkRest {rest c : List Byte} (h : c ∈ chunkRest chunkSize rest) : c.length ≤ chunkSize := by
  fun_induction chunkRest chunkSize rest with
  | case1 => cases h
  | case2 rest hMore len ih =>
    rcases List.mem_cons.mp h with rfl | h
    · rw [List.length_take]
      omega
    · exact ih h

theorem length_le_of_mem_chunk {c : List Byte} (h : c ∈ chunk binary chunkSize) : c.length ≤ chunkSize := by
  rw [chunk] at h
  split at h
  · rw [List.mem_singleton.mp h]
    exact Nat.zero_le _
  · exact length_le_of_mem_chunkRest h

theorem chunk_ne_nil : chunk binary chunkSize ≠ [] := by
  rw [chunk]
  split
  · simp
  · rename_i h
    rw [chunkRest, if_neg h]
    simp

theorem chunk_of_length_le (h : binary.length ≤ chunkSize) : chunk binary chunkSize = [binary] := by
  rw [chunk]
  split
  · rename_i hEmpty
    rcases hEmpty with rfl | hZero
    · rfl
    · have hNil : binary = [] := List.length_eq_zero_iff.mp (Nat.le_zero.mp (hZero ▸ h))
      rw [hNil]
  · rename_i hMore
    rw [chunkRest, if_neg hMore, min_eq_right h]
    dsimp only
    rw [List.take_length, List.drop_length, chunkRest, if_pos (Or.inl rfl)]

theorem chunk_of_lt_length (hSize : 0 < chunkSize) (h : chunkSize < binary.length) :
    ∃ chunks, chunk binary chunkSize = binary.take chunkSize :: chunks := by
  have hMore : ¬ (binary = [] ∨ chunkSize = 0) := by
    rintro (rfl | rfl)
    · exact absurd h (Nat.not_lt_zero _)
    · exact absurd hSize (lt_irrefl 0)
  rw [chunk, if_neg hMore, chunkRest, if_neg hMore, min_eq_left h.le]
  exact ⟨_, rfl⟩

end Chunks

section Delivery

variable {txSeq : BitVec 32} {binary : List Byte} {chunkSize : Nat}

theorem readAll_handleSnapshotRequest (h : ∀ c ∈ chunk binary chunkSize, c.length ≤ kMaxPayloadLen.toNat) :
    frameReader.readAll (handleSnapshotRequest txSeq binary chunkSize) =
      (snapshotFrames txSeq (chunk binary chunkSize), []) := by
  have hFrames : ∀ frame ∈ snapshotFrames txSeq (chunk binary chunkSize), ∀ rest,
      frameReader.read (frame.encode ++ rest) = some (frame, frame.encode.length) := by
    intro frame hFrame
    refine frameReader_read (h _ ?_)
    obtain ⟨i, hi, rfl⟩ := List.mem_mapIdx.mp hFrame
    exact List.getElem_mem hi
  have hRead := StreamReader.readAll_flatMap hFrames []
  have hEnd : frameReader.readAll [] = ([], []) := StreamReader.readAll_of_none (by rfl)
  rwa [List.append_nil, hEnd, List.append_nil] at hRead

theorem flatMap_payload_snapshotFrames (chunks : List (List Byte)) :
    (snapshotFrames txSeq chunks).flatMap DecodedFrame.payload = chunks.flatten := by
  have hPayloads : (snapshotFrames txSeq chunks).map DecodedFrame.payload = chunks := by
    apply List.ext_getElem
    · rw [List.length_map, snapshotFrames, List.length_mapIdx]
    · intro i hi hi'
      simp [snapshotFrames]
  rw [List.flatMap_def, hPayloads]

theorem isLastChunk_snapshotFrames {chunks : List (List Byte)} (h : chunks ≠ []) :
    ∃ frames frame, snapshotFrames txSeq chunks = frames ++ [frame] ∧ frame.isLastChunk = true ∧
      ∀ other ∈ frames, other.isLastChunk = false := by
  obtain ⟨init, last, rfl⟩ := (List.eq_nil_or_concat' chunks).resolve_left h
  refine ⟨_, _, List.mapIdx_concat, ?_, fun other hOther => ?_⟩
  · simp [DecodedFrame.isLastChunk, kFlagIsLastChunk]
  · obtain ⟨i, hi, rfl⟩ := List.mem_mapIdx.mp hOther
    have hNot : i ≠ init.length := by omega
    simp [DecodedFrame.isLastChunk, hNot]

/-- Chunks that frames can hold are delivered, however many they are. -/
theorem delivered_of_length_le (hSize : 0 < chunkSize)
    (h : ∀ c ∈ chunk binary chunkSize, c.length ≤ kMaxPayloadLen.toNat) : Delivered txSeq binary chunkSize := by
  have hRead := @readAll_handleSnapshotRequest txSeq _ _ h
  refine ⟨by rw [hRead], ?_, ?_, ?_⟩
  · rw [hRead, snapshotFrames, List.length_mapIdx]
  · rw [hRead]
    exact isLastChunk_snapshotFrames chunk_ne_nil
  · rw [hRead, flatMap_payload_snapshotFrames, flatten_chunk hSize]

theorem decodeFrame_of_long {frame : DecodedFrame} (h : kMaxPayloadLen.toNat < frame.payload.length)
    (hWord : frame.payload.length < 2 ^ 32) (rest : List Byte) :
    (decodeFrame (frame.encode ++ rest)).status = .badLength := by
  have hLong : kMaxPayloadLen < BitVec.ofNat 32 frame.payload.length := by
    rw [BitVec.lt_def, toNat_payloadLen hWord]
    exact h
  rw [DecodedFrame.encode, encodeFrame_eq _ _ _ hWord, List.append_assoc, decodeFrame_fields _ _ _ rfl
    (length_leBytes 4 _) (length_leBytes 4 _) (length_leBytes 4 _), if_neg (not_not.mpr rfl)]
  simp only [leWord_leBytes _ (by decide : 32 ≤ 8 * 4)]
  rw [if_pos hLong]

/-- A binary beyond the limit begins with a frame that is refused. -/
theorem length_le_of_delivered (hLimit : kMaxPayloadLen.toNat < chunkSize) (hWord : chunkSize < 2 ^ 32)
    (hDelivered : Delivered txSeq binary chunkSize) : binary.length ≤ kMaxPayloadLen.toNat := by
  by_contra hLong
  have hFirst : ∃ c chunks, chunk binary chunkSize = c :: chunks ∧ kMaxPayloadLen.toNat < c.length ∧
      c.length ≤ chunkSize := by
    rcases Nat.lt_or_ge chunkSize binary.length with hMore | hFits
    · obtain ⟨chunks, hChunks⟩ := chunk_of_lt_length (Nat.zero_lt_of_lt hLimit) hMore
      have hLength : (binary.take chunkSize).length = chunkSize := List.length_take_of_le hMore.le
      exact ⟨_, chunks, hChunks, hLength.symm ▸ hLimit, hLength.le⟩
    · exact ⟨binary, [], chunk_of_length_le hFits, Nat.lt_of_not_le hLong, hFits⟩
  obtain ⟨c, chunks, hChunks, hOver, hUnder⟩ := hFirst
  obtain ⟨frame, frames, hFrames, hPayload⟩ : ∃ frame frames, snapshotFrames txSeq (c :: chunks) = frame :: frames ∧
      frame.payload = c := ⟨_, _, List.mapIdx_cons, rfl⟩
  have hBad := @decodeFrame_of_long frame (by rwa [hPayload]) (by rw [hPayload]; exact lt_of_le_of_lt hUnder hWord)
    (frames.flatMap DecodedFrame.encode)
  have hRest := hDelivered.rest
  rw [handleSnapshotRequest, hChunks, hFrames, List.flatMap_cons,
    StreamReader.readAll_of_none (frameReader_read_of_not_ok (by rw [hBad]; decide))] at hRest
  simp [DecodedFrame.encode, encodeFrame, frameHead] at hRest

end Delivery

/-- A snapshot is delivered exactly when it fits in one frame. -/
theorem snapshot_delivered_iff (txSeq : BitVec 32) (binary : List Byte) :
    Delivered txSeq binary defaultChunkSize ↔ binary.length ≤ kMaxPayloadLen.toNat := by
  constructor
  · exact length_le_of_delivered (by decide) (by decide)
  · intro hFits
    refine delivered_of_length_le (by decide) fun c hc => ?_
    rw [chunk_of_length_le (hFits.trans (by decide)), List.mem_singleton] at hc
    rwa [hc]

/-- One byte more than a frame can hold. -/
theorem snapshot_lost : ¬ ∀ (txSeq : BitVec 32) (binary : List Byte), binary ≠ [] →
    Delivered txSeq binary defaultChunkSize := by
  intro h
  have hLength := length_le_of_delivered (by decide) (by decide)
    (h 0 (List.replicate 65536 0) (List.ne_nil_of_length_pos (by rw [List.length_replicate]; decide)))
  rw [List.length_replicate] at hLength
  exact absurd hLength (by decide)

end Symulator.Server
