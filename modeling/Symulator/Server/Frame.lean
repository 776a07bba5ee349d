import Symulator.Library.LittleEndian
import Symulator.Library.StreamReader

/-! # Wire frames

A frame is a header of sixteen bytes and a payload. The header holds the two magic bytes, the message type,
the flags, the sequence number, the length of the payload and a CRC-32 over the rest of the frame. Nothing
but what the encoder writes is decoded.
-/

namespace Symulator.Server

open Symulator.Library

set_option autoImplicit false

def kMagicByte0 : Byte := 0x53
def kMagicByte1 : Byte := 0x52
def kHeaderSize : BitVec 32 := 16
def kMaxPayloadLen : BitVec 32 := 65535
def kFlagIsLastChunk : Byte := 0x01

namespace MsgType

def kDomainEvent : Byte := 0x20
def kSnapshotChunk : Byte := 0x31

end MsgType

/-! ## CRC-32/ISO-HDLC -/

def crcStep (c : BitVec 32) : BitVec 32 :=
  if c &&& 1 ≠ 0 then 0xEDB88320 ^^^ (c >>> 1) else c >>> 1

def crcTable : Vector (BitVec 32) 256 :=
  Vector.ofFn fun i => Nat.iterate crcStep 8 (BitVec.ofNat 32 i)

/-- The running CRC, without the final complement. -/
def crc32Update (crc : BitVec 32) (data : List Byte) : BitVec 32 :=
  data.foldl
    (fun crc b =>
      let i := ((crc ^^^ b.setWidth 32) &&& 0xFF).setWidth 8
      crcTable[i.toNat] ^^^ (crc >>> 8))
    crc

def crc32IsoHdlc (data : List Byte) : BitVec 32 := crc32Update 0xFFFFFFFF data ^^^ 0xFFFFFFFF

-- the check value of the algorithm, over the digits from 1 to 9
example : crc32IsoHdlc [0x31, 0x32, 0x33, 0x34, 0x35, 0x36, 0x37, 0x38, 0x39] = 0xCBF43926 := by decide +kernel

/-! ## Encoding -/

/-- The CRC of a frame runs over the first twelve bytes of the header and then over the payload. -/
def frameCrc (head payload : List Byte) (payloadLen : BitVec 32) : BitVec 32 :=
  let crc := crc32Update 0xFFFFFFFF head
  let crc := if payloadLen > 0 then crc32Update crc payload else crc
  crc ^^^ 0xFFFFFFFF

/-- Run over the two ranges, it is the CRC-32/ISO-HDLC of the header and the payload. -/
theorem frameCrc_eq_crc32IsoHdlc (head : List Byte) {payload : List Byte} (h : payload.length < 2 ^ 32) :
    frameCrc head payload (BitVec.ofNat 32 payload.length) = crc32IsoHdlc (head ++ payload) := by
  have hAppend : crc32Update 0xFFFFFFFF (head ++ payload) = crc32Update (crc32Update 0xFFFFFFFF head) payload :=
    List.foldl_append
  rw [crc32IsoHdlc, hAppend, frameCrc]
  split
  · rfl
  · rename_i hNone
    have hLength : (BitVec.ofNat 32 payload.length).toNat = 0 := by
      by_contra hSome
      exact hNone (BitVec.lt_def.mpr (Nat.pos_of_ne_zero hSome))
    rw [BitVec.toNat_ofNat, Nat.mod_eq_of_lt h] at hLength
    rw [List.length_eq_zero_iff.mp hLength]
    rfl

def frameHead (msgType flags : Byte) (seqId payloadLen : BitVec 32) : List Byte :=
  [kMagicByte0, kMagicByte1, msgType, flags] ++ leBytes 4 seqId ++ leBytes 4 payloadLen

def encodeFrame (msgType flags : Byte) (seqId : BitVec 32) (payload : List Byte) : List Byte :=
  let payloadLen := BitVec.ofNat 32 payload.length
  let payload := payload.take payloadLen.toNat
  let head := frameHead msgType flags seqId payloadLen
  head ++ leBytes 4 (frameCrc head payload payloadLen) ++ payload

/-! ## Decoding -/

inductive FrameDecodeStatus
  | ok | needMoreData | badMagic | badLength | badCrc
deriving DecidableEq, Repr

structure DecodedFrame where
  msgType : Byte := 0
  flags : Byte := 0
  seqId : BitVec 32 := 0
  payload : List Byte := []
deriving DecidableEq

structure FrameDecodeResult where
  status : FrameDecodeStatus
  frame : DecodedFrame := {}
  bytesConsumed : BitVec 32 := 0
deriving DecidableEq

def decodeFrame (data : List Byte) : FrameDecodeResult :=
  if data.length < kHeaderSize.toNat then { status := .needMoreData }
  else if data.take 2 ≠ [kMagicByte0, kMagicByte1] then { status := .badMagic }
  else
    let payloadLen := leWord 32 ((data.drop 8).take 4)
    if payloadLen > kMaxPayloadLen then { status := .badLength }
    else
      let total := kHeaderSize + payloadLen
      if data.length < total.toNat then { status := .needMoreData }
      else
        let expectedCrc := leWord 32 ((data.drop 12).take 4)
        let payload := (data.drop kHeaderSize.toNat).take payloadLen.toNat
        if frameCrc (data.take 12) payload payloadLen ≠ expectedCrc then { status := .badCrc }
        else
          { status := .ok
            frame :=
              { msgType := data.getD 2 0
                flags := data.getD 3 0
                seqId := leWord 32 ((data.drop 4).take 4)
                payload }
            bytesConsumed := total }

/-! ## Header fields -/

/-- The decoder on a header cut into its fields and what follows it. -/
theorem decodeFrame_fields {magic : List Byte} (msgType flags : Byte) {seq len crc : List Byte} (tail : List Byte)
    (hMagic : magic.length = 2) (hSeq : seq.length = 4) (hLen : len.length = 4) (hCrc : crc.length = 4) :
    decodeFrame (magic ++ [msgType, flags] ++ seq ++ len ++ crc ++ tail) =
      if magic ≠ [kMagicByte0, kMagicByte1] then { status := .badMagic }
      else if leWord 32 len > kMaxPayloadLen then { status := .badLength }
      else if 16 + tail.length < (kHeaderSize + leWord 32 len).toNat then { status := .needMoreData }
      else if frameCrc (magic ++ [msgType, flags] ++ seq ++ len) (tail.take (leWord 32 len).toNat) (leWord 32 len) ≠
          leWord 32 crc then { status := .badCrc }
      else
        { status := .ok
          frame := { msgType, flags, seqId := leWord 32 seq, payload := tail.take (leWord 32 len).toNat }
          bytesConsumed := kHeaderSize + leWord 32 len } := by
  obtain ⟨m0, m1, rfl⟩ := List.length_eq_two.mp hMagic
  obtain ⟨s0, s1, s2, s3, rfl⟩ := List.length_eq_four.mp hSeq
  obtain ⟨l0, l1, l2, l3, rfl⟩ := List.length_eq_four.mp hLen
  obtain ⟨c0, c1, c2, c3, rfl⟩ := List.length_eq_four.mp hCrc
  have hLong : ¬ ([m0, m1] ++ [msgType, flags] ++ [s0, s1, s2, s3] ++ [l0, l1, l2, l3] ++ [c0, c1, c2, c3] ++
      tail).length < kHeaderSize.toNat := by
    simp [kHeaderSize]
  have hTotal : ([m0, m1] ++ [msgType, flags] ++ [s0, s1, s2, s3] ++ [l0, l1, l2, l3] ++ [c0, c1, c2, c3] ++
      tail).length = 16 + tail.length := by
    simp
    omega
  rw [decodeFrame, if_neg hLong, hTotal]
  rfl

theorem exists_fields {data : List Byte} (h : 16 ≤ data.length) :
    ∃ magic msgType flags seq len crc tail, magic.length = 2 ∧ seq.length = 4 ∧ len.length = 4 ∧
      crc.length = 4 ∧ data = magic ++ [msgType, flags] ++ seq ++ len ++ crc ++ tail := by
  have hCut : ∀ n k, data.drop n = (data.drop n).take k ++ data.drop (n + k) := by
    intro n k
    rw [← List.drop_drop, List.take_append_drop]
  have hLength : ∀ n k, n + k ≤ data.length → ((data.drop n).take k).length = k := by
    intro n k hn
    rw [List.length_take, List.length_drop]
    omega
  obtain ⟨msgType, flags, hTypes⟩ := List.length_eq_two.mp (hLength 2 2 (by omega))
  refine ⟨data.take 2, msgType, flags, (data.drop 4).take 4, (data.drop 8).take 4, (data.drop 12).take 4,
    data.drop 16, by simpa using hLength 0 2 (by omega), hLength 4 4 (by omega), hLength 8 4 (by omega),
    hLength 12 4 (by omega), ?_⟩
  rw [← hTypes, List.append_assoc, ← hCut 12 4, List.append_assoc, ← hCut 8 4, List.append_assoc, ← hCut 4 4,
    List.append_assoc, ← hCut 2 2, List.take_append_drop]

theorem length_lt_of_le {payload : List Byte} (h : payload.length ≤ kMaxPayloadLen.toNat) : payload.length < 2 ^ 32 :=
  lt_of_le_of_lt h (by decide)

theorem toNat_payloadLen {payload : List Byte} (h : payload.length < 2 ^ 32) :
    (BitVec.ofNat 32 payload.length).toNat = payload.length := by
  rw [BitVec.toNat_ofNat]
  exact Nat.mod_eq_of_lt h

theorem toNat_total {len : BitVec 32} (h : len ≤ kMaxPayloadLen) : (kHeaderSize + len).toNat = 16 + len.toNat := by
  have hLen : len.toNat ≤ kMaxPayloadLen.toNat := h
  rw [BitVec.toNat_add]
  exact Nat.mod_eq_of_lt (by simp [kMaxPayloadLen, kHeaderSize] at hLen ⊢; omega)

theorem ofNat_length_le {payload : List Byte} (h : payload.length ≤ kMaxPayloadLen.toNat) :
    BitVec.ofNat 32 payload.length ≤ kMaxPayloadLen := by
  rw [BitVec.le_def, toNat_payloadLen (length_lt_of_le h)]
  exact h

theorem toNat_bytesConsumed {payload : List Byte} (h : payload.length ≤ kMaxPayloadLen.toNat) :
    (kHeaderSize + BitVec.ofNat 32 payload.length).toNat = 16 + payload.length := by
  rw [toNat_total (ofNat_length_le h), toNat_payloadLen (length_lt_of_le h)]

theorem encodeFrame_eq (msgType flags : Byte) (seqId : BitVec 32) {payload : List Byte} (h : payload.length < 2 ^ 32) :
    encodeFrame msgType flags seqId payload =
      [kMagicByte0, kMagicByte1] ++ [msgType, flags] ++ leBytes 4 seqId ++ leBytes 4 (BitVec.ofNat 32 payload.length) ++
        leBytes 4 (frameCrc (frameHead msgType flags seqId (BitVec.ofNat 32 payload.length)) payload
          (BitVec.ofNat 32 payload.length)) ++ payload := by
  rw [encodeFrame, toNat_payloadLen h, List.take_length]
  rfl

theorem length_encodeFrame (msgType flags : Byte) (seqId : BitVec 32) {payload : List Byte}
    (h : payload.length ≤ kMaxPayloadLen.toNat) :
    (encodeFrame msgType flags seqId payload).length = 16 + payload.length := by
  rw [encodeFrame_eq msgType flags seqId (length_lt_of_le h)]
  simp
  omega

/-! ## What is decoded is what was encoded -/

theorem decodeFrame_encodeFrame (msgType flags : Byte) (seqId : BitVec 32) {payload : List Byte}
    (h : payload.length ≤ kMaxPayloadLen.toNat) (rest : List Byte) :
    decodeFrame (encodeFrame msgType flags seqId payload ++ rest) =
      { status := .ok
        frame := { msgType, flags, seqId, payload }
        bytesConsumed := kHeaderSize + BitVec.ofNat 32 payload.length } := by
  rw [encodeFrame_eq msgType flags seqId (length_lt_of_le h), List.append_assoc,
    decodeFrame_fields msgType flags (payload ++ rest) rfl
    (length_leBytes 4 _) (length_leBytes 4 _) (length_leBytes 4 _)]
  simp only [leWord_leBytes _ (by decide : 32 ≤ 8 * 4)]
  rw [if_neg (not_not.mpr rfl), if_neg (BitVec.not_lt.mpr (ofNat_length_le h)), toNat_bytesConsumed h,
    toNat_payloadLen (length_lt_of_le h), List.take_left, if_neg, if_neg]
  · exact not_not.mpr rfl
  · rw [List.length_append]
    omega

theorem decodeFrame_of_prefix {msgType flags : Byte} {seqId : BitVec 32} {payload part more : List Byte}
    (h : payload.length ≤ kMaxPayloadLen.toNat) (hFrame : encodeFrame msgType flags seqId payload = part ++ more)
    (hMore : more ≠ []) : (decodeFrame part).status = .needMoreData := by
  have hTotal := congrArg List.length hFrame
  rw [length_encodeFrame msgType flags seqId h, List.length_append] at hTotal
  have hPos := List.length_pos_iff.mpr hMore
  by_cases hShort : part.length < kHeaderSize.toNat
  · rw [decodeFrame, if_pos hShort]
  · have hHeader : 16 ≤ part.length := by simpa [kHeaderSize] using hShort
    rw [encodeFrame_eq msgType flags seqId (length_lt_of_le h)] at hFrame
    have hHead := List.prefix_of_prefix_length_le ⟨payload, rfl⟩ ⟨more, hFrame.symm⟩ (by simpa using hHeader)
    obtain ⟨tail, rfl⟩ := hHead
    rw [List.append_assoc _ tail more] at hFrame
    rw [decodeFrame_fields msgType flags tail rfl (length_leBytes 4 _) (length_leBytes 4 _) (length_leBytes 4 _)]
    simp only [leWord_leBytes _ (by decide : 32 ≤ 8 * 4)]
    rw [if_neg (not_not.mpr rfl), if_neg (BitVec.not_lt.mpr (ofNat_length_le h)), if_pos]
    have hTail := congrArg List.length (List.append_cancel_left hFrame)
    rw [List.length_append] at hTail
    rw [toNat_bytesConsumed h]
    omega

def DecodedFrame.encode (frame : DecodedFrame) : List Byte :=
  encodeFrame frame.msgType frame.flags frame.seqId frame.payload

theorem encode_of_decodeFrame {data : List Byte} (h : (decodeFrame data).status = .ok) :
    ∃ frame : DecodedFrame, ∃ rest, frame.payload.length ≤ kMaxPayloadLen.toNat ∧ data = frame.encode ++ rest := by
  have hHeader : 16 ≤ data.length := by
    by_contra hShort
    rw [decodeFrame, if_pos (by simpa [kHeaderSize] using hShort)] at h
    cases h
  obtain ⟨magic, msgType, flags, seq, len, crc, tail, hMagic, hSeq, hLen, hCrc, rfl⟩ := exists_fields hHeader
  rw [decodeFrame_fields msgType flags tail hMagic hSeq hLen hCrc] at h
  split at h
  · cases h
  rename_i hWord
  rw [not_not] at hWord
  split at h
  · cases h
  rename_i hMax
  rw [BitVec.not_lt] at hMax
  split at h
  · cases h
  rename_i hTotal
  rw [toNat_total hMax] at hTotal
  split at h
  · cases h
  rename_i hSum
  rw [not_not] at hSum
  have hPayload : (tail.take (leWord 32 len).toNat).length = (leWord 32 len).toNat := by
    rw [List.length_take]
    omega
  have hLimit : (tail.take (leWord 32 len).toNat).length ≤ kMaxPayloadLen.toNat := by
    rw [hPayload]
    exact hMax
  have hSeqBytes : leBytes 4 (leWord 32 seq) = seq := by
    rw [← hSeq]
    exact leBytes_leWord seq (by omega)
  have hLenBytes : leBytes 4 (leWord 32 len) = len := by
    rw [← hLen]
    exact leBytes_leWord len (by omega)
  have hCrcBytes : leBytes 4 (leWord 32 crc) = crc := by
    rw [← hCrc]
    exact leBytes_leWord crc (by omega)
  refine ⟨⟨msgType, flags, leWord 32 seq, tail.take (leWord 32 len).toNat⟩, tail.drop (leWord 32 len).toNat, hLimit, ?_⟩
  rw [DecodedFrame.encode, encodeFrame_eq msgType flags _ (length_lt_of_le hLimit), hPayload, BitVec.ofNat_toNat,
    BitVec.setWidth_eq, frameHead, hSeqBytes,
    hLenBytes, List.append_assoc _ (tail.take _), List.take_append_drop]
  have hHead : [kMagicByte0, kMagicByte1, msgType, flags] ++ seq ++ len = magic ++ [msgType, flags] ++ seq ++ len := by
    rw [hWord]
    rfl
  rw [hHead, hSum, hCrcBytes, hWord]

theorem decodeFrame_encode {frame : DecodedFrame} (h : frame.payload.length ≤ kMaxPayloadLen.toNat) (rest : List Byte) :
    (decodeFrame (frame.encode ++ rest)).status = .ok ∧ (decodeFrame (frame.encode ++ rest)).frame = frame ∧
      (decodeFrame (frame.encode ++ rest)).bytesConsumed.toNat = frame.encode.length := by
  rw [DecodedFrame.encode, decodeFrame_encodeFrame _ _ _ h, length_encodeFrame _ _ _ h]
  exact ⟨rfl, rfl, toNat_bytesConsumed h⟩

/-- A frame is decoded off whatever follows it, no part of it is decoded, and nothing else is. -/
theorem frame_roundTrip (msgType flags : Byte) (seqId : BitVec 32) (payload : List Byte)
    (h : payload.length ≤ kMaxPayloadLen.toNat) :
    (∀ rest, let result := decodeFrame (encodeFrame msgType flags seqId payload ++ rest)
      result.status = .ok ∧ result.frame = { msgType, flags, seqId, payload } ∧
        result.bytesConsumed.toNat = 16 + payload.length) ∧
    (∀ part, part <+: encodeFrame msgType flags seqId payload → part ≠ encodeFrame msgType flags seqId payload →
      (decodeFrame part).status = .needMoreData) ∧
    (∀ data, let result := decodeFrame data
      result.status = .ok → result.frame.encode = data.take result.bytesConsumed.toNat) := by
  refine ⟨fun rest => ?_, ?_, fun data => ?_⟩
  · rw [decodeFrame_encodeFrame msgType flags seqId h]
    exact ⟨rfl, rfl, toNat_bytesConsumed h⟩
  · rintro part ⟨more, hFrame⟩ hStrict
    refine decodeFrame_of_prefix h hFrame.symm ?_
    rintro rfl
    rw [List.append_nil] at hFrame
    exact hStrict hFrame
  · intro result hOk
    obtain ⟨frame, rest, hLimit, rfl⟩ := encode_of_decodeFrame hOk
    obtain ⟨-, hFrame, hConsumed⟩ := decodeFrame_encode hLimit rest
    rw [hFrame, hConsumed, List.take_left]

theorem frame_roundTrip_chunk :
    (decodeFrame (encodeFrame MsgType.kSnapshotChunk kFlagIsLastChunk 7 [1, 2, 3] ++ [4])).frame =
    { msgType := MsgType.kSnapshotChunk, flags := kFlagIsLastChunk, seqId := 7, payload := [1, 2, 3] } :=
  ((frame_roundTrip MsgType.kSnapshotChunk kFlagIsLastChunk 7 [1, 2, 3] (by decide)).1 [4]).2.1

/-- Frames one after another on a connection. -/
def frameReader : StreamReader Byte DecodedFrame where
  read data :=
    let result := decodeFrame data
    if result.status = .ok then some (result.frame, result.bytesConsumed.toNat) else none
  read_bounds := by
    intro data frame n h
    dsimp only at h
    split at h
    · rename_i hOk
      obtain ⟨sent, rest, hLimit, rfl⟩ := encode_of_decodeFrame hOk
      obtain ⟨-, -, hConsumed⟩ := decodeFrame_encode hLimit rest
      cases h
      rw [hConsumed, List.length_append, DecodedFrame.encode, length_encodeFrame _ _ _ hLimit]
      omega
    · cases h

theorem frameReader_read {frame : DecodedFrame} (h : frame.payload.length ≤ kMaxPayloadLen.toNat) (rest : List Byte) :
    frameReader.read (frame.encode ++ rest) = some (frame, frame.encode.length) := by
  obtain ⟨hOk, hFrame, hConsumed⟩ := decodeFrame_encode h rest
  simp only [frameReader, hOk, hFrame, hConsumed, if_true]

theorem frameReader_read_of_not_ok {data : List Byte} (h : (decodeFrame data).status ≠ .ok) :
    frameReader.read data = none := if_neg h

/-- What is read is an encoding at the front, and is read whatever follows it. -/
theorem frameReader_read_eq_some {data : List Byte} {frame : DecodedFrame} {n : Nat} :
    frameReader.read data = some (frame, n) ↔
      frame.payload.length ≤ kMaxPayloadLen.toNat ∧ n = frame.encode.length ∧ frame.encode <+: data := by
  constructor
  · intro h
    have hOk : (decodeFrame data).status = .ok := by
      by_contra hNot
      rw [frameReader_read_of_not_ok hNot] at h
      cases h
    obtain ⟨sent, rest, hLimit, rfl⟩ := encode_of_decodeFrame hOk
    rw [frameReader_read hLimit] at h
    cases h
    exact ⟨hLimit, rfl, List.prefix_append _ _⟩
  · rintro ⟨hLimit, rfl, rest, rfl⟩
    exact frameReader_read hLimit rest

theorem frameReader_stable : frameReader.Stable := by
  intro data frame n h rest
  obtain ⟨hLimit, hLength, hPrefix⟩ := frameReader_read_eq_some.mp h
  exact frameReader_read_eq_some.mpr ⟨hLimit, hLength, hPrefix.trans (List.prefix_append data rest)⟩

theorem take_eq_encode {data : List Byte} {frame : DecodedFrame} {n : Nat}
    (h : frameReader.read data = some (frame, n)) :
    data.take n = frame.encode := by
  obtain ⟨-, rfl, rest, rfl⟩ := frameReader_read_eq_some.mp h
  rw [List.take_left]

theorem payload_le_of_mem_readAll {data : List Byte} {frame : DecodedFrame}
    (h : frame ∈ (frameReader.readAll data).1) : frame.payload.length ≤ kMaxPayloadLen.toNat := by
  fun_induction frameReader.readAll data with
  | case1 => cases h
  | case2 data a n hRead items left hLeft ih =>
    rw [hLeft] at ih
    rcases List.mem_cons.mp h with rfl | h
    · exact (frameReader_read_eq_some.mp hRead).1
    · exact ih h

/-- The bytes are no frame, whatever follows them. -/
def Broken (data : List Byte) : Prop := (decodeFrame data).status ≠ .ok ∧ (decodeFrame data).status ≠ .needMoreData

instance (data : List Byte) : Decidable (Broken data) := inferInstanceAs (Decidable (_ ∧ _))

theorem Broken.append {data : List Byte} (h : Broken data) (rest : List Byte) : Broken (data ++ rest) := by
  obtain ⟨hNotOk, hEnough⟩ := h
  have hHeader : 16 ≤ data.length := by
    by_contra hShort
    rw [decodeFrame, if_pos (by simpa [kHeaderSize] using hShort)] at hEnough
    exact hEnough rfl
  obtain ⟨magic, msgType, flags, seq, len, crc, tail, hMagic, hSeq, hLen, hCrc, rfl⟩ := exists_fields hHeader
  unfold Broken
  rw [List.append_assoc _ tail rest]
  rw [decodeFrame_fields msgType flags tail hMagic hSeq hLen hCrc] at hNotOk hEnough
  rw [decodeFrame_fields msgType flags (tail ++ rest) hMagic hSeq hLen hCrc]
  by_cases hWord : magic ≠ [kMagicByte0, kMagicByte1]
  · simp [if_pos hWord]
  · rw [if_neg hWord] at hNotOk hEnough ⊢
    by_cases hMax : leWord 32 len > kMaxPayloadLen
    · simp [if_pos hMax]
    · rw [if_neg hMax] at hNotOk hEnough ⊢
      have hTotal := toNat_total (BitVec.not_lt.mp hMax)
      by_cases hMore : 16 + tail.length < (kHeaderSize + leWord 32 len).toNat
      · rw [if_pos hMore] at hEnough
        exact absurd rfl hEnough
      · have hLong : ¬ 16 + (tail ++ rest).length < (kHeaderSize + leWord 32 len).toNat := by
          rw [List.length_append]
          omega
        have hTake : (tail ++ rest).take (leWord 32 len).toNat = tail.take (leWord 32 len).toNat :=
          List.take_append_of_le_length (by omega)
        rw [if_neg hMore] at hNotOk hEnough
        rw [if_neg hLong, hTake]
        split at hNotOk
        · rename_i hSum
          rw [if_pos hSum]
          exact ⟨by simp, by simp⟩
        · exact absurd rfl hNotOk

end Symulator.Server
