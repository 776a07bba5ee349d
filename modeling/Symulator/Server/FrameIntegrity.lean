import Symulator.Library.ReflectedCrc
import Symulator.Server.Frame

/-! # What the CRC of a frame detects

The CRC the codec computes is the reflected CRC with the polynomial 0xEDB88320. The decoder admits a frame only where
the CRC in it is that of the rest, so a frame with one byte changed behind the magic bytes and outside the length is
not admitted.
-/

namespace Symulator.Server

open Symulator.Library

set_option autoImplicit false

def crcPolynomial : BitVec 32 := 0xEDB88320

theorem crcTable_get (b : Byte) : crcTable[b.toNat] = Nat.iterate (crcShift crcPolynomial) 8 (b.setWidth 32) := by
  have hByte : BitVec.ofNat 32 b.toNat = b.setWidth 32 := by
    apply BitVec.eq_of_toNat_eq
    rw [BitVec.toNat_ofNat, BitVec.toNat_setWidth]
  have hStep : crcStep = crcShift crcPolynomial := rfl
  simp only [crcTable, Vector.getElem_ofFn]
  rw [hByte, hStep]

/-- The table-driven CRC is the one taken bit by bit. -/
theorem crc32Update_eq (crc : BitVec 32) (data : List Byte) :
    crc32Update crc data = crcBytes crcPolynomial crc data := by
  have hStep : ∀ (c : BitVec 32) (b : Byte), crcLookup (fun b => crcTable[b.toNat]) c b = crcByte crcPolynomial c b :=
    fun c b => (crcByte_eq_crcLookup crcTable_get c b).symm
  exact congrArg (fun step => data.foldl step crc) (funext fun c => funext fun b => hStep c b)

theorem crc32Update_append (crc : BitVec 32) (a b : List Byte) :
    crc32Update (crc32Update crc a) b = crc32Update crc (a ++ b) := List.foldl_append.symm

theorem crc32Update_injective (data : List Byte) : Function.Injective fun crc => crc32Update crc data := by
  intro c d hSame
  simp only [crc32Update_eq] at hSame
  exact crcBytes_injective (by decide) data hSame

theorem crc32Update_set_ne (crc : BitVec 32) {data : List Byte} {i : Nat} {b : Byte} (hi : i < data.length)
    (hb : b ≠ data[i]) : crc32Update crc (data.set i b) ≠ crc32Update crc data := by
  rw [crc32Update_eq, crc32Update_eq]
  exact crcBytes_set_ne (by decide) (by decide) crc hi hb

/-! ## One byte changed -/

/-- The length the decoder reads. -/
def announcedLen (data : List Byte) : BitVec 32 := leWord 32 ((data.drop 8).take 4)

/-- What is decoded announces a length within the limit and holds the CRC of the rest. -/
theorem checked_of_ok {data : List Byte} (h : (decodeFrame data).status = .ok) :
    announcedLen data ≤ kMaxPayloadLen ∧ 16 + (announcedLen data).toNat ≤ data.length ∧
      frameCrc (data.take 12) ((data.drop 16).take (announcedLen data).toNat) (announcedLen data) =
        leWord 32 ((data.drop 12).take 4) := by
  unfold decodeFrame at h
  split at h
  · cases h
  split at h
  · cases h
  dsimp only at h
  split at h
  · cases h
  rename_i hMax
  split at h
  · cases h
  rename_i hTotal
  split at h
  · cases h
  rename_i hSum
  have hLimit := BitVec.not_lt.mp hMax
  rw [toNat_total hLimit] at hTotal
  exact ⟨hLimit, Nat.le_of_not_lt hTotal, not_not.mp hSum⟩

theorem leWord_injective {a b : List Byte} (ha : a.length = 4) (hb : b.length = 4) (h : leWord 32 a = leWord 32 b) :
    a = b := by
  have hBytes := congrArg (leBytes 4) h
  rw [← ha, leBytes_leWord a (by omega), ha, ← hb, leBytes_leWord b (by omega)] at hBytes
  exact hBytes

theorem frameCrc_set_head_ne {head payload : List Byte} {len : BitVec 32} {i : Nat} {b : Byte} (hi : i < head.length)
    (hb : b ≠ head[i]) : frameCrc (head.set i b) payload len ≠ frameCrc head payload len := by
  intro hSame
  have hHead := crc32Update_set_ne 0xFFFFFFFF hi hb
  unfold frameCrc at hSame
  rw [BitVec.xor_left_inj] at hSame
  split at hSame
  · exact hHead (crc32Update_injective payload hSame)
  · exact hHead hSame

theorem frameCrc_set_payload_ne {head payload : List Byte} {len : BitVec 32} {i : Nat} {b : Byte}
    (hLen : 0 < len) (hi : i < payload.length) (hb : b ≠ payload[i]) :
    frameCrc head (payload.set i b) len ≠ frameCrc head payload len := by
  intro hSame
  unfold frameCrc at hSame
  rw [BitVec.xor_left_inj, if_pos hLen, if_pos hLen] at hSame
  exact crc32Update_set_ne _ hi hb hSame

/-- The places of a frame whose bytes the CRC vouches for, whatever length is announced. -/
def isGuarded (i : Nat) : Bool := 2 ≤ i && (i < 8 || 12 ≤ i)

theorem announcedLen_set {data : List Byte} {i : Nat} (b : Byte) (h : isGuarded i = true) :
    announcedLen (data.set i b) = announcedLen data := by
  unfold announcedLen
  simp only [isGuarded, Bool.and_eq_true, Bool.or_eq_true, decide_eq_true_eq] at h
  rw [List.drop_set, apply_ite (List.take 4), List.take_set]
  split
  · rfl
  · rw [List.set_eq_of_length_le]
    rw [List.length_take]
    omega

theorem not_ok_of_set {data : List Byte} (h : (decodeFrame data).status = .ok) {i : Nat} {b : Byte}
    (hGuarded : isGuarded i = true) (hi : i < data.length) (hFrame : i < 16 + (announcedLen data).toNat)
    (hb : b ≠ data[i]) : (decodeFrame (data.set i b)).status ≠ .ok := by
  intro hOk
  obtain ⟨-, hTotal, hSum⟩ := checked_of_ok h
  obtain ⟨-, -, hSum'⟩ := checked_of_ok hOk
  rw [announcedLen_set b hGuarded] at hSum'
  simp only [isGuarded, Bool.and_eq_true, Bool.or_eq_true, decide_eq_true_eq] at hGuarded
  have hWhere : i < 8 ∨ (12 ≤ i ∧ i < 16) ∨ 16 ≤ i := by omega
  rcases hWhere with hHead | ⟨hFrom, hTo⟩ | hPayload
  · -- in the head, the CRC computed changes
    rw [List.take_set, List.drop_set_of_lt (by omega), List.drop_set_of_lt (by omega), ← hSum] at hSum'
    refine frameCrc_set_head_ne ?_ ?_ hSum'
    · rw [List.length_take]
      omega
    · rw [List.getElem_take]
      exact hb
  · -- in the CRC itself, the one it is compared with
    have hCrc : ((data.set i b).drop 12).take 4 = ((data.drop 12).take 4).set (i - 12) b := by
      rw [List.drop_set, if_neg (by omega), List.take_set]
    have hLength : ((data.drop 12).take 4).length = 4 := by
      rw [List.length_take, List.length_drop]
      omega
    rw [List.take_set_of_le (by omega), List.drop_set_of_lt (by omega), hSum, hCrc] at hSum'
    have hWord := leWord_injective hLength (by rw [List.length_set, hLength]) hSum'
    have hByte : ((data.drop 12).take 4)[i - 12]? = some b := by
      rw [hWord, List.getElem?_set_self (by rw [hLength]; omega)]
    rw [List.getElem?_take_of_lt (by omega), List.getElem?_drop, Nat.add_sub_cancel' hFrom,
      List.getElem?_eq_getElem hi] at hByte
    exact hb (Option.some.inj hByte).symm
  · -- in the payload, the CRC computed again
    have hLen : 0 < announcedLen data := BitVec.lt_def.mpr (by simp; omega)
    have hCrc : ((data.set i b).drop 12).take 4 = (data.drop 12).take 4 := by
      rw [List.drop_set, if_neg (by omega), List.take_set_of_le (by omega)]
    rw [hCrc, List.take_set_of_le (by omega), List.drop_set, if_neg (by omega), List.take_set, ← hSum] at hSum'
    refine frameCrc_set_payload_ne hLen ?_ ?_ hSum'
    · rw [List.length_take, List.length_drop]
      omega
    · rw [List.getElem_take, List.getElem_drop]
      simpa only [Nat.add_sub_cancel' hPayload] using hb

theorem announcedLen_encodeFrame (msgType flags : Byte) (seqId : BitVec 32) (payload : List Byte) :
    announcedLen (encodeFrame msgType flags seqId payload) = BitVec.ofNat 32 payload.length := by
  have hFields : ∀ len crc tail : List Byte, len.length = 4 →
      ((([kMagicByte0, kMagicByte1, msgType, flags] ++ leBytes 4 seqId ++ len) ++ crc ++ tail).drop 8).take
        4 = len := by
    intro len crc tail hLength
    rw [List.append_assoc, List.append_assoc _ len, List.drop_left' (by simp), List.take_left' hLength]
  rw [announcedLen, encodeFrame, frameHead, hFields _ _ _ (length_leBytes 4 _), leWord_leBytes _ (by decide)]

theorem length_take_payloadLen (payload : List Byte) :
    (payload.take (BitVec.ofNat 32 payload.length).toNat).length = (BitVec.ofNat 32 payload.length).toNat := by
  rw [List.length_take, BitVec.toNat_ofNat]
  exact Nat.min_eq_left (Nat.mod_le _ _)

/-- What does not fit the length of a payload is not encoded. -/
theorem encodeFrame_take (msgType flags : Byte) (seqId : BitVec 32) (payload : List Byte) :
    encodeFrame msgType flags seqId (payload.take (BitVec.ofNat 32 payload.length).toNat) =
      encodeFrame msgType flags seqId payload := by
  simp only [encodeFrame, length_take_payloadLen, BitVec.ofNat_toNat, BitVec.setWidth_eq, List.take_take, Nat.min_self]

theorem ok_of_encodeFrame {msgType flags : Byte} {seqId : BitVec 32} {payload : List Byte}
    (h : BitVec.ofNat 32 payload.length ≤ kMaxPayloadLen) :
    (decodeFrame (encodeFrame msgType flags seqId payload)).status = .ok ∧
      (encodeFrame msgType flags seqId payload).length = 16 + (BitVec.ofNat 32 payload.length).toNat := by
  have hLimit : (payload.take (BitVec.ofNat 32 payload.length).toNat).length ≤ kMaxPayloadLen.toNat := by
    rw [length_take_payloadLen]
    exact h
  have hDecoded := decodeFrame_encodeFrame msgType flags seqId hLimit []
  rw [List.append_nil, encodeFrame_take] at hDecoded
  have hTotal := length_encodeFrame msgType flags seqId hLimit
  rw [encodeFrame_take, length_take_payloadLen] at hTotal
  rw [hDecoded]
  exact ⟨rfl, hTotal⟩

/-- The CRC is the CRC-32/ISO-HDLC, taken in parts or at once, and no frame with one guarded byte changed is decoded. -/
theorem crc_detects :
    (∀ crc data, crc32Update crc data = crcBytes 0xEDB88320 crc data) ∧
    (∀ data, crc32IsoHdlc data = crcBytes 0xEDB88320 0xFFFFFFFF data ^^^ 0xFFFFFFFF) ∧
    (∀ crc a b, crc32Update (crc32Update crc a) b = crc32Update crc (a ++ b)) ∧
    ∀ (msgType flags : Byte) (seqId : BitVec 32) (payload : List Byte) (i : Nat) (b : Byte)
      (hi : i < (encodeFrame msgType flags seqId payload).length), i ∉ [0, 1, 8, 9, 10, 11] →
      b ≠ (encodeFrame msgType flags seqId payload)[i] →
        (decodeFrame ((encodeFrame msgType flags seqId payload).set i b)).status ≠ .ok := by
  refine ⟨crc32Update_eq, fun data => ?_, crc32Update_append, ?_⟩
  · rw [crc32IsoHdlc, crc32Update_eq]
    rfl
  · intro msgType flags seqId payload i b hi hOutside hb
    have hGuarded : isGuarded i = true := by
      simp only [List.mem_cons, List.not_mem_nil, or_false, not_or] at hOutside
      simp only [isGuarded, Bool.and_eq_true, Bool.or_eq_true, decide_eq_true_eq]
      omega
    by_cases hMax : BitVec.ofNat 32 payload.length ≤ kMaxPayloadLen
    · obtain ⟨hOk, hTotal⟩ := @ok_of_encodeFrame msgType flags seqId payload hMax
      refine not_ok_of_set hOk hGuarded hi ?_ hb
      rw [announcedLen_encodeFrame, ← hTotal]
      exact hi
    · intro hOk
      have hLimit := (checked_of_ok hOk).1
      rw [announcedLen_set b hGuarded, announcedLen_encodeFrame] at hLimit
      exact hMax hLimit

theorem crc_detects_flags :
    (decodeFrame ((encodeFrame MsgType.kSnapshotChunk 0 7 [1, 2, 3]).set 3 kFlagIsLastChunk)).status ≠ .ok :=
  crc_detects.2.2.2 MsgType.kSnapshotChunk 0 7 [1, 2, 3] 3 kFlagIsLastChunk (by decide) (by decide) (by decide)

end Symulator.Server
