import Symulator.Library.LittleEndian

/-! # Reflected CRCs

A reflected CRC takes in a message bit by bit, least significant bit first: the register moves down one place, and
the polynomial is added to it where a one was moved out. The register is linear in what it held, so that the bits
of a byte can be taken in at once with the help of a table. A polynomial with the top bit set loses nothing: what
moved out shows in the place that became free.
-/

namespace Symulator.Library

set_option autoImplicit false

section Register

variable {w : Nat} (poly : BitVec w)

/-- One bit moves out of the register. -/
def crcShift (c : BitVec w) : BitVec w := if c &&& 1 ≠ 0 then poly ^^^ (c >>> 1) else c >>> 1

/-- A byte is added to the register and its eight bits move out. -/
def crcByte (c : BitVec w) (b : Byte) : BitVec w := Nat.iterate (crcShift poly) 8 (c ^^^ b.setWidth w)

/-- The register after a message. -/
def crcBytes (c : BitVec w) (data : List Byte) : BitVec w := data.foldl (crcByte poly) c

end Register

section Algebra

variable {w : Nat} {poly : BitVec w}

theorem crcShift_eq (c : BitVec w) : crcShift poly c = if c.getLsbD 0 then poly ^^^ (c >>> 1) else c >>> 1 := by
  have hLow : c &&& 1 ≠ 0 ↔ c.getLsbD 0 = true := by
    rw [show (1 : BitVec w) = 1#w from rfl, BitVec.and_one_eq_setWidth_ofBool_getLsbD]
    cases hBit : c.getLsbD 0 with
    | false => simp
    | true =>
      have hw : 0 < w := BitVec.lt_of_getLsbD hBit
      refine iff_of_true (fun hZero => ?_) rfl
      have hBits := congrArg (fun x : BitVec w => x.getLsbD 0) hZero
      simp [hw] at hBits
  simp only [crcShift, hLow]

theorem crcShift_xor (a b : BitVec w) : crcShift poly (a ^^^ b) = crcShift poly a ^^^ crcShift poly b := by
  rw [crcShift_eq, crcShift_eq, crcShift_eq, BitVec.getLsbD_xor, BitVec.ushiftRight_xor_distrib]
  have hOnce : ∀ x y : BitVec w, x ^^^ (poly ^^^ y) = poly ^^^ (x ^^^ y) := by
    intro x y
    rw [← BitVec.xor_assoc, BitVec.xor_comm x poly, BitVec.xor_assoc]
  -- where both bits move out the polynomial is added twice
  have hTwice : ∀ x y : BitVec w, poly ^^^ x ^^^ (poly ^^^ y) = x ^^^ y := by
    intro x y
    rw [hOnce, BitVec.xor_assoc poly x y, ← BitVec.xor_assoc poly poly, BitVec.xor_self, BitVec.zero_xor]
  cases a.getLsbD 0 <;> cases b.getLsbD 0
  · rfl
  · simp [hOnce]
  · simp [BitVec.xor_assoc]
  · simp [hTwice]

theorem iterate_crcShift_xor (n : Nat) (a b : BitVec w) : Nat.iterate (crcShift poly) n (a ^^^ b) =
    Nat.iterate (crcShift poly) n a ^^^ Nat.iterate (crcShift poly) n b := by
  induction n generalizing a b with
  | zero => rfl
  | succ n ih =>
    rw [Function.iterate_succ_apply, crcShift_xor, ih, Function.iterate_succ_apply, Function.iterate_succ_apply]

/-- Zeros move out without a trace. -/
theorem iterate_crcShift_of_low_zero {n : Nat} {c : BitVec w} (h : ∀ i < n, c.getLsbD i = false) :
    Nat.iterate (crcShift poly) n c = c >>> n := by
  induction n generalizing c with
  | zero => simp
  | succ n ih =>
    have hFirst : crcShift poly c = c >>> 1 := by
      rw [crcShift_eq, h 0 (by omega), if_neg (by decide)]
    have hRest : ∀ i < n, (c >>> 1).getLsbD i = false := by
      intro i hi
      rw [BitVec.getLsbD_ushiftRight]
      exact h (1 + i) (by omega)
    rw [Function.iterate_succ_apply, hFirst, ih hRest, ← BitVec.shiftRight_add, Nat.add_comm]

/-- What moved out is seen in the top bit, and what stayed in the others. -/
theorem crcShift_injective (hTop : poly.msb = true) : Function.Injective (crcShift poly) := by
  have hKernel : ∀ c : BitVec w, crcShift poly c = 0#w → c = 0#w := by
    intro c hZero
    rw [crcShift_eq] at hZero
    have hw : 0 < w := by
      by_contra hNone
      obtain rfl : w = 0 := by omega
      rw [BitVec.eq_nil poly] at hTop
      cases hTop
    split at hZero
    · have hMsb := congrArg BitVec.msb hZero
      rw [BitVec.msb_xor, hTop, BitVec.msb_eq_getLsbD_last, BitVec.getLsbD_ushiftRight,
        BitVec.getLsbD_of_ge _ _ (by omega)] at hMsb
      simp at hMsb
    · rename_i hLow
      apply BitVec.eq_of_getLsbD_eq
      rintro (_ | i) hi
      · simpa using hLow
      · have hBit := congrArg (fun x : BitVec w => x.getLsbD i) hZero
        rw [BitVec.getLsbD_ushiftRight, Nat.add_comm 1 i] at hBit
        simpa using hBit
  intro a b hSame
  have hZero := hKernel (a ^^^ b) (by rw [crcShift_xor, hSame, BitVec.xor_self])
  exact BitVec.xor_eq_zero_iff.mp hZero

theorem crcByte_injective (hTop : poly.msb = true) (b : Byte) : Function.Injective fun c => crcByte poly c b := by
  intro c d hSame
  have hAdded : c ^^^ b.setWidth w = d ^^^ b.setWidth w := (crcShift_injective hTop).iterate 8 hSame
  exact (BitVec.xor_left_inj _).mp hAdded

theorem crcByte_injective_right (hTop : poly.msb = true) (hWide : 8 ≤ w) (c : BitVec w) :
    Function.Injective (crcByte poly c) := by
  intro b b' hSame
  have hAdded : c ^^^ b.setWidth w = c ^^^ b'.setWidth w := (crcShift_injective hTop).iterate 8 hSame
  have hNarrow := congrArg (BitVec.setWidth 8) ((BitVec.xor_right_inj _).mp hAdded)
  rwa [BitVec.setWidth_setWidth_of_le _ hWide, BitVec.setWidth_setWidth_of_le _ hWide, BitVec.setWidth_eq,
    BitVec.setWidth_eq] at hNarrow

theorem crcBytes_injective (hTop : poly.msb = true) (data : List Byte) :
    Function.Injective fun c => crcBytes poly c data := by
  induction data with
  | nil => exact fun _ _ h => h
  | cons b data ih =>
    intro c d hSame
    exact crcByte_injective hTop b (ih hSame)

/-- A message with one byte changed leaves another register behind. -/
theorem crcBytes_set_ne (hTop : poly.msb = true) (hWide : 8 ≤ w) (c : BitVec w) {data : List Byte} {i : Nat} {b : Byte}
    (hi : i < data.length) (hb : b ≠ data[i]) : crcBytes poly c (data.set i b) ≠ crcBytes poly c data := by
  induction data generalizing c i with
  | nil => cases hi
  | cons first data ih =>
    cases i with
    | zero =>
      intro hSame
      exact hb (crcByte_injective_right hTop hWide c (crcBytes_injective hTop data hSame))
    | succ i => exact ih (crcByte poly c first) (Nat.lt_of_succ_lt_succ hi) hb

end Algebra

/-! ## A byte at a time -/

section Table

variable {w : Nat} {poly : BitVec w}

/-- The register and a byte, the eight bits looked up in a table. -/
def crcLookup (table : Byte → BitVec w) (c : BitVec w) (b : Byte) : BitVec w :=
  table (((c ^^^ b.setWidth w) &&& 0xFF).setWidth 8) ^^^ (c >>> 8)

theorem testBit_byteMask (i : Nat) : Nat.testBit 255 i = decide (i < 8) := by
  rw [show 255 = 2 ^ 8 - 1 from rfl, Nat.testBit_two_pow_sub_one]

/-- A word is its low byte and the rest of it. -/
theorem eq_low_xor_rest (x : BitVec w) : x = ((x &&& 0xFF).setWidth 8).setWidth w ^^^ (x >>> 8) <<< 8 := by
  apply BitVec.eq_of_getLsbD_eq
  intro i hi
  rw [BitVec.getLsbD_xor, BitVec.getLsbD_setWidth, BitVec.getLsbD_setWidth, BitVec.getLsbD_and,
    BitVec.getLsbD_shiftLeft,
    BitVec.getLsbD_ushiftRight, show (0xFF : BitVec w) = BitVec.ofNat w 255 from rfl, BitVec.getLsbD_ofNat,
      testBit_byteMask]
  by_cases hLow : i < 8
  · simp [hi, hLow]
  · simp [hi, hLow, show 8 + (i - 8) = i by omega]

theorem crcByte_eq_crcLookup {table : Byte → BitVec w}
    (hTable : ∀ b, table b = Nat.iterate (crcShift poly) 8 (b.setWidth w)) (c : BitVec w) (b : Byte) :
    crcByte poly c b = crcLookup table c b := by
  have hByte : (b.setWidth w : BitVec w) >>> 8 = 0#w := by
    apply BitVec.eq_of_getLsbD_eq
    intro i hi
    rw [BitVec.getLsbD_ushiftRight, BitVec.getLsbD_setWidth, BitVec.getLsbD_of_ge b (8 + i) (by omega), Bool.and_false,
      BitVec.getLsbD_zero]
  have hRest : (c ^^^ b.setWidth w) >>> 8 = c >>> 8 := by
    rw [BitVec.ushiftRight_xor_distrib, hByte, BitVec.xor_zero]
  have hZeros : ∀ i < 8, ((c >>> 8) <<< 8).getLsbD i = false := by
    intro i hi
    simp [hi]
  have hBack : ((c >>> 8) <<< 8) >>> 8 = c >>> 8 := by
    apply BitVec.eq_of_getLsbD_eq
    intro i hi
    rw [BitVec.getLsbD_ushiftRight, BitVec.getLsbD_shiftLeft, BitVec.getLsbD_ushiftRight, BitVec.getLsbD_ushiftRight]
    by_cases hIn : 8 + i < w
    · simp [hIn]
    · rw [BitVec.getLsbD_of_ge c (8 + i) (by omega), BitVec.getLsbD_of_ge c _ (by omega), Bool.and_false]
  rw [crcByte, crcLookup, hTable]
  calc Nat.iterate (crcShift poly) 8 (c ^^^ b.setWidth w)
      = Nat.iterate (crcShift poly) 8
          ((((c ^^^ b.setWidth w) &&& 0xFF).setWidth 8).setWidth w ^^^ (c >>> 8) <<< 8) := by
        rw [← hRest, ← eq_low_xor_rest]
    _ = Nat.iterate (crcShift poly) 8 ((((c ^^^ b.setWidth w) &&& 0xFF).setWidth 8).setWidth w) ^^^ c >>> 8 := by
        rw [iterate_crcShift_xor, iterate_crcShift_of_low_zero hZeros, hBack]

end Table

end Symulator.Library
