import Mathlib.Data.Nat.Bitwise
import Mathlib.Data.List.Basic
import Mathlib.Data.List.GetD

/-! # Words as bytes, least significant byte first

A word is written as its lowest byte, the next one, and so on; it is read back as the disjunction of the
bytes, each shifted to its place. Both directions are described by the bits: bit `i` of the word is bit
`i % 8` of byte `i / 8`.
-/

namespace Symulator.Library

set_option autoImplicit false

abbrev Byte := BitVec 8

/-- The lowest `n` bytes of a word. -/
def leBytes {w : Nat} (n : Nat) (v : BitVec w) : List Byte :=
  (List.range n).map fun i => ((v >>> (8 * i)) &&& 0xFF#w).setWidth 8

/-- The word that the bytes spell. -/
def leWord (w : Nat) : List Byte → BitVec w
  | [] => 0
  | b :: bs => b.setWidth w ||| leWord w bs <<< 8

@[simp] theorem length_leBytes {w : Nat} (n : Nat) (v : BitVec w) : (leBytes n v).length = n := by
  simp [leBytes]

theorem getLsbD_leByte {w : Nat} (v : BitVec w) (i j : Nat) (hj : j < 8) :
    (((v >>> (8 * i)) &&& 0xFF#w).setWidth 8).getLsbD j = v.getLsbD (8 * i + j) := by
  have hMask : Nat.testBit 255 j = true := by
    rw [show 255 = 2 ^ 8 - 1 from rfl, Nat.testBit_two_pow_sub_one]
    exact decide_eq_true hj
  rw [BitVec.getLsbD_setWidth, BitVec.getLsbD_and, BitVec.getLsbD_ushiftRight, BitVec.getLsbD_ofNat, hMask]
  by_cases hw : 8 * i + j < w
  · simp [hj, show j < w by omega]
  · rw [BitVec.getLsbD_of_ge _ _ (by omega)]
    simp

theorem getLsbD_leWord (w : Nat) (bs : List Byte) (i : Nat) (hi : i < w) :
    (leWord w bs).getLsbD i = (bs.getD (i / 8) 0).getLsbD (i % 8) := by
  induction bs generalizing i with
  | nil => simp [leWord]
  | cons b bs ih =>
    rw [leWord, BitVec.getLsbD_or, BitVec.getLsbD_setWidth, BitVec.getLsbD_shiftLeft]
    by_cases h : i < 8
    · simp [h, hi, Nat.div_eq_of_lt h, Nat.mod_eq_of_lt h]
    · have hDiv : i / 8 = (i - 8) / 8 + 1 := by omega
      have hMod : i % 8 = (i - 8) % 8 := by omega
      rw [ih (i - 8) (by omega), hDiv, hMod, List.getD_cons_succ, BitVec.getLsbD_of_ge b i (by omega)]
      simp [h, hi]

theorem leWord_leBytes {w n : Nat} (v : BitVec w) (h : w ≤ 8 * n) : leWord w (leBytes n v) = v := by
  apply BitVec.eq_of_getLsbD_eq
  intro i hi
  have hIndex : i / 8 < n := by omega
  rw [getLsbD_leWord w _ i hi, List.getD_eq_getElem _ _ (by simpa using hIndex)]
  simp only [leBytes, List.getElem_map, List.getElem_range]
  rw [getLsbD_leByte v _ _ (Nat.mod_lt i (by decide)), Nat.div_add_mod]

theorem leBytes_leWord {w : Nat} (bs : List Byte) (h : 8 * bs.length ≤ w) :
    leBytes bs.length (leWord w bs) = bs := by
  apply List.ext_getElem (length_leBytes _ _)
  intro i hi hi'
  apply BitVec.eq_of_getLsbD_eq
  intro j hj
  have hDiv : (8 * i + j) / 8 = i := by omega
  have hMod : (8 * i + j) % 8 = j := by omega
  simp only [leBytes, List.getElem_map, List.getElem_range]
  rw [getLsbD_leByte _ i j hj, getLsbD_leWord w bs _ (by omega), hDiv, hMod, List.getD_eq_getElem _ _ hi']

theorem foldl_leWord {w : Nat} (bs : List Byte) (k : Nat) (word : BitVec w) :
    (List.range bs.length).foldl (fun word i => word ||| (bs.getD i 0).setWidth w <<< (8 * (k + i))) word =
      word ||| leWord w bs <<< (8 * k) := by
  induction bs generalizing k word with
  | nil => simp [leWord]
  | cons b bs ih =>
    have hShift : ∀ i, 8 * (k + (i + 1)) = 8 * (k + 1 + i) := fun i => by omega
    rw [List.length_cons, List.range_succ_eq_map, List.foldl_cons, List.foldl_map]
    simp only [Nat.succ_eq_add_one, List.getD_cons_succ, hShift, List.getD_cons_zero]
    rw [ih, leWord, BitVec.shiftLeft_or_distrib, ← BitVec.shiftLeft_add, BitVec.or_assoc, Nat.add_zero,
      show 8 * (k + 1) = 8 + 8 * k by omega]

/-- Read byte by byte at an offset, each shifted to its place, a word is the one its bytes spell. -/
theorem foldl_getD {w : Nat} (data : List Byte) {start n : Nat} (h : start + n ≤ data.length) :
    (List.range n).foldl (fun word i => word ||| (data.getD (start + i) 0).setWidth w <<< (8 * i)) 0 =
      leWord w ((data.drop start).take n) := by
  have hLength : ((data.drop start).take n).length = n := by
    rw [List.length_take, List.length_drop]
    omega
  have hRead := foldl_leWord ((data.drop start).take n) 0 (0 : BitVec w)
  rw [hLength] at hRead
  have hByte : ∀ i ∈ List.range n, ((data.drop start).take n).getD i 0 = data.getD (start + i) 0 := by
    intro i hi
    rw [List.getD_eq_getElem?_getD, List.getElem?_take_of_lt (List.mem_range.mp hi), List.getElem?_drop,
      List.getD_eq_getElem?_getD]
  calc _ = (List.range n).foldl
        (fun word i => word ||| (((data.drop start).take n).getD i 0).setWidth w <<< (8 * (0 + i))) 0 :=
        List.foldl_ext _ _ _ fun word i hi => by rw [hByte i hi, Nat.zero_add]
    _ = leWord w ((data.drop start).take n) := by
      rw [hRead, Nat.mul_zero, BitVec.shiftLeft_zero]
      exact BitVec.zero_or

end Symulator.Library
