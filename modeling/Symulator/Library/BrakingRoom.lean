import Mathlib.Algebra.Order.Floor.Ring
import Mathlib.Algebra.Order.Field.Basic
import Mathlib.Tactic.Linarith
import Mathlib.Tactic.Positivity
import Mathlib.Tactic.Ring

/-! # The way to a stand in ticks

A body that loses the speed `h` in each tick of length `dt`, and whose way in a tick is that of its mean speed,
comes to a stand after a way that is linear between the multiples of `h`.
-/

namespace Symulator.Library

set_option autoImplicit false

universe u

variable {K : Type u} [Field K]

/-- The way to a stand from a speed between `n` and `n + 1` times `h`. -/
def brakingChord (h dt : K) (n : Int) (v : K) : K := dt * ((2 * n + 1) * v - n * (n + 1) * h) / 2

theorem brakingChord_zero (h dt v : K) : brakingChord h dt 0 v = dt * v / 2 := by
  unfold brakingChord
  push_cast
  ring

variable [LinearOrder K] [FloorRing K]

def brakingRoom (h dt v : K) : K := if v ≤ 0 then 0 else brakingChord h dt ⌊v / h⌋ v

variable {h dt v w : K}

theorem brakingRoom_of_nonpos (hv : v ≤ 0) : brakingRoom h dt v = 0 := if_pos hv

section Positive

variable [IsStrictOrderedRing K] (hh : 0 < h) (hdt : 0 ≤ dt)

include hh hdt

/-- Of the lines through neighbouring points the highest counts. -/
theorem chord_le_brakingRoom (hv : 0 < v) (n : Int) : brakingChord h dt n v ≤ brakingRoom h dt v := by
  rw [brakingRoom, if_neg (not_le.mpr hv)]
  have hLow : (⌊v / h⌋ : K) * h ≤ v := (le_div_iff₀ hh).mp (Int.floor_le (v / h))
  have hHigh : v < ((⌊v / h⌋ : K) + 1) * h := (div_lt_iff₀ hh).mp (Int.lt_floor_add_one (v / h))
  generalize ⌊v / h⌋ = k at hLow hHigh ⊢
  have hGap : brakingChord h dt k v - brakingChord h dt n v = dt * (((k : K) - n) * (2 * v - (k + n + 1) * h)) / 2 := by
    unfold brakingChord
    ring
  have hProduct : 0 ≤ ((k : K) - n) * (2 * v - (k + n + 1) * h) := by
    rcases lt_trichotomy n k with hLess | rfl | hMore
    · have hStep : (n : K) + 1 ≤ k := by exact_mod_cast hLess
      refine mul_nonneg (by linarith) ?_
      have hScaled := mul_le_mul_of_nonneg_right hStep (le_of_lt hh)
      linarith
    · rw [sub_self, zero_mul]
    · have hStep : (k : K) + 1 ≤ n := by exact_mod_cast hMore
      refine mul_nonneg_of_nonpos_of_nonpos (by linarith) ?_
      have hScaled := mul_le_mul_of_nonneg_right hStep (le_of_lt hh)
      linarith
  have hNonneg := mul_nonneg hdt hProduct
  linarith

theorem brakingRoom_nonneg (v : K) : 0 ≤ brakingRoom h dt v := by
  rcases le_or_gt v 0 with hv | hv
  · rw [brakingRoom_of_nonpos hv]
  · have hChord := chord_le_brakingRoom hh hdt hv 0
    rw [brakingChord_zero] at hChord
    have hWay := mul_nonneg hdt (le_of_lt hv)
    linarith

theorem brakingRoom_mono (hvw : v ≤ w) : brakingRoom h dt v ≤ brakingRoom h dt w := by
  rcases le_or_gt v 0 with hv | hv
  · rw [brakingRoom_of_nonpos hv]
    exact brakingRoom_nonneg hh hdt w
  · refine le_trans ?_ (chord_le_brakingRoom hh hdt (lt_of_lt_of_le hv hvw) ⌊v / h⌋)
    rw [brakingRoom, if_neg (not_le.mpr hv)]
    have hk : (0 : K) ≤ ⌊v / h⌋ := by exact_mod_cast Int.floor_nonneg.mpr (div_nonneg (le_of_lt hv) (le_of_lt hh))
    have hSlope : 0 ≤ dt * (2 * (⌊v / h⌋ : K) + 1) := mul_nonneg hdt (by linarith)
    have hRise := mul_le_mul_of_nonneg_left hvw hSlope
    unfold brakingChord
    linarith

/-- The way of one tick and the way from the speed it ends in. -/
theorem brakingRoom_tick (v : K) :
    dt * ((v + max 0 (v - h)) / 2) + brakingRoom h dt (max 0 (v - h)) ≤ brakingRoom h dt v := by
  rcases le_or_gt v h with hvh | hvh
  · rw [max_eq_left (by linarith), brakingRoom_of_nonpos (le_refl 0)]
    rcases le_or_gt v 0 with hv | hv
    · rw [brakingRoom_of_nonpos hv]
      have hWay := mul_nonneg hdt (neg_nonneg.mpr hv)
      linarith
    · have hChord := chord_le_brakingRoom hh hdt hv 0
      rw [brakingChord_zero] at hChord
      linarith
  · have hu : 0 < v - h := by linarith
    rw [max_eq_right (le_of_lt hu)]
    have hChord := chord_le_brakingRoom hh hdt (lt_trans hh hvh) (⌊(v - h) / h⌋ + 1)
    have hSame : brakingRoom h dt (v - h) = brakingChord h dt ⌊(v - h) / h⌋ (v - h) := if_neg (not_le.mpr hu)
    rw [hSame]
    unfold brakingChord at hChord ⊢
    push_cast at hChord
    linarith

end Positive

end Symulator.Library
