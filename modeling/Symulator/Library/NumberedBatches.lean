import Mathlib.Algebra.BigOperators.Group.List.Basic
import Mathlib.Algebra.Order.Ring.Nat

/-! # Consecutively numbered batches

Items that come in batches are numbered one after the other, modulo `m`. A reader who holds the first `n`
batches and the number `n % m` would tell what it has from what is new by the numbers alone; that works when
the batches bring just as many items as the number says.
-/

namespace Symulator.Library

set_option autoImplicit false

/-- The items of the first `n` batches. -/
def itemsUpTo (sizes : List Nat) (n : Nat) : Nat := (sizes.take n).sum

/-- Of all items, those of the first `n` batches are numbered up to `n % m`, the others above it. -/
def SplitAt (m : Nat) (sizes : List Nat) (n : Nat) : Prop :=
  (∀ j < itemsUpTo sizes n, j % m ≤ n % m) ∧ ∀ j, itemsUpTo sizes n ≤ j → j < sizes.sum → n % m < j % m

theorem itemsUpTo_le_sum (sizes : List Nat) (n : Nat) : itemsUpTo sizes n ≤ sizes.sum := by
  have hSum := List.sum_take_add_sum_drop sizes n
  rw [itemsUpTo]
  omega

theorem itemsUpTo_length (sizes : List Nat) : itemsUpTo sizes sizes.length = sizes.sum := by
  rw [itemsUpTo, List.take_length]

theorem itemsUpTo_le_of_splitAt {m n : Nat} {sizes : List Nat} (h : SplitAt m sizes n) (hBelow : n % m + 1 < m) :
    itemsUpTo sizes n ≤ n % m + 1 := by
  by_contra hMore
  have hNext := h.1 (n % m + 1) (by omega)
  rw [Nat.mod_eq_of_lt hBelow] at hNext
  omega

/-- At its highest value the cursor bounds the items as well: the one before it would not let the numbers start
over. -/
theorem itemsUpTo_le_of_highest {m n : Nat} {sizes : List Nat} (h : SplitAt m sizes (n - 1))
    (hHighest : n % m = m - 1) (hm : 3 ≤ m) : itemsUpTo sizes n ≤ n % m + 1 := by
  have hBefore : (n - 1) % m = m - 2 := by
    have hDiv := Nat.div_add_mod n m
    rw [hHighest] at hDiv
    rw [show n - 1 = m * (n / m) + (m - 2) by omega, Nat.mul_add_mod, Nat.mod_eq_of_lt (by omega)]
  have hItems := itemsUpTo_le_of_splitAt h (by omega)
  by_contra hMore
  have hSum := itemsUpTo_le_sum sizes n
  have hStart := h.2 m (by omega) (by omega)
  rw [Nat.mod_self] at hStart
  omega

/-- The numbers tell the batches apart throughout when the first `n` batches bring at most `n % m + 1` items, and
just that many while there are more to come. -/
theorem splitAt_iff {m : Nat} (hm : 3 ≤ m) (sizes : List Nat) :
    (∀ n, 1 ≤ n → n ≤ sizes.length → SplitAt m sizes n) ↔ ∀ n, 1 ≤ n → n ≤ sizes.length →
      itemsUpTo sizes n ≤ n % m + 1 ∧ (itemsUpTo sizes n < sizes.sum → n % m < itemsUpTo sizes n) := by
  have hMod : ∀ n, n % m < m := fun n => Nat.mod_lt n (by omega)
  constructor
  · intro h n hFirst hLast
    have hSplit := h n hFirst hLast
    have hBound : itemsUpTo sizes n ≤ n % m + 1 := by
      by_cases hBelow : n % m + 1 < m
      · exact itemsUpTo_le_of_splitAt hSplit hBelow
      · have hHighest : n % m = m - 1 := by
          have hLt := hMod n
          omega
        have hLarge := Nat.mod_le n m
        exact itemsUpTo_le_of_highest (h (n - 1) (by omega) (by omega)) hHighest hm
    refine ⟨hBound, fun hMore => ?_⟩
    have hNext := hSplit.2 (itemsUpTo sizes n) le_rfl hMore
    have hLe := Nat.mod_le (itemsUpTo sizes n) m
    omega
  · intro h n hFirst hLast
    obtain ⟨hBound, hMore⟩ := h n hFirst hLast
    have hTotal := (h sizes.length (by omega) le_rfl).1
    rw [itemsUpTo_length] at hTotal
    have hWrap := hMod sizes.length
    have hCursor := hMod n
    constructor
    · intro j hj
      rw [Nat.mod_eq_of_lt (by omega : j < m)]
      omega
    · intro j hj hSum
      have hFew := hMore (by omega)
      rw [Nat.mod_eq_of_lt (by omega : j < m)]
      omega

end Symulator.Library
