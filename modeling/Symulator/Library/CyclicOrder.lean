import Mathlib.Data.List.Range

/-! # Numbers in cyclic order

The numbers from one to `n`, counted from a start and from one again after the last.
-/

namespace Symulator.Library

set_option autoImplicit false

def cyclicOrder (n start : Nat) : List Nat := List.range' start (n + 1 - start) ++ List.range' 1 (start - 1)

def cyclicPlace (n start offset : Nat) : Nat := (start - 1 + offset) % n + 1

variable {n start : Nat}

@[simp] theorem mem_cyclicOrder {i : Nat} (hPos : 1 ≤ start) (hLe : start ≤ n) :
    i ∈ cyclicOrder n start ↔ 1 ≤ i ∧ i ≤ n := by
  rw [cyclicOrder, List.mem_append, List.mem_range'_1, List.mem_range'_1]
  omega

/-- The places at the offsets below `n` are the numbers in cyclic order. -/
theorem map_cyclicPlace (hPos : 1 ≤ start) (hLe : start ≤ n) :
    (List.range n).map (cyclicPlace n start) = cyclicOrder n start := by
  have hLength : n + 1 - start + (start - 1) = n := by omega
  apply List.ext_getElem
  · rw [List.length_map, List.length_range, cyclicOrder, List.length_append, List.length_range', List.length_range',
      hLength]
  · intro i hi _
    rw [List.length_map, List.length_range] at hi
    rw [List.getElem_map, List.getElem_range, cyclicPlace]
    simp only [cyclicOrder, List.getElem_append, List.length_range', List.getElem_range']
    split
    · rw [Nat.mod_eq_of_lt (by omega)]
      omega
    · rw [Nat.mod_eq_sub_mod (by omega), Nat.mod_eq_of_lt (by omega)]
      omega

end Symulator.Library
