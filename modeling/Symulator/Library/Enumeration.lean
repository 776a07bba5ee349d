import Symulator.Library.LittleEndian

/-! # Enumerations held in a byte

A variable of an enumeration type holds a byte. The enumerators are counted from zero; a byte that is cast to the
type may name none of them.
-/

namespace Symulator.Library

set_option autoImplicit false

universe u

/-- Enumerators counted from zero, few enough for a byte. -/
class Enumeration (ε : Type u) where
  count : Nat
  index : ε → Nat
  ofIndex : Nat → ε
  index_lt : ∀ e, index e < count
  index_ofIndex : ∀ n < count, index (ofIndex n) = n
  ofIndex_index : ∀ e, ofIndex (index e) = e
  count_le : count ≤ 256

namespace Enumeration

variable {ε : Type u} [Enumeration ε]

def value (e : ε) : Byte := BitVec.ofNat 8 (index e)

variable (ε) in
/-- The byte is the value of an enumerator. -/
def IsDeclared (b : Byte) : Prop := b.toNat < count ε

variable (ε) in
instance (b : Byte) : Decidable (IsDeclared ε b) := inferInstanceAs (Decidable (_ < _))

variable (ε) in
/-- The enumerator that a byte names. -/
def enumerator? (b : Byte) : Option ε := if IsDeclared ε b then some (ofIndex b.toNat) else none

theorem toNat_value (e : ε) : (value e).toNat = index e := by
  have hSmall := (index_lt e).trans_le (count_le (ε := ε))
  rw [value, BitVec.toNat_ofNat]
  exact Nat.mod_eq_of_lt hSmall

theorem isDeclared_value (e : ε) : IsDeclared ε (value e) := by
  rw [IsDeclared, toNat_value]
  exact index_lt e

@[simp] theorem enumerator?_value (e : ε) : enumerator? ε (value e) = some e := by
  rw [enumerator?, if_pos (isDeclared_value e), toNat_value, ofIndex_index]

theorem enumerator?_eq_some {b : Byte} {e : ε} : enumerator? ε b = some e ↔ value e = b := by
  constructor
  · intro h
    rw [enumerator?] at h
    split at h
    · rename_i hDeclared
      cases h
      apply BitVec.eq_of_toNat_eq
      rw [toNat_value, index_ofIndex _ hDeclared]
    · cases h
  · rintro rfl
    exact enumerator?_value e

theorem value_injective {e e' : ε} (h : value e = value e') : e = e' :=
  Option.some.inj ((enumerator?_value e).symm.trans (enumerator?_eq_some.mpr h.symm))

theorem enumerator?_eq_none {b : Byte} : enumerator? ε b = none ↔ ¬ IsDeclared ε b := by
  rw [enumerator?]
  split
  · rename_i hDeclared
    exact iff_of_false (by simp) (not_not.mpr hDeclared)
  · rename_i hOther
    exact iff_of_true rfl hOther

theorem isDeclared_iff {b : Byte} : IsDeclared ε b ↔ ∃ e : ε, value e = b := by
  constructor
  · intro h
    exact ⟨ofIndex b.toNat, enumerator?_eq_some.mp (if_pos h)⟩
  · rintro ⟨e, rfl⟩
    exact isDeclared_value e

end Enumeration

end Symulator.Library
