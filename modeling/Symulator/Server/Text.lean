import Mathlib.Algebra.Group.Nat.Defs
import Mathlib.Data.List.TakeWhile

/-! # Texts

What the standard library makes of numbers and words in a text.
-/

namespace Symulator.Server

set_option autoImplicit false

/-- A decimal number, filled up with zeros to the given width. -/
def zeroPadded (width n : Nat) : String := String.ofList (List.leftpad width '0' (Nat.toDigits 10 n))

theorem zeroPadded_inj {width n n' : Nat} (h : zeroPadded width n = zeroPadded width n') : n = n' := by
  have hDigits := congrArg (fun s => Nat.ofDigitChars 10 s.toList 0) h
  simpa [zeroPadded, List.leftpad, Nat.ofDigitChars_append, Nat.ofDigitChars_replicate_zero,
    Nat.ofDigitChars_ten_toDigits] using hDigits

inductive StoullError
  | invalidArgument | outOfRange
deriving DecidableEq, Repr

def isSpace (c : Char) : Bool :=
  c = ' ' ∨ c = '\t' ∨ c = '\n' ∨ c = '\x0b' ∨ c = '\x0c' ∨ c = '\r'

/-- The decimal number a text starts with, after blanks and a sign; a minus sign negates modulo 2^64. -/
def stoull (text : String) : Except StoullError UInt64 :=
  let body := text.toList.dropWhile isSpace
  let (negative, body) :=
    match body with
    | '-' :: rest => (true, rest)
    | '+' :: rest => (false, rest)
    | rest => (false, rest)
  let digits := body.takeWhile Char.isDigit
  if digits.isEmpty then .error .invalidArgument
  else
    let value := Nat.ofDigitChars 10 digits 0
    if value < 2 ^ 64 then .ok (if negative then 0 - UInt64.ofNat value else UInt64.ofNat value)
    else .error .outOfRange

theorem digit_not_sign {c : Char} (h : c.isDigit = true) : isSpace c = false ∧ c ≠ '-' ∧ c ≠ '+' := by
  have hNot : ∀ d : Char, d.isDigit = false → c ≠ d := by
    rintro d hd rfl
    rw [h] at hd
    cases hd
  refine ⟨decide_eq_false ?_, hNot '-' (by decide), hNot '+' (by decide)⟩
  rintro (hEq | hEq | hEq | hEq | hEq | hEq) <;> exact hNot _ (by decide) hEq

theorem stoull_of_digits {text : String} {d : Char} {ds : List Char} (hText : text.toList = d :: ds)
    (hDigits : ∀ c ∈ text.toList, c.isDigit = true) (hFits : Nat.ofDigitChars 10 text.toList 0 < 2 ^ 64) :
    stoull text = .ok (UInt64.ofNat (Nat.ofDigitChars 10 text.toList 0)) := by
  obtain ⟨hSpace, hMinus, hPlus⟩ := digit_not_sign (hDigits d (by simp [hText]))
  have hAll : text.toList.takeWhile Char.isDigit = text.toList := List.takeWhile_eq_self_iff.mpr hDigits
  rw [hText] at hAll hFits ⊢
  simp only [stoull, hText, List.dropWhile_cons, hSpace, Bool.false_eq_true, if_false]
  split
  · rename_i hHead
    cases hHead
    exact absurd rfl hMinus
  · rename_i hHead
    cases hHead
    exact absurd rfl hPlus
  · simp only [hAll, List.isEmpty_cons, Bool.false_eq_true, if_false, if_pos hFits]

@[simp] theorem stoull_toString (n : UInt64) : stoull (toString n) = .ok n := by
  have hText : (toString n).toList = Nat.toDigits 10 n.toNat := Nat.toList_repr
  obtain ⟨d, ds, hDigits⟩ := List.exists_cons_of_ne_nil (@Nat.toDigits_ne_nil n.toNat 10)
  have hNumber : Nat.ofDigitChars 10 (toString n).toList 0 = n.toNat := by
    rw [hText, Nat.ofDigitChars_ten_toDigits]
  rw [stoull_of_digits (hText.trans hDigits), hNumber, UInt64.ofNat_toNat]
  · intro c hc
    rw [hText] at hc
    exact Nat.isDigit_of_mem_toDigits (by decide) (by decide) hc
  · rw [hNumber]
    exact n.toNat_lt

theorem stoull_of_letter {text : String} {c : Char} {cs : List Char} (hText : text.toList = c :: cs)
    (hSpace : isSpace c = false) (hMinus : c ≠ '-') (hPlus : c ≠ '+') (hDigit : c.isDigit = false) :
    stoull text = .error .invalidArgument := by
  simp only [stoull, hText, List.dropWhile_cons, hSpace, Bool.false_eq_true, if_false]
  split
  · rename_i hHead
    cases hHead
    exact absurd rfl hMinus
  · rename_i hHead
    cases hHead
    exact absurd rfl hPlus
  · simp [hDigit]

/-- The words of a line. -/
def tokenize (line : String) : List String :=
  ((line.toList.splitOnP isSpace).filter fun word => !word.isEmpty).map String.ofList

example : tokenize "  login admin\tadmin123 " = ["login", "admin", "admin123"] := by decide +kernel

end Symulator.Server
