import Mathlib.Algebra.Order.Ring.Rat
import Mathlib.Data.Rat.Lemmas
import Symulator.Library.Json

/-! # JSON schemas

A schema is a test of values, put together from the keywords. Objects have no members but those that their schema
lists. The number that a value stands for does not depend on how it is written.
-/

namespace Symulator.Library

set_option autoImplicit false

namespace Json

/-! ## Numbers -/

def number? : Json → Option Rat
  | .unsigned n => some n
  | .integer i => some i
  | .float q => some q
  | .null | .boolean _ | .string _ | .array _ | .object _ => none

theorem getDouble_of_number {value : Json} {q : Rat} (h : value.number? = some q) : value.getDouble = .ok q := by
  cases value <;> cases h <;> rfl

theorem getUint64_of_number {value : Json} {n : Nat} (h : value.number? = some n) (hFits : n < 2 ^ 64) :
    value.getUint64 = .ok n := by
  cases value with
  | unsigned m =>
    have hSame : m = n := Nat.cast_injective (Option.some.inj h)
    rw [hSame, getUint64]
  | integer i =>
    have hSame : i = n := by
      have hCast : ((i : Int) : Rat) = ((n : Int) : Rat) := Option.some.inj h
      exact_mod_cast hCast
    subst hSame
    rw [getUint64, Int.emod_eq_of_lt (Int.natCast_nonneg n) (by exact_mod_cast hFits), Int.toNat_natCast]
  | float q =>
    have hSame : q = (n : Rat) := Option.some.inj h
    subst hSame
    rw [getUint64, Rat.num_natCast, Rat.den_natCast, Int.natCast_one, Int.tdiv_one,
      Int.emod_eq_of_lt (Int.natCast_nonneg n) (by exact_mod_cast hFits), Int.toNat_natCast]
  | null | boolean | string | array | object => cases h

theorem atKey_of_member {α : Type} {value v : Json} {key : String} {get : Json → Except String α} {a : α}
    (hMember : value.member key = some v) (hGet : get v = .ok a) : value.atKey key get = .ok a := by
  cases value with
  | object members =>
    have hObject : (object members).isObject = true := rfl
    rw [atKey, if_pos hObject, hMember]
    exact hGet
  | _ => cases hMember

theorem valueOr_of_member {α : Type} {value : Json} {key : String} {get : Json → Except String α} {default a : α}
    (hObject : value.isObject = true) (hMember : ∀ v, value.member key = some v → get v = .ok a)
    (hDefault : value.member key = none → default = a) : value.valueOr key default get = .ok a := by
  rw [valueOr, if_pos hObject]
  cases h : value.member key with
  | none => exact congrArg _ (hDefault h)
  | some v => exact hMember v h

/-- The value stands somewhere in the other. -/
inductive Within : Json → Json → Prop
  | self (value : Json) : Within value value
  | element {v w : Json} {elements : List Json} : w ∈ elements → Within v w → Within v (.array elements)
  | member {v : Json} {entry : String × Json} {members : List (String × Json)} :
    entry ∈ members → Within v entry.2 → Within v (.object members)

/-- The numbers of the value, however deep they stand, are as required. -/
def NumbersIn (fits : Rat → Prop) (value : Json) : Prop :=
  ∀ (v : Json) (q : Rat), v.Within value → v.number? = some q → fits q

namespace NumbersIn

variable {fits : Rat → Prop} {value v : Json}

theorem number (h : NumbersIn fits value) {q : Rat} (hNumber : value.number? = some q) : fits q :=
  h value q (.self value) hNumber

theorem element {elements : List Json} (h : NumbersIn fits (.array elements)) (hElement : v ∈ elements) :
    NumbersIn fits v := fun w q hWithin => h w q (.element hElement hWithin)

theorem member {key : String} (h : NumbersIn fits value) (hMember : value.member key = some v) : NumbersIn fits v := by
  cases value with
  | object members =>
    obtain ⟨entry, hFind, rfl⟩ := Option.map_eq_some_iff.mp hMember
    exact fun w q hWithin => h w q (.member (List.mem_of_find?_eq_some hFind) hWithin)
  | _ => cases hMember

end NumbersIn

end Json

abbrev JsonSchema : Type := Json → Bool

namespace JsonSchema

/-! ## Keywords -/

def number (test : Rat → Bool) : JsonSchema := fun value => value.number?.any test

def integer (minimum maximum : Int) : JsonSchema := number fun q => q.den = 1 && minimum ≤ q.num && q.num ≤ maximum

def string : JsonSchema := Json.isString

def constNumber (q : Rat) : JsonSchema := number fun r => r = q

def enum (words : List String) : JsonSchema := Json.isOneOf words

def nonEmptyString : JsonSchema
  | .string s => s ≠ ""
  | _ => false

def array (minItems : Nat) (items : JsonSchema) : JsonSchema
  | .array elements => minItems ≤ elements.length && elements.all items
  | _ => false

def object (required : List String) (properties : List (String × JsonSchema)) : JsonSchema
  | .object members =>
    required.all (fun key => members.any fun entry => entry.1 = key) &&
      members.all fun entry => (properties.lookup entry.1).any fun schema => schema entry.2
  | _ => false

/-- Exactly one of the schemas takes the value. -/
def oneOf (schemas : List JsonSchema) : JsonSchema :=
  fun value => (schemas.filter fun schema => schema value).length = 1

/-! ## What a valid value is -/

variable {value : Json}

theorem number_spec {test : Rat → Bool} (h : number test value = true) :
    ∃ q, value.number? = some q ∧ test q = true := (Option.any_eq_true _ _).mp h

/-- The number is written without loss. -/
theorem integer_spec {minimum maximum : Int} (hMinimum : 0 ≤ minimum) (h : integer minimum maximum value = true) :
    ∃ n : Nat, value.number? = some (n : Rat) ∧ minimum ≤ n ∧ (n : Int) ≤ maximum := by
  obtain ⟨q, hNumber, hTest⟩ := number_spec h
  simp only [Bool.and_eq_true, decide_eq_true_eq] at hTest
  obtain ⟨⟨hDen, hLow⟩, hHigh⟩ := hTest
  obtain ⟨n, hn⟩ := Int.eq_ofNat_of_zero_le (hMinimum.trans hLow)
  refine ⟨n, ?_, hn ▸ hLow, hn ▸ hHigh⟩
  rw [hNumber]
  refine congrArg some ?_
  rw [← Rat.coe_int_num_of_den_eq_one hDen, hn]
  rfl

theorem nonEmptyString_spec (h : nonEmptyString value = true) : ∃ s, value = .string s ∧ s ≠ "" := by
  cases value with
  | string s => exact ⟨s, rfl, of_decide_eq_true h⟩
  | _ => cases h

theorem enum_spec {words : List String} (h : enum words value = true) : ∃ s, value = .string s ∧ s ∈ words := by
  cases value with
  | string s => exact ⟨s, rfl, of_decide_eq_true h⟩
  | _ => cases h

theorem array_spec {minItems : Nat} {items : JsonSchema} (h : array minItems items value = true) :
    ∃ elements, value = .array elements ∧ minItems ≤ elements.length ∧ ∀ v ∈ elements, items v = true := by
  cases value with
  | array elements =>
    simp only [array, Bool.and_eq_true, decide_eq_true_eq, List.all_eq_true] at h
    exact ⟨elements, rfl, h.1, h.2⟩
  | _ => cases h

theorem oneOf_spec {schemas : List JsonSchema} (h : oneOf schemas value = true) :
    ∃ schema ∈ schemas, schema value = true := by
  have hLength := of_decide_eq_true h
  obtain ⟨schema, hSchema⟩ := List.length_eq_one_iff.mp hLength
  have hIn : schema ∈ schemas.filter fun schema => schema value := hSchema ▸ List.mem_singleton_self _
  exact ⟨schema, (List.mem_filter.mp hIn).1, (List.mem_filter.mp hIn).2⟩

variable {required : List String} {properties : List (String × JsonSchema)}

theorem isObject_of_object (h : object required properties value = true) : value.isObject = true := by
  cases value with
  | object members => rfl
  | _ => cases h

/-- A member is one of those listed, and as its schema has it. -/
theorem member_of_object (h : object required properties value = true) {key : String} {v : Json}
    (hMember : value.member key = some v) : ∃ schema, properties.lookup key = some schema ∧ schema v = true := by
  cases value with
  | object members =>
    simp only [object, Bool.and_eq_true, List.all_eq_true] at h
    obtain ⟨entry, hFind, rfl⟩ := Option.map_eq_some_iff.mp hMember
    have hKey : entry.1 = key := of_decide_eq_true (List.find?_some hFind :)
    exact hKey ▸ (Option.any_eq_true _ _).mp (h.2 entry (List.mem_of_find?_eq_some hFind))
  | _ => cases h

theorem required_of_object (key : String) (h : object required properties value = true) {schema : JsonSchema}
    (hRequired : key ∈ required) (hProperty : properties.lookup key = some schema) :
    ∃ v, value.member key = some v ∧ schema v = true := by
  have hThere : ∃ v, value.member key = some v := by
    cases value with
    | object members =>
      simp only [object, Bool.and_eq_true, List.all_eq_true, List.any_eq_true] at h
      obtain ⟨entry, hEntry, hKey⟩ := h.1 key hRequired
      have hSome : (members.find? fun entry => entry.1 = key).isSome = true :=
        List.find?_isSome.mpr ⟨entry, hEntry, hKey⟩
      obtain ⟨found, hFound⟩ := Option.isSome_iff_exists.mp hSome
      exact ⟨found.2, by rw [Json.member, hFound]; rfl⟩
    | _ => cases h
  obtain ⟨v, hMember⟩ := hThere
  obtain ⟨other, hOther, hValid⟩ := member_of_object h hMember
  cases hProperty.symm.trans hOther
  exact ⟨v, hMember, hValid⟩

theorem optional_of_object (h : object required properties value = true) {key : String} {schema : JsonSchema}
    (hProperty : properties.lookup key = some schema) {v : Json} (hMember : value.member key = some v) :
    schema v = true := by
  obtain ⟨other, hOther, hValid⟩ := member_of_object h hMember
  cases hProperty.symm.trans hOther
  exact hValid

end JsonSchema

end Symulator.Library
