import Mathlib.Algebra.Group.Int.Defs
import Mathlib.Algebra.Group.Nat.Defs
import Symulator.Library.Runs

/-! # JSON values

The values and readers of nlohmann::json, as its documentation has them. Numbers keep the way they are written:
without a sign, with a minus sign, or as a decimal. The members of an object stand in their order, the first of a
name counts. A `get` to a number type of the library's own takes numbers only, to any other arithmetic type Booleans
too; `at` wants an object that has the key, `value` an object. What does not fit throws the type error 302, 304 or
306 or the range error 403 with the text given here. Which values a reader takes is a Boolean test of the value.
-/

namespace Symulator.Library

set_option autoImplicit false

inductive Json
  | null
  | boolean (b : Bool)
  | unsigned (n : Nat)
  | integer (i : Int)
  | float (q : Rat)
  | string (s : String)
  | array (elements : List Json)
  | object (members : List (String × Json))

namespace Json

/-- What a loop over the value goes through: a single value is gone through once. -/
def elements : Json → List Json
  | .null => []
  | .array elements => elements
  | .object members => members.map Prod.snd
  | value => [value]

@[simp] theorem elements_array (elements : List Json) : (Json.array elements).elements = elements := rfl

def typeName : Json → String
  | .null => "null"
  | .boolean _ => "boolean"
  | .unsigned _ | .integer _ | .float _ => "number"
  | .string _ => "string"
  | .array _ => "array"
  | .object _ => "object"

def isNull : Json → Bool
  | .null => true
  | _ => false

def isObject : Json → Bool
  | .object _ => true
  | _ => false

def isUnsigned : Json → Bool
  | .unsigned _ => true
  | _ => false

def isNumber : Json → Bool
  | .unsigned _ | .integer _ | .float _ => true
  | _ => false

def isInteger : Json → Bool
  | .unsigned _ | .integer _ => true
  | _ => false

def isBoolean : Json → Bool
  | .boolean _ => true
  | _ => false

def isString : Json → Bool
  | .string _ => true
  | _ => false

def isOneOf (words : List String) : Json → Bool
  | .string s => decide (s ∈ words)
  | _ => false

def member (value : Json) (key : String) : Option Json :=
  match value with
  | .object members => (members.find? fun entry => entry.1 = key).map Prod.snd
  | _ => none

def contains (value : Json) (key : String) : Bool := (value.member key).isSome

def isArithmetic (value : Json) : Bool := value.isNumber || value.isBoolean

/-- The object has the member, and it passes the test. -/
def hasField (key : String) (test : Json → Bool) (value : Json) : Bool := (value.member key).any test

/-- The member, if there is one, passes the test. -/
def fieldIfThere (key : String) (test : Json → Bool) (value : Json) : Bool := (value.member key).all test

/-- The value is an object whose member, if there, passes the test. -/
def optField (key : String) (test : Json → Bool) (value : Json) : Bool :=
  value.isObject && value.fieldIfThere key test

/-! ## Readers -/

def typeError {α : Type} (expected : String) (value : Json) : Except String α :=
  .error ("[json.exception.type_error.302] type must be " ++ expected ++ ", but is " ++ value.typeName)

def getUint64 : Json → Except String Nat
  | .unsigned n => .ok n
  | .integer i => .ok (i % 2 ^ 64).toNat
  | .float q => .ok (q.num.tdiv q.den % 2 ^ 64).toNat
  | value => typeError "number" value

def getInt64 : Json → Except String Int
  | .unsigned n => .ok (Int.bmod n (2 ^ 64))
  | .integer i => .ok i
  | .float q => .ok ((q.num.tdiv q.den).bmod (2 ^ 64))
  | value => typeError "number" value

/-- A conversion to a narrow integer also takes a Boolean, and wraps around. -/
def getInt32 : Json → Except String Int
  | .unsigned n => .ok (Int.bmod n (2 ^ 32))
  | .integer i => .ok (i.bmod (2 ^ 32))
  | .float q => .ok ((q.num.tdiv q.den).bmod (2 ^ 32))
  | .boolean b => .ok (if b then 1 else 0)
  | value => typeError "number" value

theorem lt_of_getInt32 {value : Json} {i : Int} (h : value.getInt32 = .ok i) : i < 2147483648 := by
  have hBound : ∀ x : Int, x.bmod (2 ^ 32) < 2147483648 := by
    intro x
    have hLess := @Int.bmod_lt x (2 ^ 32) (by decide)
    omega
  cases value with
  | unsigned n => exact Except.ok.inj h ▸ hBound n
  | integer i => exact Except.ok.inj h ▸ hBound i
  | float q => exact Except.ok.inj h ▸ hBound _
  | boolean b =>
    rw [← Except.ok.inj h]
    cases b <;> decide
  | null => cases h
  | string s => cases h
  | array elements => cases h
  | object members => cases h

def getDouble : Json → Except String Rat
  | .unsigned n => .ok n
  | .integer i => .ok i
  | .float q => .ok q
  | value => typeError "number" value

/-- Unlike a conversion to double, one to float also takes a Boolean. -/
def getFloat : Json → Except String Rat
  | .unsigned n => .ok n
  | .integer i => .ok i
  | .float q => .ok q
  | .boolean b => .ok (if b then 1 else 0)
  | value => typeError "number" value

def getBool : Json → Except String Bool
  | .boolean b => .ok b
  | value => typeError "boolean" value

def getString : Json → Except String String
  | .string s => .ok s
  | value => typeError "string" value

section Fields

variable {α β : Type}

def atKey (key : String) (get : Json → Except String α) (value : Json) : Except String α :=
  if value.isObject then
    match value.member key with
    | some v => get v
    | none => .error ("[json.exception.out_of_range.403] key '" ++ key ++ "' not found")
  else .error ("[json.exception.type_error.304] cannot use at() with " ++ value.typeName)

def valueOr (key : String) (default : α) (get : Json → Except String α) (value : Json) : Except String α :=
  if value.isObject then
    match value.member key with
    | some v => get v
    | none => .ok default
  else .error ("[json.exception.type_error.306] cannot use value() with " ++ value.typeName)

/-! ## Which values a reader takes -/

theorem isOk_iff {x : Except String α} : x.isOk = true ↔ ∃ a, x = .ok a := by
  cases x with
  | error e => simp [Except.isOk, Except.toBool]
  | ok a => simp [Except.isOk, Except.toBool]

theorem isOk_bind {x : Except String α} {f : α → Except String β} {b : Bool} (h : ∀ a, (f a).isOk = b) :
    (x >>= f).isOk = (x.isOk && b) := by
  cases x with
  | error e => rfl
  | ok a => exact (h a).trans (Bool.true_and b).symm

theorem isOk_bind_pure (x : Except String α) (f : α → β) : (x >>= fun a => pure (f a)).isOk = x.isOk := by
  cases x <;> rfl

theorem isOk_mapM {γ : Type} {get : γ → Except String α} {test : γ → Bool} (h : ∀ v, (get v).isOk = test v)
    (values : List γ) : (values.mapM get).isOk = values.all test := by
  induction values with
  | nil => rfl
  | cons v values ih =>
    rw [List.mapM_cons, isOk_bind (b := values.all test), h, List.all_cons]
    intro a
    rw [isOk_bind_pure, ih]

@[simp] theorem isOk_getUint64 (value : Json) : value.getUint64.isOk = value.isNumber := by
  cases value <;> rfl

@[simp] theorem isOk_getInt32 (value : Json) : value.getInt32.isOk = value.isArithmetic := by
  cases value <;> rfl

@[simp] theorem isOk_getDouble (value : Json) : value.getDouble.isOk = value.isNumber := by
  cases value <;> rfl

@[simp] theorem isOk_getFloat (value : Json) : value.getFloat.isOk = value.isArithmetic := by
  cases value <;> rfl

@[simp] theorem isOk_getBool (value : Json) : value.getBool.isOk = value.isBoolean := by
  cases value <;> rfl

@[simp] theorem isOk_getString (value : Json) : value.getString.isOk = value.isString := by
  cases value <;> rfl

theorem isOk_getString_bind {parse : String → Except String α} {words : List String}
    (h : ∀ s, (parse s).isOk = decide (s ∈ words)) (value : Json) :
    (value.getString >>= parse).isOk = value.isOneOf words := by
  cases value with
  | string s => exact h s
  | _ => rfl

theorem member_of_not_isObject {value : Json} (h : value.isObject = false) (key : String) :
    value.member key = none := by
  cases value with
  | object members => cases h
  | _ => rfl

theorem isOk_atKey_bind {get : Json → Except String α} {f : α → Except String β} {test : Json → Bool}
    (h : ∀ v, (get v >>= f).isOk = test v) (key : String) (value : Json) :
    (value.atKey key get >>= f).isOk = value.hasField key test := by
  unfold atKey hasField
  by_cases hObject : value.isObject = true
  · rw [if_pos hObject]
    cases value.member key with
    | none => rfl
    | some v => exact h v
  · rw [if_neg hObject, member_of_not_isObject (Bool.eq_false_iff.mpr hObject)]
    rfl

theorem atKey_ok {get : Json → Except String α} {key : String} {value : Json} {a : α}
    (h : value.atKey key get = .ok a) : ∃ v, value.member key = some v ∧ get v = .ok a := by
  unfold atKey at h
  split at h
  · split at h
    · rename_i v hMember
      exact ⟨v, hMember, h⟩
    · cases h
  · cases h

theorem isOk_atKey {get : Json → Except String α} {test : Json → Bool} (h : ∀ v, (get v).isOk = test v)
    (key : String) (value : Json) : (value.atKey key get).isOk = value.hasField key test := by
  rw [← isOk_atKey_bind (f := Except.ok) (fun v => ?_) key value]
  · cases value.atKey key get <;> rfl
  · rw [← h v]
    cases get v <;> rfl

theorem isOk_ifThere {get : Json → Except String α} {test : Json → Bool} (h : ∀ v, (get v).isOk = test v)
    (key : String) (default : α) (value : Json) :
    (if value.contains key then value.atKey key get else pure default).isOk = value.fieldIfThere key test := by
  unfold contains fieldIfThere
  cases hMember : value.member key with
  | none => rfl
  | some v =>
    rw [Option.isSome_some, if_pos rfl, isOk_atKey h, hasField, hMember]
    rfl

theorem isOk_valueOr_bind {get : Json → Except String α} {f : α → Except String β} {test : Json → Bool}
    (h : ∀ v, (get v >>= f).isOk = test v) (key : String) {default : α} (hDefault : (f default).isOk = true)
    (value : Json) : (value.valueOr key default get >>= f).isOk = value.optField key test := by
  unfold valueOr optField fieldIfThere
  by_cases hObject : value.isObject = true
  · rw [if_pos hObject, hObject, Bool.true_and]
    cases value.member key with
    | none => exact hDefault
    | some v => exact h v
  · rw [if_neg hObject, Bool.eq_false_iff.mpr hObject]
    rfl

theorem isOk_valueOr {get : Json → Except String α} {test : Json → Bool} (h : ∀ v, (get v).isOk = test v)
    (key : String) (default : α) (value : Json) :
    (value.valueOr key default get).isOk = value.optField key test := by
  have hDefault : (Except.ok default : Except String α).isOk = true := rfl
  rw [← isOk_valueOr_bind (f := Except.ok) (fun v => ?_) key hDefault value]
  · cases value.valueOr key default get <;> rfl
  · rw [← h v]
    cases get v <;> rfl

end Fields

end Json

end Symulator.Library
