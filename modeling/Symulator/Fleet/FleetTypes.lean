import Mathlib.Algebra.Order.Field.Rat
import Symulator.Engine.SpawnResolver

/-! # The fleet

Vehicle types, the vehicles of a type and the consists made of vehicles. A vehicle holds what its own data and its
type's resolve to, and a consist what its vehicles add up to.
-/

namespace Symulator.Fleet

open Symulator.Engine Symulator.Library

set_option autoImplicit false

structure DavisCoefficients where
  a : Rat := 0
  b : Rat := 0
  c : Rat := 0
deriving DecidableEq

inductive TractionStatus
  | operational | defective
deriving DecidableEq, Repr

inductive TrainCategory
  | passenger | freight | maintenance
deriving DecidableEq, Repr

structure VehicleType where
  uid : UID
  typeName : String
  pkpSeries : String
  family : String
  vehicleType : String
  vehicleSubtype : String
  lengthM : Rat
  axleCount : Int
  massEmptyT : Rat
  massGrossT : Option Rat
  maxSpeedKmh : Int
  brakingLambdaPct : Int
  powerKw : Option Rat
  tractionForceKn : Option Rat
  multipleCouplingCapable : Option Bool
  davis : DavisCoefficients

instance : Keyed UID VehicleType := ⟨VehicleType.uid⟩

structure Vehicle where
  uid : UID
  pid : String
  typeUid : UID
  displayName : String
  vehicleType : String
  vehicleSubtype : String
  lengthM : Rat
  axleCount : Int
  massEmptyT : Rat
  effectiveMassT : Rat
  maxSpeedKmh : Int
  brakingLambdaPct : Int
  powerKw : Option Rat
  tractionForceKn : Option Rat
  tractionCapable : Bool := false
  tractionStatus : Option TractionStatus
  multipleCouplingCapable : Option Bool
  davis : DavisCoefficients

instance : Keyed UID Vehicle := ⟨Vehicle.uid⟩

structure Carrier where
  id : UID
  name : String
  serviceTypes : List String := []
  logo : Option String := none

instance : Keyed UID Carrier := ⟨Carrier.id⟩

/-- What the simulation needs of a consist is what the engine knows of it, and the rest. -/
structure TrainConsist extends Engine.TrainConsist where
  displayName : String := ""
  trainCategory : TrainCategory
  carrierId : Option UID := none
  totalMassT : Rat := 0
  consistLambdaPct : Rat := 0
  maxSpeedKmh : Rat := 0
  totalTractionKn : Rat := 0
  totalPowerKw : Rat := 0

instance : Keyed UID TrainConsist := ⟨fun consist => consist.uid⟩

structure FleetRegistry where
  types : KeyedMap UID VehicleType := .empty
  vehicles : KeyedMap UID Vehicle := .empty
  carriers : KeyedMap UID Carrier := .empty
  consists : KeyedMap UID TrainConsist := .empty

/-! ## Identities -/

def uidMaxSafeJsonInteger : Nat := 9007199254740991

def uidIsSafeJsonInteger (uid : UID) : Bool := uid.value ≤ uidMaxSafeJsonInteger

def uidDomainCode (uid : UID) : Nat := (uid.value >>> 40) &&& 0xFF

def uidKindCode (uid : UID) : Nat := (uid.value >>> 32) &&& 0xFF

def uidHasKind (uid : UID) (domain : UIDDomain) (kind : UIDKind) : Bool :=
  uidIsSafeJsonInteger uid && uidDomainCode uid = domain.code && uidKindCode uid = kind.code

theorem makeUid_value (domain : UIDDomain) (kind : UIDKind) (scope inst : BitVec 16) :
    (makeUid domain kind scope inst).value =
      domain.code * 2 ^ 40 + kind.code * 2 ^ 32 + scope.toNat * 2 ^ 16 + inst.toNat := by
  have hInst : inst.toNat < 2 ^ 16 := inst.isLt
  have hScope : scope.toNat <<< 16 + inst.toNat < 2 ^ 32 := by
    rw [Nat.shiftLeft_eq]
    omega
  have hKind : kind.code <<< 32 + (scope.toNat <<< 16 + inst.toNat) < 2 ^ 40 := by
    have hCode : kind.code < 2 ^ 8 := by cases kind <;> decide
    rw [Nat.shiftLeft_eq]
    omega
  rw [makeUid, Nat.or_assoc, Nat.or_assoc, ← Nat.shiftLeft_add_eq_or_of_lt hInst,
    ← Nat.shiftLeft_add_eq_or_of_lt hScope, ← Nat.shiftLeft_add_eq_or_of_lt hKind]
  simp only [Nat.shiftLeft_eq]
  omega

@[simp] theorem uidDomainCode_makeUid (domain : UIDDomain) (kind : UIDKind) (scope inst : BitVec 16) :
    uidDomainCode (makeUid domain kind scope inst) = domain.code := by
  have hDomain : domain.code < 2 ^ 8 := by cases domain <;> decide
  have hKind : kind.code < 2 ^ 8 := by cases kind <;> decide
  have hScope := scope.isLt
  have hInst := inst.isLt
  rw [uidDomainCode, makeUid_value, Nat.shiftRight_eq_div_pow, Nat.and_two_pow_sub_one_eq_mod _ 8]
  omega

@[simp] theorem uidKindCode_makeUid (domain : UIDDomain) (kind : UIDKind) (scope inst : BitVec 16) :
    uidKindCode (makeUid domain kind scope inst) = kind.code := by
  have hKind : kind.code < 2 ^ 8 := by cases kind <;> decide
  have hScope := scope.isLt
  have hInst := inst.isLt
  rw [uidKindCode, makeUid_value, Nat.shiftRight_eq_div_pow, Nat.and_two_pow_sub_one_eq_mod _ 8]
  omega

/-- The UIDs of the engine are safe integers of JSON: the domain is a byte. -/
@[simp] theorem uidIsSafeJsonInteger_makeUid (domain : UIDDomain) (kind : UIDKind) (scope inst : BitVec 16) :
    uidIsSafeJsonInteger (makeUid domain kind scope inst) = true := by
  have hDomain : domain.code < 2 ^ 8 := by cases domain <;> decide
  have hKind : kind.code < 2 ^ 8 := by cases kind <;> decide
  have hScope := scope.isLt
  have hInst := inst.isLt
  rw [uidIsSafeJsonInteger, decide_eq_true_iff, makeUid_value, uidMaxSafeJsonInteger]
  omega

/-! ## Categories -/

/-- The letters of ASCII in upper case. -/
def toUpper (s : String) : String := String.ofList (s.toList.map Char.toUpper)

def isLocomotiveType (vehicleType : String) : Bool := toUpper vehicleType = "LOCOMOTIVE"

def isTractionCapable (vehicleType vehicleSubtype : String) : Bool :=
  let type := toUpper vehicleType
  let subtype := toUpper vehicleSubtype
  if type = "LOCOMOTIVE" then true
  else if (type = "EMU_UNIT" ∨ type = "DMU_UNIT") ∧ subtype = "MOTOR" then true
  else false

def davisDefaults (vehicleType vehicleSubtype : String) (maxSpeedKmh : Int) : DavisCoefficients :=
  let type := toUpper vehicleType
  let subtype := toUpper vehicleSubtype
  if type = "LOCOMOTIVE" ∧ subtype = "ELECTRIC" then
    if maxSpeedKmh > 130 then ⟨34335 / 1000, 17658 / 100000, 24525 / 10000000⟩
    else ⟨3924 / 100, 1962 / 10000, 17658 / 10000000⟩
  else if type = "LOCOMOTIVE" ∧ subtype = "DIESEL" then ⟨44145 / 1000, 21582 / 100000, 19620 / 10000000⟩
  else if type = "LOCOMOTIVE" ∧ subtype = "STEAM" then ⟨44145 / 1000, 21582 / 100000, 19620 / 10000000⟩
  else if type = "EMU_UNIT" ∧ subtype = "MOTOR" then ⟨34335 / 1000, 17658 / 100000, 14715 / 10000000⟩
  else if (type = "EMU_UNIT" ∨ type = "DMU_UNIT") ∧ (subtype = "TRAILER" ∨ subtype = "CONTROL") then
    ⟨2943 / 100, 14715 / 100000, 13734 / 10000000⟩
  else if type = "DMU_UNIT" ∧ subtype = "MOTOR" then ⟨3924 / 100, 1962 / 10000, 17658 / 10000000⟩
  else if type = "PASSENGER_WAGON" then ⟨2943 / 100, 14715 / 100000, 13734 / 10000000⟩
  else if type = "FREIGHT_WAGON" then ⟨14715 / 1000, 7848 / 100000, 7848 / 10000000⟩
  else if type = "SERVICE_WAGON" then ⟨24525 / 1000, 12753 / 100000, 11772 / 10000000⟩
  else ⟨3924 / 100, 1962 / 10000, 17658 / 10000000⟩

theorem isTractionCapable_of_locomotive {vehicleType : String} (h : isLocomotiveType vehicleType = true)
    (vehicleSubtype : String) : isTractionCapable vehicleType vehicleSubtype = true := by
  have hType : toUpper vehicleType = "LOCOMOTIVE" := of_decide_eq_true h
  simp only [isTractionCapable, if_pos hType]

end Symulator.Fleet
