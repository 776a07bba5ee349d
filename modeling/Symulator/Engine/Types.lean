import Symulator.Library.KeyedMap
import Mathlib.Data.Nat.Bitwise

/-! # Vocabulary of the engine

Identifiers and the enumerations shared by all engine modules. A UID is a structured integer:
domain, kind, scope and instance sit in its bits 47-40, 39-32, 31-16 and 15-0.
-/

namespace Symulator.Engine

set_option autoImplicit false

def engineTicksPerSecond : Nat := 20

structure UID where
  value : Nat := 0
deriving DecidableEq, Repr

instance : Inhabited UID := ⟨{}⟩

inductive UIDDomain
  | rollingStock | infrastructure | operations
deriving DecidableEq, Repr

def UIDDomain.code : UIDDomain → Nat
  | .rollingStock => 0x01
  | .infrastructure => 0x02
  | .operations => 0x03

inductive UIDKind
  | vehicleType | vehicle | trainConsist | carrier
  | station | dispatchArea | trackSection | switch | signal | derailer | blockSection
  | boundaryNode | levelCrossing | axleCounter | interlocking | powerSupply
  | route | alarm | dispatchExchange | timetablePoint | timetableConnection
deriving DecidableEq, Repr

def UIDKind.code : UIDKind → Nat
  | .vehicleType => 0x01
  | .vehicle => 0x02
  | .trainConsist => 0x03
  | .carrier => 0x04
  | .station => 0x11
  | .dispatchArea => 0x12
  | .trackSection => 0x13
  | .switch => 0x14
  | .signal => 0x15
  | .derailer => 0x16
  | .blockSection => 0x17
  | .boundaryNode => 0x18
  | .levelCrossing => 0x19
  | .axleCounter => 0x1A
  | .interlocking => 0x1B
  | .powerSupply => 0x1C
  | .route => 0x21
  | .alarm => 0x22
  | .dispatchExchange => 0x23
  | .timetablePoint => 0x24
  | .timetableConnection => 0x25

def makeUid (domain : UIDDomain) (kind : UIDKind) (scope inst : BitVec 16) : UID :=
  ⟨domain.code <<< 40 ||| kind.code <<< 32 ||| scope.toNat <<< 16 ||| inst.toNat⟩

def uidScope (uid : UID) : BitVec 16 := BitVec.ofNat 16 (uid.value >>> 16)

def uidInstance (uid : UID) : BitVec 16 := BitVec.ofNat 16 uid.value

inductive TrackOccupancy
  | free | occupied
deriving DecidableEq, Repr

inductive SwitchPosition
  | straight | divergent | moving | trailedDamaged
deriving DecidableEq, Repr

inductive LevelCrossingStatus
  | open | warning | closed | faultNoControl
deriving DecidableEq, Repr

inductive SignalAspect
  | s1Stop | s2Proceed | s3Proceed40 | s4Proceed40ExpectStop | s5ExpectStop | s6Proceed100
  | s7Proceed100ExpectStop | s8Proceed100Expect40 | s9Proceed100Expect60 | s10Proceed40
  | s11Proceed40Expect40 | s12Proceed60 | s13Proceed60Expect60 | szProceed | sznProceedW24
  | ms1Stop | ms2ShuntingAllowed
deriving DecidableEq, Repr

inductive ChangeCause
  | command | auto | timeout
deriving DecidableEq, Repr

inductive DerailerState
  | locked | unlocked
deriving DecidableEq, Repr

inductive BlockDirectionState
  | neutral | outboundPending | outbound | inboundPending | inbound | emergency | resetPending
deriving DecidableEq, Repr

inductive BlockSectionState
  | closed | open
deriving DecidableEq, Repr

/-- The test the interlocking and the applier make for a stop aspect. -/
def SignalAspect.isStop (aspect : SignalAspect) : Bool :=
  aspect = .s1Stop || aspect = .ms1Stop

theorem testBit_uid (d k : Nat) (s i : BitVec 16) (j : Nat) (hj : j < 32) :
    (d <<< 40 ||| k <<< 32 ||| s.toNat <<< 16 ||| i.toNat).testBit j =
      if j < 16 then i.getLsbD j else s.getLsbD (j - 16) := by
  simp only [Nat.testBit_or, Nat.testBit_shiftLeft, BitVec.testBit_toNat]
  have h40 : ¬ 40 ≤ j := by omega
  have h32 : ¬ 32 ≤ j := by omega
  by_cases h : j < 16
  · simp [h40, h32, h, show ¬ 16 ≤ j by omega]
  · simp [h40, h32, h, show 16 ≤ j by omega]

@[simp] theorem uidScope_makeUid (domain : UIDDomain) (kind : UIDKind) (scope inst : BitVec 16) :
    uidScope (makeUid domain kind scope inst) = scope := by
  apply BitVec.eq_of_getLsbD_eq
  intro j hj
  simp only [uidScope, makeUid, BitVec.getLsbD_ofNat, Nat.testBit_shiftRight]
  rw [testBit_uid _ _ _ _ _ (by omega), if_neg (by omega)]
  simp [hj]

@[simp] theorem uidInstance_makeUid (domain : UIDDomain) (kind : UIDKind) (scope inst : BitVec 16) :
    uidInstance (makeUid domain kind scope inst) = inst := by
  apply BitVec.eq_of_getLsbD_eq
  intro j hj
  simp only [uidInstance, makeUid, BitVec.getLsbD_ofNat]
  rw [testBit_uid _ _ _ _ _ (by omega), if_pos hj]
  simp [hj]

theorem makeUid_inj {domain : UIDDomain} {kind : UIDKind} {scope inst scope' inst' : BitVec 16} :
    makeUid domain kind scope inst = makeUid domain kind scope' inst' ↔ scope = scope' ∧ inst = inst' := by
  constructor
  · intro h
    have hScope := congrArg uidScope h
    have hInstance := congrArg uidInstance h
    rw [uidScope_makeUid, uidScope_makeUid] at hScope
    rw [uidInstance_makeUid, uidInstance_makeUid] at hInstance
    exact ⟨hScope, hInstance⟩
  · rintro ⟨rfl, rfl⟩
    rfl

end Symulator.Engine
