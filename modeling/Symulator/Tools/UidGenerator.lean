import Symulator.Fleet.FleetTypes
import Symulator.Library.CyclicOrder

/-! # Generating UIDs

The generator walks through the instances of a scope from a first one on, past the last back to one, and returns the
first that the registry does not know.
-/

namespace Symulator.Tools

open Symulator.Library Symulator.Engine Symulator.Fleet

set_option autoImplicit false

structure UidRegistryEntry where
  uid : UID
  sourceFile : String

instance : Keyed UID UidRegistryEntry := ⟨UidRegistryEntry.uid⟩

structure UidRegistry where
  entries : KeyedMap UID UidRegistryEntry := .empty

def UidRegistry.insert (registry : UidRegistry) (uid : UID) (sourceFile : String) : UidRegistry :=
  ⟨registry.entries.emplace ⟨uid, sourceFile⟩⟩

def UidRegistry.contains (registry : UidRegistry) (uid : UID) : Bool := (registry.entries.find uid).isSome

inductive UidError
  | instanceZero | exhausted
deriving DecidableEq

namespace UidGeneratorService

variable (registry : UidRegistry) (domain : UIDDomain) (kind : UIDKind) (scope : BitVec 16)

def isAvailable (uid : UID) : Bool := !registry.contains uid

def instanceCount : BitVec 32 := 65535#32

/-- The instance of a round, computed with 32 bits and cut to 16. -/
def instanceAt (start offset : BitVec 32) : BitVec 16 := ((start - 1#32 + offset) % instanceCount + 1#32).setWidth 16

/-- The rounds of the loop from `offset` on. -/
def generateFrom (start : BitVec 32) : Nat → BitVec 32 → Except UidError UID
  | 0, _ => .error .exhausted
  | rounds + 1, offset =>
    let candidate := makeUid domain kind scope (instanceAt start offset)
    if uidIsSafeJsonInteger candidate && isAvailable registry candidate then .ok candidate
    else generateFrom start rounds (offset + 1#32)

def generate (firstInstance : BitVec 16) : Except UidError UID :=
  if firstInstance = 0 then .error .instanceZero
  else generateFrom registry domain kind scope (firstInstance.setWidth 32) instanceCount.toNat 0#32

/-- The instance is the first free one in cyclic order: those before it are taken. -/
structure FirstFree (firstInstance inst : BitVec 16) : Prop where
  nonzero : inst ≠ 0
  free : registry.contains (makeUid domain kind scope inst) = false
  earlier : ∃ before after, cyclicOrder 65535 firstInstance.toNat = before ++ inst.toNat :: after ∧
    ∀ i ∈ before, registry.contains (makeUid domain kind scope (BitVec.ofNat 16 i)) = true

variable {registry domain kind scope}

theorem toNat_pos {inst : BitVec 16} (h : inst ≠ 0) : 1 ≤ inst.toNat := by
  have hNat : inst.toNat ≠ 0 := fun hZero => h (BitVec.eq_of_toNat_eq hZero)
  omega

/-- No round wraps: neither the sum nor the instance overflows. -/
theorem instanceAt_ofNat {start offset : Nat} (hPos : 1 ≤ start) (hLe : start ≤ 65535) (hOffset : offset < 65535) :
    instanceAt (BitVec.ofNat 32 start) (BitVec.ofNat 32 offset) = BitVec.ofNat 16 (cyclicPlace 65535 start offset) := by
  have hBack : (BitVec.ofNat 32 start - 1#32 + BitVec.ofNat 32 offset).toNat = start - 1 + offset := by
    simp only [BitVec.toNat_add, BitVec.toNat_sub, BitVec.toNat_ofNat]
    omega
  have hCount : instanceCount.toNat = 65535 := rfl
  have hOne : (1#32).toNat = 1 := rfl
  apply BitVec.eq_of_toNat_eq
  rw [instanceAt, cyclicPlace, BitVec.toNat_setWidth, BitVec.toNat_add, BitVec.toNat_umod, hBack, hCount, hOne,
    BitVec.toNat_ofNat]
  omega

/-- The rounds try the instances at the offsets from theirs on. -/
theorem generateFrom_eq {start rounds offset : Nat} (hPos : 1 ≤ start) (hLe : start ≤ 65535)
    (hRounds : offset + rounds ≤ 65535) :
    generateFrom registry domain kind scope (BitVec.ofNat 32 start) rounds (BitVec.ofNat 32 offset) =
      match ((List.range' offset rounds).map (cyclicPlace 65535 start)).find?
        fun i => !registry.contains (makeUid domain kind scope (BitVec.ofNat 16 i)) with
      | some i => .ok (makeUid domain kind scope (BitVec.ofNat 16 i))
      | none => .error .exhausted := by
  induction rounds generalizing offset with
  | zero => rfl
  | succ rounds ih =>
    have hNext : BitVec.ofNat 32 offset + 1#32 = BitVec.ofNat 32 (offset + 1) := (BitVec.ofNat_add offset 1).symm
    rw [generateFrom, instanceAt_ofNat hPos hLe (by omega), uidIsSafeJsonInteger_makeUid, Bool.true_and, isAvailable,
      List.range'_succ, List.map_cons, List.find?_cons, hNext, ih (by omega)]
    cases registry.contains (makeUid domain kind scope (BitVec.ofNat 16 (cyclicPlace 65535 start offset))) with
    | true => rfl
    | false => rfl

theorem generate_eq {firstInstance : BitVec 16} (hFirst : firstInstance ≠ 0) :
    generate registry domain kind scope firstInstance =
      match (cyclicOrder 65535 firstInstance.toNat).find?
        fun i => !registry.contains (makeUid domain kind scope (BitVec.ofNat 16 i)) with
      | some i => .ok (makeUid domain kind scope (BitVec.ofNat 16 i))
      | none => .error .exhausted := by
  have hPos := toNat_pos hFirst
  have hLe : firstInstance.toNat ≤ 65535 := by omega
  have hStart : firstInstance.setWidth 32 = BitVec.ofNat 32 firstInstance.toNat := BitVec.eq_of_toNat_eq (by simp)
  rw [generate, if_neg hFirst, hStart, generateFrom_eq hPos hLe (by decide), ← map_cyclicPlace hPos hLe,
    List.range_eq_range']
  rfl

/-- Every instance that is not zero has its place in the order. -/
theorem mem_cyclicOrder_toNat {firstInstance inst : BitVec 16} (hFirst : firstInstance ≠ 0) :
    inst.toNat ∈ cyclicOrder 65535 firstInstance.toNat ↔ inst ≠ 0 := by
  have hPos := toNat_pos hFirst
  rw [mem_cyclicOrder hPos (by omega)]
  constructor
  · rintro ⟨hInst, _⟩ rfl
    exact absurd hInst (by decide)
  · intro hInst
    have hInst := toNat_pos hInst
    omega

theorem toNat_ofNat_of_mem {firstInstance : BitVec 16} (hFirst : firstInstance ≠ 0) {i : Nat}
    (h : i ∈ cyclicOrder 65535 firstInstance.toNat) : (BitVec.ofNat 16 i).toNat = i := by
  rw [mem_cyclicOrder (toNat_pos hFirst) (by omega)] at h
  rw [BitVec.toNat_ofNat]
  omega

theorem generate_ok_iff {firstInstance : BitVec 16} (hFirst : firstInstance ≠ 0) {uid : UID} :
    generate registry domain kind scope firstInstance = .ok uid ↔
      ∃ inst, FirstFree registry domain kind scope firstInstance inst ∧ uid = makeUid domain kind scope inst := by
  rw [generate_eq hFirst]
  constructor
  · intro h
    split at h
    · rename_i i hFind
      cases h
      obtain ⟨hFree, before, after, hOrder, hEarlier⟩ := List.find?_eq_some_iff_append.mp hFind
      have hMem : i ∈ cyclicOrder 65535 firstInstance.toNat := by
        rw [hOrder]
        exact List.mem_append_right _ List.mem_cons_self
      have hSmall := toNat_ofNat_of_mem hFirst hMem
      refine ⟨BitVec.ofNat 16 i, ⟨?_, ?_, before, after, ?_, ?_⟩, rfl⟩
      · rw [← hSmall] at hMem
        exact (mem_cyclicOrder_toNat hFirst).mp hMem
      · simpa using hFree
      · rw [hSmall, hOrder]
      · intro j hj
        simpa using hEarlier j hj
    · cases h
  · rintro ⟨inst, h, rfl⟩
    obtain ⟨before, after, hOrder, hEarlier⟩ := h.earlier
    have hFind : (cyclicOrder 65535 firstInstance.toNat).find?
        (fun i => !registry.contains (makeUid domain kind scope (BitVec.ofNat 16 i))) = some inst.toNat := by
      refine List.find?_eq_some_iff_append.mpr ⟨?_, before, after, hOrder, ?_⟩
      · rw [BitVec.ofNat_toNat, BitVec.setWidth_eq, h.free]
        rfl
      · intro i hi
        rw [hEarlier i hi]
        rfl
    rw [hFind]
    simp only [BitVec.ofNat_toNat, BitVec.setWidth_eq]

theorem generate_exhausted_iff {firstInstance : BitVec 16} (hFirst : firstInstance ≠ 0) :
    generate registry domain kind scope firstInstance = .error .exhausted ↔
      ∀ inst : BitVec 16, inst ≠ 0 → registry.contains (makeUid domain kind scope inst) = true := by
  rw [generate_eq hFirst]
  constructor
  · intro h inst hInst
    split at h
    · cases h
    · rename_i hFind
      have hTaken := List.find?_eq_none.mp hFind inst.toNat ((mem_cyclicOrder_toNat hFirst).mpr hInst)
      simpa using hTaken
  · intro h
    split
    · rename_i i hFind
      have hFree := List.find?_some hFind
      have hMem := List.mem_of_find?_eq_some hFind
      rw [← toNat_ofNat_of_mem hFirst hMem] at hMem
      rw [h _ ((mem_cyclicOrder_toNat hFirst).mp hMem)] at hFree
      cases hFree
    · rfl

/-- From every first instance but zero the generator finds the first free one of the cyclic order, under the domain,
kind and scope that were asked for, and gives up if and only if there is none. -/
theorem generate_spec (registry : UidRegistry) (domain : UIDDomain) (kind : UIDKind) (scope firstInstance : BitVec 16)
    (hFirst : firstInstance ≠ 0) :
    (∀ uid, generate registry domain kind scope firstInstance = .ok uid →
      uidDomainCode uid = domain.code ∧ uidKindCode uid = kind.code ∧ uidScope uid = scope ∧ uidInstance uid ≠ 0 ∧
        registry.contains uid = false ∧ FirstFree registry domain kind scope firstInstance (uidInstance uid)) ∧
    (generate registry domain kind scope firstInstance = .error .exhausted ↔
      ∀ inst : BitVec 16, inst ≠ 0 → registry.contains (makeUid domain kind scope inst) = true) ∧
    generate registry domain kind scope firstInstance ≠ .error .instanceZero := by
  refine ⟨?_, generate_exhausted_iff hFirst, ?_⟩
  · intro uid hUid
    obtain ⟨inst, h, rfl⟩ := (generate_ok_iff hFirst).mp hUid
    refine ⟨uidDomainCode_makeUid .., uidKindCode_makeUid .., uidScope_makeUid .., ?_, h.free, ?_⟩
    · rw [uidInstance_makeUid]
      exact h.nonzero
    · rw [uidInstance_makeUid]
      exact h
  · rw [generate_eq hFirst]
    intro h
    split at h
    · cases h
    · cases h

/-- Only the last instance of the scope is taken. -/
def lastTaken : UidRegistry := ({} : UidRegistry).insert (makeUid .rollingStock .vehicle 7#16 65535#16) "wagons.json"

/-- Behind the last instance the walk begins again with one. -/
theorem generate_spec_last :
    generate lastTaken .rollingStock .vehicle 7#16 65535#16 = .ok (makeUid .rollingStock .vehicle 7#16 1#16) ∧
      lastTaken.contains (makeUid .rollingStock .vehicle 7#16 65535#16) = true ∧
      FirstFree lastTaken .rollingStock .vehicle 7#16 65535#16
        (uidInstance (makeUid .rollingStock .vehicle 7#16 1#16)) := by
  have hUid : generate lastTaken .rollingStock .vehicle 7#16 65535#16 =
      .ok (makeUid .rollingStock .vehicle 7#16 1#16) := by rfl
  have hTaken : lastTaken.contains (makeUid .rollingStock .vehicle 7#16 65535#16) = true := by decide
  exact ⟨hUid, hTaken, ((generate_spec lastTaken .rollingStock .vehicle 7#16 65535#16 (by decide)).1 _ hUid).2.2.2.2.2⟩

end UidGeneratorService

end Symulator.Tools
