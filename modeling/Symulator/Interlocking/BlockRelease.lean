import Symulator.Srk.BlockSections

/-! # Releasing a block section with a train in it

The checks refuse to release or close a block section whose axle count is not zero. Nothing keeps that
count: it is zero in every reachable state, wherever the trains are.
-/

namespace Symulator.Interlocking

open Symulator.Library Symulator.Engine Symulator.Srk

set_option autoImplicit false

/-- The commands that release or close the block section `uid`. -/
def releasesBlock (uid : UID) : Command → Bool
  | .setBlockDirection cmd => cmd.blockSectionUid = uid ∧ cmd.operation = .blz
  | .setBlockSection cmd => cmd.uid = uid ∧ cmd.state = .closed
  | .operatorCommand cmd => cmd.targetUid = uid ∧ cmd.code = .blz
  | .ml8Command cmd => cmd.targetUid = uid ∧ (cmd.code = .blz ∨ cmd.code = .zwbl)
  | _ => false

/-- The change makes the block section `uid` neutral or closes it. -/
def freesBlock (uid : UID) : DeviceStateChange → Bool
  | .blockDirectionChange u dir _ => u = uid ∧ dir = .neutral
  | .blockSectionStateChange u state => u = uid ∧ state = .closed
  | _ => false

section World

variable {φ : Type}

def TrainInBlock (w : World φ) (bs : BlockSection) : Prop :=
  ∃ entry ∈ w.fleet, entry.sim.currentSectionUid ∈ bs.szlakSectionUids

/-- No accepted command releases or closes a block section that a train is in. -/
def BlocksKept (w : World φ) : Prop :=
  ∀ uid bs, w.state.findBlockSection uid = some bs → TrainInBlock w bs →
    ∀ cmd, releasesBlock uid cmd = true → w.control.checkCommand w.state cmd = none →
      ∀ c ∈ w.control.changesOf w.state cmd, freesBlock uid c = false

def BlocksEmpty (w : World φ) : Prop :=
  ∀ uid bs, w.state.findBlockSection uid = some bs → ¬ TrainInBlock w bs

/-- With its axle count at zero a block section may be closed at any time. -/
theorem checkSetBlockSection_eq_none {s : EngineState} {uid : UID} {bs : BlockSection}
    (hFind : s.findBlockSection uid = some bs) (hAxles : bs.axleCount = 0) (state : BlockSectionState) :
    checkSetBlockSection s ⟨uid, state⟩ = none := by
  simp [checkSetBlockSection, hFind, hAxles]

theorem blocksKept_iff {w : World φ} (h : BlocksClear w.state) : BlocksKept w ↔ BlocksEmpty w := by
  constructor
  · intro hKept uid bs hFind hTrain
    have hCheck := checkSetBlockSection_eq_none hFind (h uid bs hFind) .closed
    have hCloses := hKept uid bs hFind hTrain (.setBlockSection ⟨uid, .closed⟩) (by simp [releasesBlock]) hCheck
      (.blockSectionStateChange uid .closed) (List.mem_singleton.mpr rfl)
    simp [freesBlock] at hCloses
  · intro hEmpty uid bs hFind hTrain
    exact absurd hTrain (hEmpty uid bs hFind)

/-- From a loaded world, every state of a run keeps the block sections with trains in them exactly when no
train is ever in one. -/
theorem blocks_kept_iff {dynamics : TrainDynamics φ} {w₀ : World φ} {actions : List (Action φ)}
    (hLoaded : w₀.Loaded) :
    Always (World.step dynamics) BlocksKept w₀ actions ↔ Always (World.step dynamics) BlocksEmpty w₀ actions :=
  always_congr BlocksKept BlocksEmpty (fun w => BlocksClear w.state) (fun _ h => blocksKept_iff h)
    (fun _ _ _ h hStep => blocksClear_step h hStep) (blocksClear_of_loaded hLoaded)

end World

theorem blocks_kept_line : Always (World.step World.idleTrains) BlocksKept (World.start .ml8 lineStation)
    [World.spawnAt 1 91] := by
  have hEmpty : ∀ w : World Unit, (w.state.blockSections.values.all fun bs =>
      w.fleet.all fun entry => entry.sim.currentSectionUid ∉ bs.szlakSectionUids) = true → BlocksEmpty w := by
    intro w hTest uid bs hFind
    rintro ⟨entry, hEntry, hIn⟩
    have hMem := (KeyedMap.find_eq_some_iff.mp hFind).1
    exact of_decide_eq_true (List.all_eq_true.mp (List.all_eq_true.mp hTest bs hMem) entry hEntry) hIn
  refine (blocks_kept_iff ⟨[lineStation], _, rfl⟩).mpr ⟨hEmpty _ (by decide +kernel), fun w' hStep => hEmpty w' ?_⟩
  have hNext : ((World.start .ml8 lineStation).step World.idleTrains (World.spawnAt 1 91)).all (fun w =>
      w.state.blockSections.values.all fun bs =>
        w.fleet.all fun entry => entry.sim.currentSectionUid ∉ bs.szlakSectionUids) = true := by decide +kernel
  exact (Option.all_eq_true _ _).mp hNext w' hStep

/-- A train stands on the line, and the block is restored around it. -/
theorem occupiedBlock_released : ¬ ∀ w : World Unit, w.Reachable World.idleTrains → BlocksKept w := by
  intro h
  let cmd : Command := .ml8Command ⟨⟨41⟩, .blockSection, .blz⟩
  obtain ⟨w, -, hReach, hTest⟩ := World.exists_reachable .ml8 lineStation [World.spawnAt 2 92]
    (fun w => (w.state.findBlockSection ⟨41⟩).any (fun bs =>
        w.fleet.any fun entry => entry.sim.currentSectionUid ∈ bs.szlakSectionUids) = true ∧
      (w.control.checkCommand w.state cmd).isNone = true ∧
      (w.control.changesOf w.state cmd).any (freesBlock ⟨41⟩) = true)
    ⟨[lineStation], _, rfl⟩ (by decide +kernel)
  obtain ⟨hBlock, hAccepted, hFrees⟩ := of_decide_eq_true hTest
  obtain ⟨bs, hFind, hTrain⟩ := (Option.any_eq_true _ _).mp hBlock
  obtain ⟨entry, hEntry, hIn⟩ := List.any_eq_true.mp hTrain
  obtain ⟨c, hc, hFree⟩ := List.any_eq_true.mp hFrees
  have hKept := h w hReach ⟨41⟩ bs hFind ⟨entry, hEntry, of_decide_eq_true hIn⟩ cmd rfl
    (Option.isNone_iff_eq_none.mp hAccepted) c hc
  rw [hFree] at hKept
  cases hKept

end Symulator.Interlocking
