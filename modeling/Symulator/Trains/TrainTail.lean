import Symulator.Trains.OneTrainEach

/-! # The tail of a train

A train lies in the section of its nose and, for as far as it is long, in the sections it came through. The
fleet frees a section as soon as the nose is out of it, so what lies behind the nose is shown free.
-/

namespace Symulator.Trains

open Symulator.Library Symulator.Engine Symulator.Srk

set_option autoImplicit false

/-- A world with the sections its train has left, the latest first. -/
structure Journey (φ : Type) where
  world : World φ
  trail : List UID := []

def Occupied (s : EngineState) (uid : UID) : Prop :=
  ∀ held, (sectionOccupancy uid).read s = some held → held.1 = .occupied

def Free (s : EngineState) (uid : UID) : Prop := ∃ held, (sectionOccupancy uid).read s = some held ∧ held.1 = .free

def sectionLengthM (s : EngineState) (uid : UID) : Rat :=
  match s.findTrackSection uid with
  | some sec => sec.lengthM
  | none => 0

/-- The sections of a trail with the distances of the nose past their ends, when it is `noseM` past the first. -/
def behind (s : EngineState) : Rat → List UID → List (UID × Rat)
  | _, [] => []
  | noseM, uid :: trail => (uid, noseM) :: behind s (noseM + sectionLengthM s uid) trail

section Journey

variable {φ : Type} (dynamics : TrainDynamics φ)

/-- The sections that trains cross out of. -/
def sectionsLeft (w : World φ) : Action φ → List UID
  | .tickTrains =>
    w.fleet.filterMap fun entry =>
      match trainMove dynamics w.state entry with
      | .crosses _ => some entry.sim.currentSectionUid
      | .stays | .leaves => none
  | .command _ | .onTick | .fleetCommand _ | .advanceTick => []

def Journey.step (j : Journey φ) (a : Action φ) : Option (Journey φ) :=
  (j.world.step dynamics a).map fun world => { world, trail := sectionsLeft dynamics j.world a ++ j.trail }

/-- Every section with a part of the train of `lengthM` in it is occupied, and one behind it is free only when
the train is past its end in full length. -/
structure TailHeld (lengthM : Rat) (j : Journey φ) : Prop where
  nose : ∀ entry ∈ j.world.fleet, Occupied j.world.state entry.sim.currentSectionUid
  tail : ∀ entry ∈ j.world.fleet, ∀ p ∈ behind j.world.state (dynamics.positionM entry.sim.physics) j.trail,
    p.2 < lengthM → Occupied j.world.state p.1
  freed : ∀ entry ∈ j.world.fleet, ∀ p ∈ behind j.world.state (dynamics.positionM entry.sim.physics) j.trail,
    Free j.world.state p.1 → lengthM ≤ p.2

/-- The train has no part in a section it left, unless it is back in it. -/
def TailThrough (lengthM : Rat) (j : Journey φ) : Prop :=
  ∀ entry ∈ j.world.fleet, ∀ p ∈ behind j.world.state (dynamics.positionM entry.sim.physics) j.trail,
    p.2 < lengthM → p.1 = entry.sim.currentSectionUid

omit dynamics in
/-- No train comes or goes by command, and no axle counter is reset. -/
def Undisturbed (j : Journey φ) (a : Action φ) : Prop := (∀ cmd, a ≠ .fleetCommand cmd) ∧ NoReset j.world a

omit dynamics in
/-- The train, where it is still on the track, is shown in the section of its nose and in no other it was in. -/
inductive ShownAtNose (j : Journey φ) : Prop
  | gone (hFleet : j.world.fleet = [])
  | on (entry : TrainEntry φ) (hFleet : j.world.fleet = [entry]) (hStaying : entry.pendingBoundaryRemoval = false)
      (hNose : Occupied j.world.state entry.sim.currentSectionUid)
      (hLeft : ∀ uid ∈ j.trail, uid ≠ entry.sim.currentSectionUid → Free j.world.state uid)

variable {dynamics} {j j' : Journey φ}

omit dynamics in
theorem mem_of_mem_behind {s : EngineState} {noseM : Rat} {trail : List UID} {p : UID × Rat}
    (h : p ∈ behind s noseM trail) : p.1 ∈ trail := by
  induction trail generalizing noseM with
  | nil => cases h
  | cons uid trail ih =>
    rcases List.mem_cons.mp h with rfl | h
    · exact List.mem_cons_self
    · exact List.mem_cons_of_mem _ (ih h)

omit dynamics in
theorem not_occupied_of_free {s : EngineState} {uid : UID} (h : Free s uid) : ¬ Occupied s uid := by
  obtain ⟨held, hHeld, hFree⟩ := h
  intro hOccupied
  rw [hOccupied held hHeld] at hFree
  cases hFree

theorem tailHeld_iff (h : ShownAtNose j) (lengthM : Rat) :
    TailHeld dynamics lengthM j ↔ TailThrough dynamics lengthM j := by
  cases h with
  | gone hFleet =>
    constructor
    · intro _ entry hEntry
      rw [hFleet] at hEntry
      cases hEntry
    · intro _
      constructor <;> simp [hFleet]
  | on entry hFleet hStaying hNose hLeft =>
    constructor
    · intro hHeld e hEntry p hp hWithin
      by_contra hOther
      have hOccupied := hHeld.tail e hEntry p hp hWithin
      rw [hFleet, List.mem_singleton] at hEntry
      rw [hEntry] at hOther
      exact not_occupied_of_free (hLeft p.1 (mem_of_mem_behind hp) hOther) hOccupied
    · intro hThrough
      have hAt : ∀ e ∈ j.world.fleet, Occupied j.world.state e.sim.currentSectionUid := by
        intro e hEntry
        rw [hFleet, List.mem_singleton] at hEntry
        rwa [hEntry]
      refine ⟨hAt, fun e hEntry p hp hWithin => ?_, fun e hEntry p hp hFree => ?_⟩
      · rw [hThrough e hEntry p hp hWithin]
        exact hAt e hEntry
      · by_contra hWithin
        rw [hThrough e hEntry p hp (Rat.not_le.mp hWithin)] at hFree
        exact not_occupied_of_free hFree (hAt e hEntry)

section Writes

omit dynamics j j'

variable {s : EngineState} {u uid : UID} {occ : TrackOccupancy} {axleCount : Int}

theorem occupied_apply : Occupied (s.applyTrackSectionOccupancy u .occupied axleCount) u := by
  intro held hHeld
  rcases read_applyTrackSectionOccupancy hHeld with ⟨-, rfl⟩ | ⟨hOther, -⟩
  · rfl
  · exact absurd rfl hOther

theorem free_apply (h : Free s uid) (hOther : uid ≠ u) : Free (s.applyTrackSectionOccupancy u occ axleCount) uid := by
  obtain ⟨held, hHeld, hFree⟩ := h
  refine ⟨held, ?_, hFree⟩
  rw [sectionOccupancy_applyTrackSectionOccupancy, hHeld]
  exact congrArg some (if_neg hOther)

theorem free_freed (h : (s.findTrackSection u).isSome) : Free (s.applyTrackSectionOccupancy u .free axleCount) u := by
  obtain ⟨sec, hFind⟩ := Option.isSome_iff_exists.mp h
  refine ⟨(.free, axleCount), ?_, rfl⟩
  rw [sectionOccupancy_applyTrackSectionOccupancy]
  simp [sectionOccupancy, hFind]

theorem free_freed_of_free (h : Free s uid) : Free (s.applyTrackSectionOccupancy u .free axleCount) uid := by
  by_cases hu : uid = u
  · obtain ⟨held, hHeld, -⟩ := h
    obtain ⟨sec, hFind, -⟩ := Option.map_eq_some_iff.mp hHeld
    rw [hu] at hFind ⊢
    exact free_freed (by rw [hFind]; rfl)
  · exact free_apply h hu

end Writes

theorem ShownAtNose.tick (h : ShownAtNose j) (hStep : j.step dynamics .tickTrains = some j') : ShownAtNose j' := by
  obtain ⟨world, hWorld, rfl⟩ := Option.map_eq_some_iff.mp hStep
  obtain ⟨hState, hFleet', -, -⟩ := World.step_tickTrains hWorld
  cases h with
  | gone hFleet => exact .gone (by rw [hFleet', hFleet]; rfl)
  | on entry hFleet hStaying hNose hLeft =>
    obtain ⟨hTo, -, hGone⟩ := @ticked_sim φ dynamics j.world.state entry
    rw [hFleet] at hState hFleet'
    simp only [List.foldl_cons, List.foldl_nil] at hState
    have hTrail : sectionsLeft dynamics j.world .tickTrains =
        match trainMove dynamics j.world.state entry with
        | .crosses _ => [entry.sim.currentSectionUid]
        | .stays | .leaves => [] := by
      simp only [sectionsLeft, hFleet, List.filterMap_cons, List.filterMap_nil]
      cases trainMove dynamics j.world.state entry <;> rfl
    have hStays : trainMove dynamics j.world.state entry ≠ .leaves →
        world.fleet = [ticked dynamics j.world.state entry] ∧
          (ticked dynamics j.world.state entry).pendingBoundaryRemoval = false := by
      intro hMove
      have hStill : (ticked dynamics j.world.state entry).pendingBoundaryRemoval = false := by
        rw [hGone]
        simp [hMove, hStaying]
      refine ⟨?_, hStill⟩
      rw [hFleet', List.map_cons, List.map_nil, List.filter_cons_of_pos (by simp [hStill])]
      rfl
    cases hMove : trainMove dynamics j.world.state entry with
    | leaves =>
      refine .gone ?_
      rw [hFleet', List.map_cons, List.map_nil, List.filter_cons_of_neg (by simp [hGone, hMove])]
      rfl
    | stays =>
      obtain ⟨hThere, hStill⟩ := hStays (by simp [hMove])
      rw [hMove] at hState hTrail hTo
      refine .on (ticked dynamics j.world.state entry) hThere hStill ?_ ?_
      · rw [hTo, hState]
        exact hNose
      · rw [hTo, hState, hTrail]
        exact hLeft
    | crosses toUid =>
      obtain ⟨hThere, hStill⟩ := hStays (by simp [hMove])
      rw [hMove] at hState hTrail hTo
      refine .on (ticked dynamics j.world.state entry) hThere hStill ?_ ?_
      · rw [hTo, hState]
        exact occupied_apply
      · intro uid hUid hOther
        rw [hTo] at hOther
        rw [hState]
        refine free_apply ?_ hOther
        rw [hTrail] at hUid
        rcases List.mem_cons.mp hUid with rfl | hUid
        · exact free_freed (isSome_of_crosses hMove)
        · by_cases hCurrent : uid = entry.sim.currentSectionUid
          · rw [hCurrent]
            exact free_freed (isSome_of_crosses hMove)
          · exact free_freed_of_free (hLeft uid hUid hCurrent)

theorem ShownAtNose.step {a : Action φ} (h : ShownAtNose j) (hQuiet : Undisturbed j a)
    (hStep : j.step dynamics a = some j') : ShownAtNose j' := by
  by_cases hTick : a = .tickTrains
  · rw [hTick] at hStep
    exact h.tick hStep
  · obtain ⟨world, hWorld, rfl⟩ := Option.map_eq_some_iff.mp hStep
    obtain ⟨hFleet', hRead⟩ := quiet_step hQuiet.2 hQuiet.1 hTick hWorld
    have hTrail : sectionsLeft dynamics j.world a = [] := by
      cases a with
      | tickTrains => exact absurd rfl hTick
      | command | onTick | fleetCommand | advanceTick => rfl
    cases h with
    | gone hFleet => exact .gone (hFleet'.trans hFleet)
    | on entry hFleet hStaying hNose hLeft =>
      refine .on entry (hFleet'.trans hFleet) hStaying (fun held hHeld => ?_) fun uid hUid hOther => ?_
      · exact hNose held ((hRead _).symm.trans hHeld)
      · rw [hTrail] at hUid
        obtain ⟨held, hHeld, hFree⟩ := hLeft uid hUid hOther
        exact ⟨held, (hRead uid).trans hHeld, hFree⟩

/-- A train that comes on to an empty track is held by its sections throughout a run exactly when at no time it
has a part in a section its nose has left. -/
theorem tail_held_iff {w w₀ : World φ} {initial : TrainSimState φ} {fromUid : UID} {actions : List (Action φ)}
    (lengthM : Rat) (hEmpty : w.fleet = [])
    (hSpawn : w.step dynamics (.fleetCommand (.spawn initial fromUid)) = some w₀)
    (hQuiet : Guarded (Journey.step dynamics) Undisturbed { world := w₀ } actions) :
    Always (Journey.step dynamics) (TailHeld dynamics lengthM) { world := w₀ } actions ↔
      Always (Journey.step dynamics) (TailThrough dynamics lengthM) { world := w₀ } actions := by
  obtain ⟨hCommand, -⟩ := World.step_fleetCommand.mp hSpawn
  obtain ⟨-, hState, hFleet⟩ := spawn_eq_ok.mp hCommand
  have hStart : ShownAtNose { world := w₀ } := by
    refine .on { sim := initial, fromUid } (by rw [hFleet, hEmpty]; rfl) rfl ?_ (by simp)
    rw [hState]
    exact occupied_apply
  exact always_congr_within _ _ ShownAtNose Undisturbed (fun j h => tailHeld_iff h lengthM)
    (fun j a j' h hQuiet hStep => h.step hQuiet hStep) hStart hQuiet

end Journey

/-- A train of five metres that crosses over at twenty metres a tick. -/
theorem tail_held_track : ∃ w₀, World.steadyTrack.step World.steadyTrains (World.runOn 51 1 91 20) = some w₀ ∧
    Always (Journey.step World.steadyTrains) (TailHeld World.steadyTrains 5) { world := w₀ } [.tickTrains] := by
  have hTaken : (World.steadyTrack.step World.steadyTrains (World.runOn 51 1 91 20)).any (fun w₀ =>
      ((Journey.step World.steadyTrains { world := w₀ } .tickTrains).all fun j => j.world.fleet.all fun entry =>
        (behind j.world.state entry.sim.physics.1 j.trail).all fun p => 5 ≤ p.2) = true) = true := by decide +kernel
  obtain ⟨w₀, hSpawn, hAfter⟩ := (Option.any_eq_true _ _).mp hTaken
  have hQuiet : Guarded (Journey.step World.steadyTrains) Undisturbed { world := w₀ } [.tickTrains] :=
    ⟨⟨by simp, trivial⟩, fun _ _ => trivial⟩
  refine ⟨w₀, hSpawn, (tail_held_iff 5 rfl hSpawn hQuiet).mpr ⟨fun entry _ p hp => absurd hp List.not_mem_nil, ?_⟩⟩
  intro j hStep entry hEntry p hp hWithin
  have hThrough := List.all_eq_true.mp ((Option.all_eq_true _ _).mp (of_decide_eq_true hAfter) j hStep) entry hEntry
  exact absurd hWithin (Rat.not_lt.mpr (of_decide_eq_true (List.all_eq_true.mp hThrough p hp)))

/-- The nose of a train of a hundred metres is ten metres into the next section, and the last one is free. -/
theorem tail_uncovered : ¬ ∀ (lengthM : Rat) (w w₀ : World (Rat × Rat)) (initial : TrainSimState (Rat × Rat))
    (fromUid : UID) (actions : List (Action (Rat × Rat))), w.fleet = [] →
    w.step World.steadyTrains (.fleetCommand (.spawn initial fromUid)) = some w₀ → (∀ a ∈ actions, a = .tickTrains) →
    Always (Journey.step World.steadyTrains) (TailHeld World.steadyTrains lengthM) { world := w₀ } actions := by
  intro h
  have hTaken : (World.steadyTrack.step World.steadyTrains (World.runOn 51 1 91 20)).any (fun w₀ =>
      ((Journey.step World.steadyTrains { world := w₀ } .tickTrains).any fun j => j.world.fleet.any fun entry =>
        (behind j.world.state entry.sim.physics.1 j.trail).any fun p => decide (p.2 < 100) &&
          (j.world.state.findTrackSection p.1).any fun sec => sec.occupancy = .free) = true) = true := by
    decide +kernel
  obtain ⟨w₀, hSpawn, hAfter⟩ := (Option.any_eq_true _ _).mp hTaken
  obtain ⟨j, hStep, hEntries⟩ := (Option.any_eq_true _ _).mp (of_decide_eq_true hAfter)
  obtain ⟨entry, hEntry, hBehind⟩ := List.any_eq_true.mp hEntries
  obtain ⟨p, hp, hUncovered⟩ := List.any_eq_true.mp hBehind
  obtain ⟨hWithin, hSection⟩ := Bool.and_eq_true_iff.mp hUncovered
  obtain ⟨sec, hFind, hFree⟩ := (Option.any_eq_true _ _).mp hSection
  have hHeld := (h 100 World.steadyTrack w₀ _ _ [.tickTrains] rfl hSpawn (by simp)).2 j hStep
  have hLong := hHeld.freed entry hEntry p hp
    ⟨(sec.occupancy, sec.axleCount), by simp [sectionOccupancy, hFind], of_decide_eq_true hFree⟩
  exact absurd (of_decide_eq_true hWithin) (Rat.not_lt.mpr hLong)

end Symulator.Trains
