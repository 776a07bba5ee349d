import Symulator.Engine.TopologyLoader
import Symulator.Engine.TrainMoves
import Symulator.Srk.ControlSystem

/-! # The engine loop

A world is the engine state with its control system and its trains. The loop drains the command
queue, runs the control system, lets the fleet commands and the trains have their turn, and advances
the tick. The steps are also actions of their own, so that a run may interleave them in any order.
-/

namespace Symulator.Srk

open Symulator.Library Symulator.Engine

set_option autoImplicit false

structure World (φ : Type) where
  state : EngineState
  control : ControlSystem
  fleet : List (TrainEntry φ) := []

inductive Action (φ : Type)
  | command (cmd : Command)
  | onTick
  | fleetCommand (cmd : FleetCommand φ)
  | tickTrains
  | advanceTick

def maxCmdsPerTick : Nat := 64

namespace World

variable {φ : Type} (dynamics : TrainDynamics φ)

/-- A command is refused when its check finds a violation, a fleet command when it fails. -/
def step (w : World φ) : Action φ → Option (World φ)
  | .command cmd =>
    match w.control.checkCommand w.state cmd with
    | some _ => none
    | none =>
      let (changes, control) := w.control.executeCommand w.state cmd
      some { w with state := applyAll w.state changes, control }
  | .onTick =>
    let (changes, control) := w.control.onTick w.state (w.state.currentTick + 1)
    some { w with state := applyAll w.state changes, control }
  | .fleetCommand cmd =>
    match executeFleetCommand w.state w.fleet cmd with
    | .error _ => none
    | .ok (state, fleet) => some { w with state, fleet }
  | .tickTrains =>
    let (state, fleet, _) := tickAll dynamics w.state w.fleet
    some { w with state, fleet }
  | .advanceTick => some { w with state := w.state.setCurrentTick (w.state.currentTick + 1) }

/-- Take a step, or stay where the step is refused. -/
def attempt (w : World φ) (a : Action φ) : World φ := (w.step dynamics a).getD w

def attempts (w : World φ) (actions : List (Action φ)) : World φ :=
  actions.foldl (fun w a => w.attempt dynamics a) w

def doTick (w : World φ) (queue : List Command) (fleetCommands : List (FleetCommand φ)) : World φ :=
  let w := (queue.take maxCmdsPerTick).foldl (fun w cmd => w.attempt dynamics (.command cmd)) w
  let w := w.attempt dynamics .onTick
  let w := fleetCommands.foldl (fun w cmd => w.attempt dynamics (.fleetCommand cmd)) w
  let w := if w.fleet.isEmpty then w else w.attempt dynamics .tickTrains
  w.attempt dynamics .advanceTick

/-- The state of the world comes from loading scenarios into an empty one. -/
def Loaded (w : World φ) : Prop := ∃ dirs results, loadWorld {} dirs = .ok (w.state, results)

def Reachable (w : World φ) : Prop :=
  ∃ w₀ actions, Loaded w₀ ∧ run (step dynamics) w₀ actions = some w

variable {dynamics}

theorem exists_run_attempts (w : World φ) (actions : List (Action φ)) :
    ∃ taken, run (step dynamics) w taken = some (actions.foldl (fun w a => w.attempt dynamics a) w) := by
  induction actions generalizing w with
  | nil => exact ⟨[], rfl⟩
  | cons a actions ih =>
    obtain ⟨taken, hTaken⟩ := ih (w.attempt dynamics a)
    cases hStep : w.step dynamics a with
    | none =>
      rw [attempt, hStep] at hTaken
      exact ⟨taken, by rw [List.foldl_cons, attempt, hStep]; exact hTaken⟩
    | some w' =>
      rw [attempt, hStep] at hTaken
      refine ⟨a :: taken, run_cons.mpr ⟨w', hStep, ?_⟩⟩
      rw [List.foldl_cons, attempt, hStep]
      exact hTaken

/-- A tick of the loop is a run of the actions that were not refused. -/
theorem exists_run_doTick (w : World φ) (queue : List Command) (fleetCommands : List (FleetCommand φ)) :
    ∃ actions, run (step dynamics) w actions = some (doTick dynamics w queue fleetCommands) := by
  let commands : List (Action φ) := (queue.take maxCmdsPerTick).map .command
  let moves : List (Action φ) := fleetCommands.map .fleetCommand
  have hFold : ∃ actions : List (Action φ), doTick dynamics w queue fleetCommands =
      actions.foldl (fun w a => w.attempt dynamics a) w := by
    unfold doTick
    dsimp only
    split
    · refine ⟨commands ++ [.onTick] ++ moves ++ [.advanceTick], ?_⟩
      simp only [commands, moves, List.foldl_append, List.foldl_map, List.foldl_cons, List.foldl_nil]
    · refine ⟨commands ++ [.onTick] ++ moves ++ [.tickTrains, .advanceTick], ?_⟩
      simp only [commands, moves, List.foldl_append, List.foldl_map, List.foldl_cons, List.foldl_nil]
  obtain ⟨actions, hActions⟩ := hFold
  rw [hActions]
  exact exists_run_attempts w actions

/-- Every state the loop reaches from a loaded world is reached by a run. -/
theorem Reachable.doTick {w : World φ} (h : w.Reachable dynamics) (queue : List Command)
    (fleetCommands : List (FleetCommand φ)) : (w.doTick dynamics queue fleetCommands).Reachable dynamics := by
  obtain ⟨w₀, actions, hLoaded, hRun⟩ := h
  obtain ⟨more, hMore⟩ := exists_run_doTick w queue fleetCommands
  exact ⟨w₀, actions ++ more, hLoaded, run_append.mpr ⟨w, hRun, hMore⟩⟩

/-! ## What a step does to the engine state -/

theorem step_command {w w' : World φ} {cmd : Command} : w.step dynamics (.command cmd) = some w' ↔
    w.control.checkCommand w.state cmd = none ∧
      w' = { w with
        state := applyAll w.state (w.control.changesOf w.state cmd)
        control := { w.control with pendingTargets := w.control.targetsAfter w.state cmd } } := by
  simp only [step]
  cases w.control.checkCommand w.state cmd with
  | some v => simp
  | none => simp [ControlSystem.executeCommand, eq_comm]

/-- The control system commands, the control system ticks, or nothing but occupancies and the tick
counter change. -/
theorem step_cases {w w' : World φ} {a : Action φ} (h : w.step dynamics a = some w') :
    (∃ cmd, a = .command cmd ∧ w.control.checkCommand w.state cmd = none ∧
      w'.state = applyAll w.state (w.control.changesOf w.state cmd)) ∨
    (a = .onTick ∧ w'.state = applyAll w.state (w.control.onTick w.state (w.state.currentTick + 1)).1) ∨
    ((∀ cmd, a ≠ .command cmd) ∧ a ≠ .onTick ∧ ∃ t, OnlyOccupancy w.state t ∧
      (w'.state = t ∨ w'.state = t.setCurrentTick (t.currentTick + 1))) := by
  cases a with
  | command cmd =>
    left
    obtain ⟨hCheck, rfl⟩ := step_command.mp h
    exact ⟨cmd, rfl, hCheck, rfl⟩
  | onTick =>
    right; left
    cases h
    exact ⟨rfl, rfl⟩
  | fleetCommand cmd =>
    right; right
    refine ⟨by simp, by simp, ?_⟩
    simp only [step] at h
    split at h
    · cases h
    · rename_i state fleet hCmd
      cases h
      exact ⟨state, executeFleetCommand_onlyOccupancy hCmd, Or.inl rfl⟩
  | tickTrains =>
    right; right
    refine ⟨by simp, by simp, ?_⟩
    cases h
    exact ⟨_, tickAll_onlyOccupancy w.state w.fleet, Or.inl rfl⟩
  | advanceTick =>
    right; right
    refine ⟨by simp, by simp, ?_⟩
    cases h
    exact ⟨w.state, OnlyOccupancy.refl w.state, Or.inr rfl⟩

theorem topology_step {w w' : World φ} {a : Action φ} (h : w.step dynamics a = some w') :
    w'.state.topology = w.state.topology := by
  rcases step_cases h with ⟨cmd, _, _, hState⟩ | ⟨_, hState⟩ | ⟨_, _, t, hOcc, hState | hState⟩
  · rw [hState, topology_applyAll]
  · rw [hState, topology_applyAll]
  · rw [hState]
    exact hOcc.2
  · rw [hState]
    exact hOcc.2

theorem step_fleetCommand {w w' : World φ} {cmd : FleetCommand φ} :
    w.step dynamics (.fleetCommand cmd) = some w' ↔
      executeFleetCommand w.state w.fleet cmd = .ok (w'.state, w'.fleet) ∧ w'.control = w.control := by
  simp only [step]
  cases hCommand : executeFleetCommand w.state w.fleet cmd with
  | error e => simp
  | ok result =>
    obtain ⟨state, fleet⟩ := result
    obtain ⟨state', control', fleet'⟩ := w'
    constructor
    · rintro ⟨⟩
      exact ⟨rfl, rfl⟩
    · rintro ⟨⟨⟩, rfl⟩
      rfl

theorem step_tickTrains {w w' : World φ} (h : w.step dynamics .tickTrains = some w') :
    w'.state = w.fleet.foldl (fun t entry => occupy entry t (trainMove dynamics w.state entry)) w.state ∧
      w'.fleet = (w.fleet.map (ticked dynamics w.state)).filter (fun entry => ¬ entry.pendingBoundaryRemoval) ∧
      SameTrack w.state w'.state ∧ w'.control = w.control := by
  cases h
  have hSpec := @tickAll_spec φ dynamics w.state w.fleet
  exact ⟨hSpec.1, hSpec.2, tickAll_sameTrack w.state w.fleet, rfl⟩

/-- Outside the tick of the trains a step takes trains out of the fleet, or spawns one on a free section. -/
theorem fleet_step {w w' : World φ} {a : Action φ} (hTick : a ≠ .tickTrains) (hStep : w.step dynamics a = some w') :
    w'.fleet.Sublist w.fleet ∨
      ∃ initial fromUid, a = .fleetCommand (.spawn initial fromUid) ∧
        w'.fleet = w.fleet ++ [{ sim := initial, fromUid }] ∧
        ∃ sec, w.state.findTrackSection initial.currentSectionUid = some sec ∧ sec.occupancy = .free := by
  cases a with
  | command cmd =>
    obtain ⟨-, rfl⟩ := step_command.mp hStep
    exact Or.inl (List.Sublist.refl _)
  | onTick | advanceTick =>
    cases hStep
    exact Or.inl (List.Sublist.refl _)
  | fleetCommand cmd =>
    obtain ⟨hCommand, -⟩ := step_fleetCommand.mp hStep
    cases cmd with
    | spawn initial fromUid =>
      obtain ⟨hFree, -, hFleet⟩ := spawn_eq_ok.mp hCommand
      exact Or.inr ⟨initial, fromUid, rfl, hFleet, hFree⟩
    | despawn trainUid =>
      obtain ⟨gone, -, -, hFleet⟩ := despawn_eq_ok.mp hCommand
      rw [hFleet]
      exact Or.inl List.eraseP_sublist
  | tickTrains => exact absurd rfl hTick

theorem mem_fleet_step {w w' : World φ} {a : Action φ} (hTick : a ≠ .tickTrains) (hStep : w.step dynamics a = some w')
    {entry : TrainEntry φ} (hEntry : entry ∈ w'.fleet) : entry ∈ w.fleet ∨
      ∃ initial fromUid, a = .fleetCommand (.spawn initial fromUid) ∧ entry = { sim := initial, fromUid } ∧
        ∃ sec, w.state.findTrackSection initial.currentSectionUid = some sec ∧ sec.occupancy = .free := by
  rcases fleet_step hTick hStep with hPart | ⟨initial, fromUid, rfl, hFleet, hFree⟩
  · exact Or.inl (hPart.subset hEntry)
  · rw [hFleet] at hEntry
    rcases List.mem_append.mp hEntry with hEntry | hEntry
    · exact Or.inl hEntry
    · exact Or.inr ⟨initial, fromUid, rfl, List.mem_singleton.mp hEntry, hFree⟩

/-! ## Worlds of one station -/

def idleTrains : TrainDynamics Unit where
  advance physics _ := physics
  positionM _ := 0
  maxSpeedMs _ := 0
  maxBrakeKn _ := 0
  placeAt physics _ := physics
  stopAt physics _ := physics

/-- Trains that run on at their own pace, whatever they see: the position and the metres of one tick. -/
def steadyTrains : TrainDynamics (Rat × Rat) where
  advance physics _ := (physics.1 + physics.2, physics.2)
  positionM physics := physics.1
  maxSpeedMs _ := 0
  maxBrakeKn _ := 0
  placeAt physics position := (position, physics.2)
  stopAt _ position := (position, 0)

def start (kind : ControlSystemKind) (dir : ScenarioDir) : World Unit where
  state := loadedState dir
  control := { kind }

def steadyTrack : World (Rat × Rat) where
  state := loadedState trackStation
  control := { kind := .ml8 }

/-- A train of four axles appears ten metres before the end of section `uid`, come from `fromUid`. -/
def runOn (trainUid uid fromUid : Nat) (pace : Rat) : Action (Rat × Rat) :=
  .fleetCommand
    (.spawn { trainUid := ⟨trainUid⟩, currentSectionUid := ⟨uid⟩, physics := (90, pace), totalAxles := 4 } ⟨fromUid⟩)

/-- A train of four axles appears on section `uid`, come from `fromUid`. -/
def spawnAt (uid fromUid : Nat) : Action Unit :=
  .fleetCommand (.spawn { trainUid := ⟨51⟩, currentSectionUid := ⟨uid⟩, physics := (), totalAxles := 4 } ⟨fromUid⟩)

/-- What a run from a station is seen to reach is reachable. -/
theorem exists_reachable (kind : ControlSystemKind) (dir : ScenarioDir) (actions : List (Action Unit))
    (test : World Unit → Bool) (hLoaded : (start kind dir).Loaded)
    (h : (run (step idleTrains) (start kind dir) actions).any test = true) :
    ∃ w, run (step idleTrains) (start kind dir) actions = some w ∧ w.Reachable idleTrains ∧ test w = true := by
  obtain ⟨w, hRun, hTest⟩ := (Option.any_eq_true _ _).mp h
  exact ⟨w, hRun, ⟨start kind dir, actions, hLoaded, hRun⟩, hTest⟩

end World

end Symulator.Srk
