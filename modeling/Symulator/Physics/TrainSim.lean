import Symulator.Physics.DriverAi

/-! # A train with its physics

The fleet's trains with the driver and the integrator in place: a tick asks the driver for forces, integrates them,
and corrects the position at the end of the section.
-/

namespace Symulator.Physics

open Symulator.Engine

set_option autoImplicit false

structure TrainPhysics where
  params : TrainPhysicsParams
  state : TrainPhysicsState := {}
  driver : DriverState := .stopped
  maxBrakeKn : Rat := 0

abbrev ControlPolicy := DriverState → TrainPhysicsParams → TrainPhysicsState → AdvisedInput → DriverOutput

def driverAiPolicy : ControlPolicy := DriverAi.tick

namespace TrainPhysics

def advance (policy : ControlPolicy) (dtS : Rat) (t : TrainPhysics) (inp : AdvisedInput) : TrainPhysics :=
  let control := policy t.driver t.params t.state inp
  { t with
    state := integrate t.params { t.state with tractionKn := control.tractionKn, brakeKn := control.brakeKn } dtS
    driver := control.state }

def placeAt (t : TrainPhysics) (positionM : Rat) : TrainPhysics := { t with state := { t.state with positionM } }

def stopAt (t : TrainPhysics) (positionM : Rat) : TrainPhysics :=
  { t with
    state := { positionM, velocityMs := 0, accelMs2 := 0, tractionKn := 0, brakeKn := t.maxBrakeKn }
    driver := .stopped }

end TrainPhysics

/-- The fleet leaves the signal after the next one unset. -/
def physicalTrains (policy : ControlPolicy) (dtS : Rat) : TrainDynamics TrainPhysics where
  advance t inp := t.advance policy dtS { toDriverInput := inp }
  positionM t := t.state.positionM
  maxSpeedMs t := t.params.maxSpeedMs
  maxBrakeKn t := t.maxBrakeKn
  placeAt := TrainPhysics.placeAt
  stopAt := TrainPhysics.stopAt
  velocityMs t := t.state.velocityMs

/-- A tick of a train: what the driver is told, the section it is on and the section ahead. -/
structure SimTick where
  policy : ControlPolicy
  input : TrainSimTickInput

abbrev Sim := TrainSimState TrainPhysics

namespace Sim

variable (dtS : Rat) (sim : Sim) (t : SimTick)

def tick : Sim × Option SectionCrossing := TrainSimState.tick (physicalTrains t.policy dtS) sim t.input

/-- The train as the integrator leaves it, before the end of the section is looked at. -/
def moved : TrainPhysics :=
  sim.physics.advance t.policy dtS
    { toDriverInput :=
        { t.input.driverInput with
          maxBrakeKn :=
            if t.input.driverInput.maxBrakeKn ≤ 0 then sim.physics.maxBrakeKn else t.input.driverInput.maxBrakeKn } }

def AtEnd : Prop := t.input.sectionLengthM > 0 ∧ (moved dtS sim t).state.positionM ≥ t.input.sectionLengthM

instance : Decidable (AtEnd dtS sim t) := inferInstanceAs (Decidable (_ ∧ _))

variable {dtS sim t}

theorem tick_of_not_atEnd (h : ¬ AtEnd dtS sim t) : tick dtS sim t = ({ sim with physics := moved dtS sim t }, none) :=
  if_neg h

theorem tick_of_next (h : AtEnd dtS sim t) {next : UID} (hNext : t.input.nextSectionUid = some next) :
    tick dtS sim t =
      ({ sim with
          currentSectionUid := next
          physics := (moved dtS sim t).placeAt ((moved dtS sim t).state.positionM - t.input.sectionLengthM) },
        some ⟨sim.currentSectionUid, next, (moved dtS sim t).state.positionM - t.input.sectionLengthM⟩) := by
  unfold tick TrainSimState.tick
  rw [hNext]
  exact if_pos h

theorem tick_of_deadEnd (h : AtEnd dtS sim t) (hNone : t.input.nextSectionUid = none) :
    tick dtS sim t = ({ sim with physics := (moved dtS sim t).stopAt t.input.sectionLengthM }, none) := by
  unfold tick TrainSimState.tick
  rw [hNone]
  exact if_pos h

/-- A tick stays in the section, crosses into the next, or stops at a dead end. -/
theorem tick_cases :
    (¬ AtEnd dtS sim t ∧ tick dtS sim t = ({ sim with physics := moved dtS sim t }, none)) ∨
    (∃ next, AtEnd dtS sim t ∧ t.input.nextSectionUid = some next ∧ tick dtS sim t =
      ({ sim with
          currentSectionUid := next
          physics := (moved dtS sim t).placeAt ((moved dtS sim t).state.positionM - t.input.sectionLengthM) },
        some ⟨sim.currentSectionUid, next, (moved dtS sim t).state.positionM - t.input.sectionLengthM⟩)) ∨
    (AtEnd dtS sim t ∧ t.input.nextSectionUid = none ∧
      tick dtS sim t = ({ sim with physics := (moved dtS sim t).stopAt t.input.sectionLengthM }, none)) := by
  by_cases hEnd : AtEnd dtS sim t
  · cases hNext : t.input.nextSectionUid with
    | some next => exact Or.inr (Or.inl ⟨next, hEnd, rfl, tick_of_next hEnd hNext⟩)
    | none => exact Or.inr (Or.inr ⟨hEnd, rfl, tick_of_deadEnd hEnd hNext⟩)
  · exact Or.inl ⟨hEnd, tick_of_not_atEnd hEnd⟩

theorem positionM_moved : (moved dtS sim t).state.positionM = sim.physics.state.positionM +
    dtS * ((sim.physics.state.velocityMs + (moved dtS sim t).state.velocityMs) / 2) :=
  integrate_positionM _ _ _

theorem velocityMs_moved (hMax : 0 ≤ sim.physics.params.maxSpeedMs) :
    0 ≤ (moved dtS sim t).state.velocityMs ∧ (moved dtS sim t).state.velocityMs ≤ sim.physics.params.maxSpeedMs :=
  velocityMs_integrate_mem _ dtS hMax

theorem params_tick : (tick dtS sim t).1.physics.params = sim.physics.params ∧
    (tick dtS sim t).1.physics.maxBrakeKn = sim.physics.maxBrakeKn := by
  rcases @tick_cases dtS sim t with ⟨-, hTick⟩ | ⟨next, -, -, hTick⟩ | ⟨-, -, hTick⟩
  all_goals rw [hTick]; exact ⟨rfl, rfl⟩

end Sim

end Symulator.Physics
