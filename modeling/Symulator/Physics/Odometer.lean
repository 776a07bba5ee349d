import Symulator.Physics.TrainSim

/-! # The odometer

A train carries what it overshoots into the next section, and loses it at a dead end only. Along a run the sections
left, the way within the last one and the overshoots lost make up the way travelled.
-/

namespace Symulator.Physics

open Symulator.Engine

set_option autoImplicit false

namespace Sim

variable (dtS : Rat)

/-- The way of one tick, at the mean of the speeds before and after it. -/
def travelledM (sim : Sim) (t : SimTick) : Rat :=
  dtS * ((sim.physics.state.velocityMs + (moved dtS sim t).state.velocityMs) / 2)

def leftM (sim : Sim) (t : SimTick) : Rat := if (tick dtS sim t).2.isSome then t.input.sectionLengthM else 0

/-- What a stop at a dead end throws away. -/
def discardedM (sim : Sim) (t : SimTick) : Rat :=
  if AtEnd dtS sim t ∧ t.input.nextSectionUid = none then
    (moved dtS sim t).state.positionM - t.input.sectionLengthM
  else 0

def after : Sim → List SimTick → Sim
  | sim, [] => sim
  | sim, t :: ticks => after (tick dtS sim t).1 ticks

def total (measure : Sim → SimTick → Rat) : Sim → List SimTick → Rat
  | _, [] => 0
  | sim, t :: ticks => measure sim t + total measure (tick dtS sim t).1 ticks

def crossings : Sim → List SimTick → List SectionCrossing
  | _, [] => []
  | sim, t :: ticks => (tick dtS sim t).2.toList ++ crossings (tick dtS sim t).1 ticks

/-- Each crossing begins where the one before it ended. -/
def Linked : UID → List SectionCrossing → UID → Prop
  | start, [], last => last = start
  | start, c :: cs, last => c.fromSectionUid = start ∧ Linked c.toSectionUid cs last

/-- The tick reports a crossing exactly when the train runs past the end of its section and there is a next one,
and only then the train changes its section. -/
structure Reports (sim : Sim) (t : SimTick) : Prop where
  crossing : ∀ c, (tick dtS sim t).2 = some c ↔ AtEnd dtS sim t ∧ t.input.nextSectionUid = some c.toSectionUid ∧
    c.fromSectionUid = sim.currentSectionUid ∧
    c.overshootM = (moved dtS sim t).state.positionM - t.input.sectionLengthM
  enters : ∀ c, (tick dtS sim t).2 = some c → (tick dtS sim t).1.currentSectionUid = c.toSectionUid ∧
    (tick dtS sim t).1.physics.state.positionM = c.overshootM
  keeps : (tick dtS sim t).2 = none → (tick dtS sim t).1.currentSectionUid = sim.currentSectionUid

variable {dtS}

/-! ## One tick -/

theorem reports (sim : Sim) (t : SimTick) : Reports dtS sim t := by
  rcases @tick_cases dtS sim t with ⟨hInside, hTick⟩ | ⟨next, hEnd, hNext, hTick⟩ | ⟨hEnd, hNone, hTick⟩
  · constructor
    case crossing => simp [hTick, hInside]
    case enters => simp [hTick]
    case keeps => simp [hTick]
  · constructor
    case crossing =>
      intro c
      rw [hTick, Option.some.injEq]
      constructor
      · rintro rfl
        exact ⟨hEnd, hNext, rfl, rfl⟩
      · rintro ⟨-, hTo, hFrom, hOver⟩
        obtain ⟨fromSectionUid, toSectionUid, overshootM⟩ := c
        rw [hNext, Option.some.injEq] at hTo
        subst hTo hFrom hOver
        rfl
    case enters =>
      intro c hc
      rw [hTick, Option.some.injEq] at hc
      rw [hTick, ← hc]
      exact ⟨rfl, rfl⟩
    case keeps => simp [hTick]
  · constructor
    case crossing => simp [hTick, hNone]
    case enters => simp [hTick]
    case keeps => simp [hTick]

theorem odometer_tick (sim : Sim) (t : SimTick) :
    leftM dtS sim t + (tick dtS sim t).1.physics.state.positionM =
      sim.physics.state.positionM + travelledM dtS sim t - discardedM dtS sim t := by
  have hMoved := @positionM_moved dtS sim t
  unfold leftM travelledM
  rcases @tick_cases dtS sim t with ⟨hInside, hTick⟩ | ⟨next, hEnd, hNext, hTick⟩ | ⟨hEnd, hNone, hTick⟩
  · have hKept : discardedM dtS sim t = 0 := if_neg (fun hBoth => hInside hBoth.1)
    simp only [hTick, hKept, Option.isSome_none, Bool.false_eq_true, if_false]
    linarith
  · have hKept : discardedM dtS sim t = 0 := if_neg (by simp [hNext])
    simp only [hTick, hKept, Option.isSome_some, if_true, TrainPhysics.placeAt]
    linarith
  · have hLost : discardedM dtS sim t = (moved dtS sim t).state.positionM - t.input.sectionLengthM :=
      if_pos ⟨hEnd, hNone⟩
    simp only [hTick, hLost, Option.isSome_none, Bool.false_eq_true, if_false, TrainPhysics.stopAt]
    linarith

theorem velocity_tick {sim : Sim} (hMax : 0 ≤ sim.physics.params.maxSpeedMs) (t : SimTick) :
    0 ≤ (tick dtS sim t).1.physics.state.velocityMs ∧
      (tick dtS sim t).1.physics.state.velocityMs ≤ sim.physics.params.maxSpeedMs := by
  rcases @tick_cases dtS sim t with ⟨-, hTick⟩ | ⟨next, -, -, hTick⟩ | ⟨-, -, hTick⟩
  · rw [hTick]
    exact velocityMs_moved hMax
  · rw [hTick]
    exact velocityMs_moved hMax
  · rw [hTick]
    exact ⟨le_refl 0, hMax⟩

/-! ## Runs -/

theorem linked_crossings (sim : Sim) (ticks : List SimTick) :
    Linked sim.currentSectionUid (crossings dtS sim ticks) (after dtS sim ticks).currentSectionUid := by
  induction ticks generalizing sim with
  | nil => rfl
  | cons t ticks ih =>
    have hReports := @reports dtS sim t
    have hRest := ih (tick dtS sim t).1
    rw [crossings, after]
    cases hCrossing : (tick dtS sim t).2 with
    | none =>
      rw [hReports.keeps hCrossing] at hRest
      exact hRest
    | some c =>
      rw [(hReports.enters c hCrossing).1] at hRest
      exact ⟨((hReports.crossing c).mp hCrossing).2.2.1, hRest⟩

theorem odometer_run (sim : Sim) (ticks : List SimTick) :
    total dtS (leftM dtS) sim ticks + (after dtS sim ticks).physics.state.positionM =
      sim.physics.state.positionM + total dtS (travelledM dtS) sim ticks - total dtS (discardedM dtS) sim ticks := by
  induction ticks generalizing sim with
  | nil => simp [total, after]
  | cons t ticks ih =>
    have hTick := @odometer_tick dtS sim t
    have hRest := ih (tick dtS sim t).1
    simp only [total, after]
    linarith

theorem velocity_run {sim : Sim} (hMax : 0 ≤ sim.physics.params.maxSpeedMs)
    (hStart : 0 ≤ sim.physics.state.velocityMs ∧ sim.physics.state.velocityMs ≤ sim.physics.params.maxSpeedMs)
    (ticks : List SimTick) : 0 ≤ (after dtS sim ticks).physics.state.velocityMs ∧
      (after dtS sim ticks).physics.state.velocityMs ≤ sim.physics.params.maxSpeedMs := by
  induction ticks generalizing sim with
  | nil => exact hStart
  | cons t ticks ih =>
    have hParams := (@params_tick dtS sim t).1
    rw [after, ← hParams]
    refine ih ?_ ?_
    · rw [hParams]
      exact hMax
    · rw [hParams]
      exact velocity_tick hMax t

/-- However the train is driven, over sections of any length and with any section ahead, it keeps to its speeds, the
odometer adds up, and the crossings reported lead from its first section to its last. -/
theorem odometer {sim : Sim} (hMax : 0 ≤ sim.physics.params.maxSpeedMs)
    (hStart : 0 ≤ sim.physics.state.velocityMs ∧ sim.physics.state.velocityMs ≤ sim.physics.params.maxSpeedMs)
    (dtS : Rat) (ticks : List SimTick) :
    (0 ≤ (after dtS sim ticks).physics.state.velocityMs ∧
      (after dtS sim ticks).physics.state.velocityMs ≤ sim.physics.params.maxSpeedMs) ∧
    total dtS (leftM dtS) sim ticks + (after dtS sim ticks).physics.state.positionM =
      sim.physics.state.positionM + total dtS (travelledM dtS) sim ticks - total dtS (discardedM dtS) sim ticks ∧
    Linked sim.currentSectionUid (crossings dtS sim ticks) (after dtS sim ticks).currentSectionUid ∧
    ∀ t, Reports dtS (after dtS sim ticks) t :=
  ⟨velocity_run hMax hStart ticks, odometer_run sim ticks, linked_crossings sim ticks, reports (after dtS sim ticks)⟩

/-- A train of 80 t that runs at 10 m/s towards the end of its section, with 50 cm left. -/
def nearEnd : Sim where
  trainUid := ⟨1⟩
  currentSectionUid := ⟨2⟩
  physics := { params := { totalMassT := 80, maxSpeedMs := 20 }, state := { positionM := 995 / 10, velocityMs := 10 } }

def rolling (sectionLengthM : Rat) (nextSectionUid : Option UID) : SimTick where
  policy := fun _ _ _ _ => {}
  input := { driverInput := ⟨.s2Proceed, 0, 20, 640⟩, sectionLengthM, nextSectionUid }

/-- Into a section of a metre, and there into its dead end. -/
def rollingOut : List SimTick := [rolling 100 (some ⟨3⟩), rolling 1 none]

theorem odometer_rollingOut :
    total (1 / 10) (leftM (1 / 10)) nearEnd rollingOut + (after (1 / 10) nearEnd rollingOut).physics.state.positionM =
      nearEnd.physics.state.positionM + total (1 / 10) (travelledM (1 / 10)) nearEnd rollingOut -
        total (1 / 10) (discardedM (1 / 10)) nearEnd rollingOut :=
  (@odometer nearEnd (by decide +kernel) (by decide +kernel) (1 / 10) rollingOut).2.1

end Sim

end Symulator.Physics
