import Mathlib.Data.Rat.Floor
import Symulator.Library.BrakingRoom
import Symulator.Library.Runs
import Symulator.Physics.DriverAi

/-! # Before a signal at stop

The driver brakes as soon as the way to a stand, with a margin of a tenth, no longer fits before the signal. Until
then the train runs on, and one tick more may take up more than the margin left.
-/

namespace Symulator.Physics

open Symulator.Library Symulator.Engine

set_option autoImplicit false

def tickDtS : Rat := 5 / 100

structure Approach where
  physics : TrainPhysicsState
  driver : DriverState := .stopped

/-- What the driver is told besides the signal at stop. -/
structure Advice where
  targetSpeedMs : Rat
  nextAspect : SignalAspect := .s2Proceed
  distanceToNextSignalM : Rat := 1000000000

namespace Approach

variable (p : TrainPhysicsParams) (brakeKn signalM : Rat)

def room (a : Approach) : Rat := signalM - a.physics.positionM

def driverInput (a : Approach) (advice : Advice) : AdvisedInput where
  aspect := .s1Stop
  distanceToSignalM := max 0 (a.room signalM)
  targetSpeedMs := advice.targetSpeedMs
  maxBrakeKn := brakeKn
  nextAspect := advice.nextAspect
  distanceToNextSignalM := advice.distanceToNextSignalM

def step (a : Approach) (advice : Advice) : Option Approach :=
  let out := DriverAi.tick a.driver p a.physics (a.driverInput brakeKn signalM advice)
  some
    { physics := integrate p { a.physics with tractionKn := out.tractionKn, brakeKn := out.brakeKn } tickDtS
      driver := out.state }

/-- What a tick under full brake takes off the speed at least: the resistance is never below its constant part. -/
def brakeStep : Rat := (brakeKn + p.davisA / 1000) / p.totalMassT * tickDtS

/-- The way to a stand under full brake and the constant part of the resistance. -/
def standingRoom (vMs : Rat) : Rat := brakingRoom (brakeStep p brakeKn) tickDtS vMs

/-- The speed a train that runs on has after the tick, at most. -/
def runOnSpeed (a : Approach) (advice : Advice) : Rat :=
  let vMs := a.physics.velocityMs
  min (max 0 p.maxSpeedMs)
    (if vMs ≥ advice.targetSpeedMs - kSpeedBandMs then vMs
    else vMs + max 0 (p.maxTractionKn * 1000 - davisResistance p vMs) / (p.totalMassT * 1000) * tickDtS)

/-- There is room for what the driver will do: to come to a stand for a train that hardly moves, and for a train that
runs on also to do so for another tick. The brake holds a train that rolls back. -/
structure RoomAhead (a : Approach) (advice : Advice) : Prop where
  standing : a.physics.velocityMs ≤ kStoppedThresholdMs → standingRoom p brakeKn a.physics.velocityMs ≤ a.room signalM
  running : kStoppedThresholdMs < a.physics.velocityMs →
    DriverAi.stoppingDistance p a.physics brakeKn < a.room signalM →
    tickDtS * ((a.physics.velocityMs + runOnSpeed p a advice) / 2) + standingRoom p brakeKn (runOnSpeed p a advice) ≤
      a.room signalM
  holds : a.physics.velocityMs < 0 → 0 ≤ davisResistance p a.physics.velocityMs + brakeKn * 1000

/-- Either the train can still stop, or the driver does not brake yet. -/
def Safe (a : Approach) : Prop :=
  0 ≤ a.room signalM ∧ (standingRoom p brakeKn a.physics.velocityMs ≤ a.room signalM ∨
    DriverAi.stoppingDistance p a.physics brakeKn < a.room signalM)

/-- Positive mass and brake, and no negative forces. -/
structure Sound : Prop where
  mass : 0 < p.totalMassT
  brake : 0 < brakeKn
  traction : 0 ≤ p.maxTractionKn
  davisA : 0 ≤ p.davisA
  davisB : 0 ≤ p.davisB
  davisC : 0 ≤ p.davisC

variable {p brakeKn signalM}

theorem Sound.brakeStep_pos (h : Sound p brakeKn) : 0 < brakeStep p brakeKn := by
  have hMass := h.mass
  have hBrake := h.brake
  have hA := h.davisA
  have hTick : 0 < tickDtS := by decide +kernel
  unfold brakeStep
  positivity

theorem Sound.davisA_le_davisResistance (h : Sound p brakeKn) {vMs : Rat} (hv : 0 ≤ vMs) :
    p.davisA ≤ davisResistance p vMs := by
  have hB := h.davisB
  have hC := h.davisC
  have hMoving : 0 ≤ p.davisB * (vMs * (36 / 10)) + p.davisC * (vMs * (36 / 10)) * (vMs * (36 / 10)) := by positivity
  simp only [davisResistance]
  linarith

theorem tickDtS_nonneg : (0 : Rat) ≤ tickDtS := by decide +kernel

/-- A speed that is bounded after a tick bounds the way of the tick and the way that is left to a stand. -/
theorem room_after (h : Sound p brakeKn) {v v' u : Rat} (hv' : v' ≤ u) :
    tickDtS * ((v + v') / 2) + standingRoom p brakeKn v' ≤ tickDtS * ((v + u) / 2) + standingRoom p brakeKn u := by
  have hMono : standingRoom p brakeKn v' ≤ standingRoom p brakeKn u :=
    brakingRoom_mono h.brakeStep_pos tickDtS_nonneg hv'
  have hWay := mul_le_mul_of_nonneg_left (show (v + v') / 2 ≤ (v + u) / 2 by linarith) tickDtS_nonneg
  linarith

/-- Under full brake the speed falls by what the brake takes, and a train that stands keeps standing. -/
theorem velocityMs_braked (h : Sound p brakeKn) {s : TrainPhysicsState} (hBrake : s.brakeKn = brakeKn)
    (hTraction : s.tractionKn = 0) (hHolds : s.velocityMs < 0 → 0 ≤ davisResistance p s.velocityMs + brakeKn * 1000) :
    (integrate p s tickDtS).velocityMs ≤ max 0 (s.velocityMs - brakeStep p brakeKn) := by
  have hMass := h.mass
  have hForce : min s.tractionKn p.maxTractionKn * 1000 - davisResistance p s.velocityMs - s.brakeKn * 1000 =
      - davisResistance p s.velocityMs - brakeKn * 1000 := by
    rw [hTraction, hBrake, min_eq_left h.traction]
    ring
  rw [integrate_velocityMs]
  refine clamp_le_of_le (le_max_left _ _) ?_
  rcases le_or_gt s.velocityMs 0 with hv | hv
  · have hResist : 0 ≤ davisResistance p s.velocityMs + brakeKn * 1000 := by
      rcases lt_or_eq_of_le hv with hBack | hStill
      · exact hHolds hBack
      · have hLeast := h.davisA_le_davisResistance (le_of_eq hStill.symm)
        have hA := h.davisA
        have hBrakePos := h.brake
        linarith
    have hNet : netForce p s ≤ 0 := by
      simp only [netForce, hForce]
      split
      · exact le_refl 0
      · linarith
    have hAccel : netForce p s / (p.totalMassT * 1000) * tickDtS ≤ 0 :=
      mul_nonpos_of_nonpos_of_nonneg (div_nonpos_of_nonpos_of_nonneg hNet (by linarith)) tickDtS_nonneg
    exact le_trans (by linarith) (le_max_left _ _)
  · have hLeast := h.davisA_le_davisResistance (le_of_lt hv)
    have hNet : netForce p s ≤ - ((brakeKn + p.davisA / 1000) * 1000) := by
      simp only [netForce, hForce]
      rw [if_neg (fun hBoth => not_le.mpr hv hBoth.1)]
      linarith
    have hAccel : netForce p s / (p.totalMassT * 1000) ≤ - ((brakeKn + p.davisA / 1000) / p.totalMassT) := by
      have hSame : - ((brakeKn + p.davisA / 1000) / p.totalMassT) =
          - ((brakeKn + p.davisA / 1000) * 1000) / (p.totalMassT * 1000) := by
        rw [neg_div, mul_div_mul_right _ _ (by norm_num : (1000 : Rat) ≠ 0)]
      rw [hSame]
      exact div_le_div_of_nonneg_right hNet (by linarith)
    have hScaled := mul_le_mul_of_nonneg_right hAccel tickDtS_nonneg
    refine le_trans ?_ (le_max_right _ _)
    unfold brakeStep
    linarith

/-- A train that runs on gains at most what full traction gives it, one that cruises gains nothing, and neither gets
over the limit. -/
theorem velocityMs_running (h : Sound p brakeKn) {a : Approach} {advice : Advice} {s : TrainPhysicsState}
    {state : DriverState} (hMoves : 0 < a.physics.velocityMs)
    (hState : state = if a.physics.velocityMs ≥ advice.targetSpeedMs - kSpeedBandMs then .cruising else .accelerating)
    (hs : s = { a.physics with
      tractionKn := (DriverAi.forces p a.physics brakeKn state).tractionKn
      brakeKn := (DriverAi.forces p a.physics brakeKn state).brakeKn }) :
    (integrate p s tickDtS).velocityMs ≤ runOnSpeed p a advice := by
  have hMass := h.mass
  have hSpeed : s.velocityMs = a.physics.velocityMs := by rw [hs]
  have hNet : netForce p s = min s.tractionKn p.maxTractionKn * 1000 - davisResistance p s.velocityMs -
      s.brakeKn * 1000 := by
    simp only [netForce]
    rw [if_neg (fun hBoth => not_le.mpr hMoves (hSpeed ▸ hBoth.1))]
  rw [integrate_velocityMs, hSpeed]
  refine le_min clamp_le_max ?_
  by_cases hCruise : a.physics.velocityMs ≥ advice.targetSpeedMs - kSpeedBandMs
  · rw [if_pos hCruise] at hState
    rw [if_pos hCruise]
    have hTraction : s.tractionKn ≤ davisResistance p s.velocityMs / 1000 := by
      rw [hs, hState]
      exact min_le_left _ _
    have hNoBrake : s.brakeKn = 0 := by rw [hs, hState]; rfl
    have hSlow : netForce p s ≤ 0 := by
      have hLeast := le_trans (min_le_left s.tractionKn p.maxTractionKn) hTraction
      have hForce := (le_div_iff₀ (by norm_num : (0 : Rat) < 1000)).mp hLeast
      rw [hNet, hNoBrake]
      linarith
    have hAccel : netForce p s / (p.totalMassT * 1000) * tickDtS ≤ 0 :=
      mul_nonpos_of_nonpos_of_nonneg (div_nonpos_of_nonpos_of_nonneg hSlow (by linarith)) tickDtS_nonneg
    exact clamp_le_of_le (le_of_lt hMoves) (by linarith)
  · rw [if_neg hCruise] at hState
    rw [if_neg hCruise]
    have hNoBrake : s.brakeKn = 0 := by rw [hs, hState]; rfl
    have hPull : netForce p s ≤ max 0 (p.maxTractionKn * 1000 - davisResistance p a.physics.velocityMs) := by
      have hMost := min_le_right s.tractionKn p.maxTractionKn
      refine le_trans ?_ (le_max_right _ _)
      rw [hNet, hNoBrake, hSpeed]
      linarith
    have hAccel := mul_le_mul_of_nonneg_right
      (div_le_div_of_nonneg_right hPull (show 0 ≤ p.totalMassT * 1000 by linarith)) tickDtS_nonneg
    have hGain : 0 ≤ max 0 (p.maxTractionKn * 1000 - davisResistance p a.physics.velocityMs) /
        (p.totalMassT * 1000) * tickDtS :=
      mul_nonneg (div_nonneg (le_max_left _ _) (by linarith)) tickDtS_nonneg
    exact clamp_le_of_le (by linarith) (by linarith)

/-! ## One tick and all ticks -/

theorem room_step {a a' : Approach} {advice : Advice} (hStep : a.step p brakeKn signalM advice = some a') :
    a'.room signalM = a.room signalM - tickDtS * ((a.physics.velocityMs + a'.physics.velocityMs) / 2) := by
  cases hStep
  simp only [room, integrate_positionM]
  ring

theorem standingRoom_braked (h : Sound p brakeKn) {a a' : Approach} {advice : Advice}
    (hNew : DriverAi.newState a.driver p a.physics (a.driverInput brakeKn signalM advice) = .stopped ∨
      DriverAi.newState a.driver p a.physics (a.driverInput brakeKn signalM advice) = .braking)
    (hHolds : a.physics.velocityMs < 0 → 0 ≤ davisResistance p a.physics.velocityMs + brakeKn * 1000)
    (hFits : standingRoom p brakeKn a.physics.velocityMs ≤ a.room signalM)
    (hStep : a.step p brakeKn signalM advice = some a') :
    standingRoom p brakeKn a'.physics.velocityMs ≤ a'.room signalM := by
  have hLeft := room_step hStep
  have hSlower : a'.physics.velocityMs ≤ max 0 (a.physics.velocityMs - brakeStep p brakeKn) := by
    cases hStep
    refine velocityMs_braked h ?_ ?_ hHolds
    · rcases hNew with hNew | hNew <;> simp only [DriverAi.tick, hNew] <;> rfl
    · rcases hNew with hNew | hNew <;> simp only [DriverAi.tick, hNew] <;> rfl
  have hTick : _ ≤ standingRoom p brakeKn a.physics.velocityMs :=
    brakingRoom_tick h.brakeStep_pos tickDtS_nonneg a.physics.velocityMs
  have hAfter := @room_after p brakeKn h a.physics.velocityMs _ _ hSlower
  rw [hLeft]
  unfold standingRoom at *
  linarith

theorem standingRoom_running (h : Sound p brakeKn) {a a' : Approach} {advice : Advice}
    (hNew : DriverAi.newState a.driver p a.physics (a.driverInput brakeKn signalM advice) =
      if a.physics.velocityMs ≥ advice.targetSpeedMs - kSpeedBandMs then .cruising else .accelerating)
    (hMoves : kStoppedThresholdMs < a.physics.velocityMs)
    (hFits : tickDtS * ((a.physics.velocityMs + runOnSpeed p a advice) / 2) +
      standingRoom p brakeKn (runOnSpeed p a advice) ≤ a.room signalM)
    (hStep : a.step p brakeKn signalM advice = some a') :
    standingRoom p brakeKn a'.physics.velocityMs ≤ a'.room signalM := by
  have hLeft := room_step hStep
  have hFaster : a'.physics.velocityMs ≤ runOnSpeed p a advice := by
    cases hStep
    refine velocityMs_running h (lt_trans (by decide +kernel) hMoves) hNew ?_
    simp only [DriverAi.tick]
    rfl
  have hAfter := @room_after p brakeKn h a.physics.velocityMs _ _ hFaster
  rw [hLeft]
  linarith

/-- With room ahead a tick leaves room to come to a stand. -/
theorem standingRoom_step (h : Sound p brakeKn) {a a' : Approach} {advice : Advice}
    (hSafe : a.Safe p brakeKn signalM) (hRoom : a.RoomAhead p brakeKn signalM advice)
    (hStep : a.step p brakeKn signalM advice = some a') :
    standingRoom p brakeKn a'.physics.velocityMs ≤ a'.room signalM := by
  have hState := @DriverAi.newState_of_stop a.driver p a.physics (a.driverInput brakeKn signalM advice) rfl
  have hDistance : (a.driverInput brakeKn signalM advice).distanceToSignalM = a.room signalM := max_eq_right hSafe.1
  rw [hDistance] at hState
  by_cases hStand : a.physics.velocityMs ≤ kStoppedThresholdMs
  · rw [if_pos hStand] at hState
    exact standingRoom_braked h (Or.inl hState) hRoom.holds (hRoom.standing hStand) hStep
  · rw [if_neg hStand] at hState
    by_cases hBrake : DriverAi.stoppingDistance p a.physics brakeKn ≥ a.room signalM
    · have hFits := hSafe.2.resolve_right (not_lt.mpr hBrake)
      exact standingRoom_braked h (Or.inr (hState.trans (if_pos hBrake))) hRoom.holds hFits hStep
    · have hFits := hRoom.running (not_le.mp hStand) (not_le.mp hBrake)
      exact standingRoom_running h (hState.trans (if_neg hBrake)) (not_le.mp hStand) hFits hStep

theorem safe_step (h : Sound p brakeKn) {a a' : Approach} {advice : Advice}
    (hSafe : a.Safe p brakeKn signalM) (hRoom : a.RoomAhead p brakeKn signalM advice)
    (hStep : a.step p brakeKn signalM advice = some a') : a'.Safe p brakeKn signalM := by
  have hFits := standingRoom_step h hSafe hRoom hStep
  exact ⟨le_trans (brakingRoom_nonneg h.brakeStep_pos tickDtS_nonneg _) hFits, Or.inl hFits⟩

theorem stoppingDistance_nonneg (h : Sound p brakeKn) (s : TrainPhysicsState) :
    0 ≤ DriverAi.stoppingDistance p s brakeKn := by
  have hMass := h.mass
  have hBrake := h.brake
  have hNot : ¬ (brakeKn * 1000 ≤ 0 ∨ p.totalMassT * 1000 ≤ 0) := by
    rintro (hNone | hNone) <;> linarith
  unfold DriverAi.stoppingDistance brakingDistance
  simp only [if_neg hNot]
  refine mul_nonneg (div_nonneg (mul_self_nonneg _) ?_) (by decide +kernel)
  positivity

/-- While every tick finds room ahead, the train never gets past the signal. -/
theorem stopSignal_kept (h : Sound p brakeKn) {a : Approach}
    (hStart : DriverAi.stoppingDistance p a.physics brakeKn < a.room signalM) {advices : List Advice}
    (hRoom : Guarded (step p brakeKn signalM) (RoomAhead p brakeKn signalM) a advices) :
    Always (step p brakeKn signalM) (fun a => a.physics.positionM ≤ signalM) a advices := by
  have hSafe : a.Safe p brakeKn signalM :=
    ⟨le_of_lt (lt_of_le_of_lt (stoppingDistance_nonneg h a.physics) hStart), Or.inr hStart⟩
  have hAlways := always_of_guarded (Safe p brakeKn signalM) (RoomAhead p brakeKn signalM)
    (fun a advice a' hSafe hRoom hStep => safe_step h hSafe hRoom hStep) hSafe hRoom
  exact hAlways.mono fun a hSafe => sub_nonneg.mp hSafe.1

instance (a : Approach) (advice : Advice) : Decidable (RoomAhead p brakeKn signalM a advice) :=
  decidable_of_iff
    ((a.physics.velocityMs ≤ kStoppedThresholdMs → standingRoom p brakeKn a.physics.velocityMs ≤ a.room signalM) ∧
      (kStoppedThresholdMs < a.physics.velocityMs → DriverAi.stoppingDistance p a.physics brakeKn < a.room signalM →
        tickDtS * ((a.physics.velocityMs + runOnSpeed p a advice) / 2) +
          standingRoom p brakeKn (runOnSpeed p a advice) ≤ a.room signalM) ∧
      (a.physics.velocityMs < 0 → 0 ≤ davisResistance p a.physics.velocityMs + brakeKn * 1000))
    ⟨fun ⟨hStanding, hRunning, hHolds⟩ => ⟨hStanding, hRunning, hHolds⟩,
      fun h => ⟨h.standing, h.running, h.holds⟩⟩

/-- A locomotive of 80 t that pulls with 200 kN and brakes with 640 kN. -/
def shunter : TrainPhysicsParams where
  totalMassT := 80
  maxTractionKn := 200
  maxSpeedMs := 20

theorem sound_shunter : Sound shunter 640 :=
  ⟨by decide +kernel, by decide +kernel, by decide +kernel, by decide +kernel, by decide +kernel, by decide +kernel⟩

/-- At 4 m/s and 1.2005 m before the signal the driver cruises for one tick and then brakes to a stand. -/
theorem stopSignal_kept_shunter : ∃ last, run (step shunter 640 (2401 / 2000)) { physics := { velocityMs := 4 } }
      (List.replicate 12 { targetSpeedMs := 4 }) = some last ∧
    last.physics.velocityMs = 0 ∧ last.physics.positionM = 6 / 5 ∧
    Always (step shunter 640 (2401 / 2000)) (fun a => a.physics.positionM ≤ 2401 / 2000)
      { physics := { velocityMs := 4 } } (List.replicate 12 { targetSpeedMs := 4 }) := by
  have hTaken : (run (step shunter 640 (2401 / 2000)) { physics := { velocityMs := 4 } }
      (List.replicate 12 { targetSpeedMs := 4 })).any (fun a =>
        a.physics.velocityMs = 0 ∧ a.physics.positionM = 6 / 5) = true := by decide +kernel
  obtain ⟨last, hRun, hLast⟩ := (Option.any_eq_true _ _).mp hTaken
  obtain ⟨hStands, hPlace⟩ := of_decide_eq_true hLast
  exact ⟨last, hRun, hStands, hPlace, stopSignal_kept sound_shunter (by decide +kernel) (by decide +kernel)⟩

/-- At 4 m/s and 1.11 m before the signal the driver still accelerates, and from 4.125 m/s the train takes more than
the metre that is left. -/
theorem stopSignal_passed : ¬ ∀ p brakeKn signalM (a : Approach) advices, Sound p brakeKn →
    DriverAi.stoppingDistance p a.physics brakeKn < a.room signalM →
    Always (step p brakeKn signalM) (fun a => a.physics.positionM ≤ signalM) a advices := by
  intro h
  have hAlways := h shunter 640 (111 / 100) { physics := { velocityMs := 4 } }
    (List.replicate 8 { targetSpeedMs := 20 }) sound_shunter (by decide +kernel)
  have hPast : (run (step shunter 640 (111 / 100)) { physics := { velocityMs := 4 } }
      (List.replicate 8 { targetSpeedMs := 20 })).any (fun a => decide (111 / 100 < a.physics.positionM)) = true := by
    decide +kernel
  obtain ⟨last, hRun, hLast⟩ := (Option.any_eq_true _ _).mp hPast
  have hKept := hAlways.invariant (fun _ _ _ _ hNext _ _ => hNext) hAlways.head hRun
  exact absurd (of_decide_eq_true hLast) (not_lt.mpr hKept)

end Approach

end Symulator.Physics
