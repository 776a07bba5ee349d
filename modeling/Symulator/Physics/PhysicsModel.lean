import Mathlib.Algebra.Order.Field.Rat
import Mathlib.Tactic.Linarith
import Mathlib.Tactic.Positivity
import Mathlib.Tactic.Ring
import Symulator.Library.Aggregates

/-! # The physics of a train

One tick integrates the force of traction less running resistance and brake. The arithmetic is that of the
rationals. Masses are in tonnes, forces in kilonewtons, and the Davis coefficients are those of the whole consist.
-/

namespace Symulator.Physics

open Symulator.Library

set_option autoImplicit false

structure TrainPhysicsParams where
  totalMassT : Rat := 0
  maxTractionKn : Rat := 0
  maxSpeedMs : Rat := 999
  davisA : Rat := 0
  davisB : Rat := 0
  davisC : Rat := 0
deriving DecidableEq

structure TrainPhysicsState where
  positionM : Rat := 0
  velocityMs : Rat := 0
  accelMs2 : Rat := 0
  tractionKn : Rat := 0
  brakeKn : Rat := 0
deriving DecidableEq

/-- The standard library's clamp, which expects its bounds in order. -/
def clamp (x lo hi : Rat) : Rat := if x < lo then lo else if hi < x then hi else x

def davisResistance (p : TrainPhysicsParams) (vMs : Rat) : Rat :=
  let vKmh := vMs * (36 / 10)
  p.davisA + p.davisB * vKmh + p.davisC * vKmh * vKmh

/-- Metres to come to rest under the brake of the state, without the running resistance. -/
def brakingDistance (p : TrainPhysicsParams) (s : TrainPhysicsState) : Rat :=
  let massKg := p.totalMassT * 1000
  let brakeN := s.brakeKn * 1000
  if brakeN ≤ 0 ∨ massKg ≤ 0 then 1000000000
  else
    let aBrakeMs2 := brakeN / massKg
    s.velocityMs * s.velocityMs / (2 * aBrakeMs2)

/-- The net force in newtons. At rest the train is not pushed back. -/
def netForce (p : TrainPhysicsParams) (s : TrainPhysicsState) : Rat :=
  let fTraction := min s.tractionKn p.maxTractionKn * 1000
  let fBrake := s.brakeKn * 1000
  let fResist := davisResistance p s.velocityMs
  let fNet := fTraction - fResist - fBrake
  if s.velocityMs ≤ 0 ∧ fNet < 0 then 0 else fNet

def integrate (p : TrainPhysicsParams) (s : TrainPhysicsState) (dtS : Rat) : TrainPhysicsState :=
  let massKg := p.totalMassT * 1000
  let accel := netForce p s / massKg
  let vNew := clamp (s.velocityMs + accel * dtS) 0 p.maxSpeedMs
  let vAvg := 1 / 2 * (s.velocityMs + vNew)
  { s with positionM := s.positionM + vAvg * dtS, velocityMs := vNew, accelMs2 := accel }

def brakeDecelFromLambda (lambdaPct : Rat) : Rat :=
  let g := 981 / 100
  clamp (lambdaPct / 100 * g * (85 / 100)) (3 / 10) 8

def maxBrakeKn (p : TrainPhysicsParams) (lambdaPct : Rat) : Rat := brakeDecelFromLambda lambdaPct * p.totalMassT

structure VehiclePhysicsContrib where
  massT : Rat := 0
  tractionKn : Rat := 0
  maxSpeedMs : Rat := 999
  davisA : Rat := 0
  davisB : Rat := 0
  davisC : Rat := 0

def addContrib (p : TrainPhysicsParams) (v : VehiclePhysicsContrib) : TrainPhysicsParams where
  totalMassT := p.totalMassT + v.massT
  maxTractionKn := p.maxTractionKn + v.tractionKn
  maxSpeedMs := min p.maxSpeedMs v.maxSpeedMs
  davisA := p.davisA + v.davisA * v.massT
  davisB := p.davisB + v.davisB * v.massT
  davisC := p.davisC + v.davisC * v.massT

/-- The vehicles summed up. A limit of 999 m/s stands for none. -/
def buildTrainParams (vehicles : List VehiclePhysicsContrib) : TrainPhysicsParams :=
  let p := vehicles.foldl addContrib {}
  if p.maxSpeedMs ≥ 999 then { p with maxSpeedMs := 0 } else p

/-! ## Clamping -/

section Clamp

variable {x y lo hi : Rat}

theorem le_clamp (h : lo ≤ hi) : lo ≤ clamp x lo hi := by
  unfold clamp
  split
  · exact le_refl lo
  · split
    · exact h
    · exact not_lt.mp (by assumption)

theorem clamp_le (h : lo ≤ hi) : clamp x lo hi ≤ hi := by
  unfold clamp
  split
  · exact h
  · split
    · exact le_refl hi
    · exact not_lt.mp (by assumption)

theorem clamp_le_max : clamp x lo hi ≤ max lo hi := by
  unfold clamp
  split
  · exact le_max_left lo hi
  · split
    · exact le_max_right lo hi
    · exact le_trans (not_lt.mp (by assumption)) (le_max_right lo hi)

theorem clamp_le_of_le (hLo : lo ≤ y) (hx : x ≤ y) : clamp x lo hi ≤ y := by
  unfold clamp
  split
  · exact hLo
  · split
    · exact le_trans (le_of_lt (by assumption)) hx
    · exact hx

end Clamp

/-! ## One step of the integrator -/

section Integrate

variable (p : TrainPhysicsParams) (s : TrainPhysicsState) (dtS : Rat)

@[simp] theorem integrate_positionM : (integrate p s dtS).positionM =
    s.positionM + dtS * ((s.velocityMs + (integrate p s dtS).velocityMs) / 2) := by
  simp only [integrate]
  ring

theorem integrate_velocityMs : (integrate p s dtS).velocityMs =
    clamp (s.velocityMs + netForce p s / (p.totalMassT * 1000) * dtS) 0 p.maxSpeedMs := rfl

variable {p}

theorem velocityMs_integrate_mem (hMax : 0 ≤ p.maxSpeedMs) :
    0 ≤ (integrate p s dtS).velocityMs ∧ (integrate p s dtS).velocityMs ≤ p.maxSpeedMs :=
  ⟨le_clamp hMax, clamp_le hMax⟩

end Integrate

/-! ## The sums over a consist -/

section Build

variable (vehicles : List VehiclePhysicsContrib)

theorem buildTrainParams_keeps {M : Type} {f : TrainPhysicsParams → M}
    (h : ∀ p : TrainPhysicsParams, f { p with maxSpeedMs := 0 } = f p) :
    f (buildTrainParams vehicles) = f (vehicles.foldl addContrib {}) := by
  unfold buildTrainParams
  dsimp only
  split
  · exact h _
  · rfl

theorem totalMassT_buildTrainParams :
    (buildTrainParams vehicles).totalMassT = (vehicles.map VehiclePhysicsContrib.massT).sum := by
  rw [buildTrainParams_keeps vehicles (f := TrainPhysicsParams.totalMassT) (fun _ => rfl),
    measure_foldl_add (f := TrainPhysicsParams.totalMassT) (g := VehiclePhysicsContrib.massT) (fun _ _ => rfl)]
  exact zero_add _

theorem maxTractionKn_buildTrainParams :
    (buildTrainParams vehicles).maxTractionKn = (vehicles.map VehiclePhysicsContrib.tractionKn).sum := by
  rw [buildTrainParams_keeps vehicles (f := TrainPhysicsParams.maxTractionKn) (fun _ => rfl),
    measure_foldl_add (f := TrainPhysicsParams.maxTractionKn) (g := VehiclePhysicsContrib.tractionKn) (fun _ _ => rfl)]
  exact zero_add _

/-- The limit is that of the slowest vehicle, or none where no vehicle is slower than 999 m/s. -/
theorem maxSpeedMs_buildTrainParams :
    ((∀ x ∈ vehicles.map VehiclePhysicsContrib.maxSpeedMs, 999 ≤ x) ∧ (buildTrainParams vehicles).maxSpeedMs = 0) ∨
    ∃ x ∈ vehicles.map VehiclePhysicsContrib.maxSpeedMs, x < 999 ∧ (buildTrainParams vehicles).maxSpeedMs = x ∧
      ∀ y ∈ vehicles.map VehiclePhysicsContrib.maxSpeedMs, x ≤ y := by
  have hStep : ∀ (p : TrainPhysicsParams) (v : VehiclePhysicsContrib),
      (addContrib p v).maxSpeedMs = min p.maxSpeedMs v.maxSpeedMs := fun _ _ => rfl
  obtain ⟨hDefault, hLeast⟩ := measure_foldl_le hStep vehicles {}
  have hLeast' : ∀ y ∈ vehicles.map VehiclePhysicsContrib.maxSpeedMs,
      (vehicles.foldl addContrib {}).maxSpeedMs ≤ y := by
    intro y hy
    obtain ⟨v, hv, rfl⟩ := List.mem_map.mp hy
    exact hLeast v hv
  by_cases hNone : (vehicles.foldl addContrib {}).maxSpeedMs ≥ 999
  · refine Or.inl ⟨fun x hx => le_trans hNone (hLeast' x hx), ?_⟩
    simp only [buildTrainParams, if_pos hNone]
  · have hLimit : (buildTrainParams vehicles).maxSpeedMs = (vehicles.foldl addContrib {}).maxSpeedMs := by
      simp only [buildTrainParams, if_neg hNone]
    rcases measure_foldl_attained hStep vehicles {} with hStart | ⟨v, hv, hEq⟩
    · exact absurd (ge_of_eq hStart) hNone
    · refine Or.inr ⟨v.maxSpeedMs, List.mem_map_of_mem hv, ?_, hLimit.trans hEq, ?_⟩
      · rw [← hEq]
        exact not_le.mp hNone
      · rw [← hEq]
        exact hLeast'

end Build

end Symulator.Physics
