import Symulator.Engine.TrainFleet
import Symulator.Physics.PhysicsModel

/-! # The driver

The driver has no memory but the state of the last tick. From the aspect ahead, the distance to the signal and the
speed the driver decides whether to stand, accelerate, cruise or brake, and with what force.
-/

namespace Symulator.Physics

open Symulator.Engine

set_option autoImplicit false

inductive DriverState
  | stopped | accelerating | cruising | braking
deriving DecidableEq, Repr

/-- What the driver is told, with the signal after the next one where it is known. -/
structure AdvisedInput extends DriverInput where
  nextAspect : SignalAspect := .s2Proceed
  distanceToNextSignalM : Rat := 1000000000

structure DriverOutput where
  tractionKn : Rat := 0
  brakeKn : Rat := 0
  state : DriverState := .stopped

/-- The speed an aspect permits, 999 m/s where it sets no limit. -/
def aspectSpeedMs : SignalAspect → Rat
  | .s1Stop => 0
  | .s2Proceed => 999
  | .s3Proceed40 => 40 / (36 / 10)
  | .s4Proceed40ExpectStop => 40 / (36 / 10)
  | .s5ExpectStop => 999
  | .s6Proceed100 => 100 / (36 / 10)
  | .s7Proceed100ExpectStop => 100 / (36 / 10)
  | .s8Proceed100Expect40 => 100 / (36 / 10)
  | .s9Proceed100Expect60 => 100 / (36 / 10)
  | .s10Proceed40 => 40 / (36 / 10)
  | .s11Proceed40Expect40 => 40 / (36 / 10)
  | .s12Proceed60 => 60 / (36 / 10)
  | .s13Proceed60Expect60 => 60 / (36 / 10)
  | .ms2ShuntingAllowed => 40 / (36 / 10)
  | .szProceed | .sznProceedW24 | .ms1Stop => 0

def isStopAspect (aspect : SignalAspect) : Bool := aspect = .s1Stop

/-- The speed to expect at the next signal, 999 m/s where none is announced. -/
def expectedNextSpeedMs : SignalAspect → Rat
  | .s4Proceed40ExpectStop | .s5ExpectStop | .s7Proceed100ExpectStop => 0
  | .s8Proceed100Expect40 | .s11Proceed40Expect40 => 40 / (36 / 10)
  | .s9Proceed100Expect60 | .s13Proceed60Expect60 => 60 / (36 / 10)
  | _ => 999

def kBrakingMargin : Rat := 110 / 100

def kSpeedBandMs : Rat := 5 / 10

def kStoppedThresholdMs : Rat := 5 / 100

def brakingDistanceToSpeed (p : TrainPhysicsParams) (s : TrainPhysicsState) (brakeKn targetSpeedMs : Rat) : Rat :=
  let massKg := p.totalMassT * 1000
  let brakeN := brakeKn * 1000
  if massKg ≤ 0 ∨ brakeN ≤ 0 then 1000000000
  else
    let v := max 0 s.velocityMs
    let vTarget := max 0 targetSpeedMs
    if v ≤ vTarget then 0
    else
      let aBrake := brakeN / massKg
      (v * v - vTarget * vTarget) / (2 * aBrake)

namespace DriverAi

/-- With the margin, the way to a stand under full brake. -/
def stoppingDistance (p : TrainPhysicsParams) (s : TrainPhysicsState) (brakeKn : Rat) : Rat :=
  brakingDistance p { s with brakeKn } * kBrakingMargin

def movementVmaxMs (inp : AdvisedInput) : Rat :=
  if isStopAspect inp.aspect then inp.targetSpeedMs else min (aspectSpeedMs inp.aspect) inp.targetSpeedMs

def advisoryBrakeNow (p : TrainPhysicsParams) (s : TrainPhysicsState) (inp : AdvisedInput) : Bool :=
  let expectedNextVmaxMs := expectedNextSpeedMs inp.nextAspect
  let dToAdvisorySpeed := brakingDistanceToSpeed p s inp.maxBrakeKn expectedNextVmaxMs * kBrakingMargin
  decide (expectedNextVmaxMs < 998 ∧ s.velocityMs > expectedNextVmaxMs + kSpeedBandMs ∧
    dToAdvisorySpeed ≥ inp.distanceToNextSignalM)

def newState (prevState : DriverState) (p : TrainPhysicsParams) (s : TrainPhysicsState) (inp : AdvisedInput) :
    DriverState :=
  let vmax := movementVmaxMs inp
  let expectedNextVmaxMs := expectedNextSpeedMs inp.nextAspect
  if isStopAspect inp.aspect then
    if s.velocityMs ≤ kStoppedThresholdMs then .stopped
    else if stoppingDistance p s inp.maxBrakeKn ≥ inp.distanceToSignalM then .braking
    else if s.velocityMs ≥ vmax - kSpeedBandMs then .cruising
    else .accelerating
  else if advisoryBrakeNow p s inp then .braking
  else if s.velocityMs ≤ kStoppedThresholdMs ∧ prevState = .stopped then
    if vmax > kStoppedThresholdMs then .accelerating else prevState
  else if prevState = .stopped ∧ vmax > kStoppedThresholdMs then .accelerating
  else
    match prevState with
    | .stopped => prevState
    | .accelerating => if s.velocityMs ≥ vmax - kSpeedBandMs then .cruising else prevState
    | .cruising =>
      if s.velocityMs > vmax + kSpeedBandMs then .braking
      else if s.velocityMs < vmax - kSpeedBandMs * 2 then .accelerating
      else prevState
    | .braking =>
      if expectedNextVmaxMs < 998 ∧ s.velocityMs > expectedNextVmaxMs + kSpeedBandMs then .braking
      else if s.velocityMs ≤ vmax - kSpeedBandMs then .cruising
      else prevState

def forces (p : TrainPhysicsParams) (s : TrainPhysicsState) (maxBrakeKn : Rat) (state : DriverState) : DriverOutput :=
  match state with
  | .stopped => { tractionKn := 0, brakeKn := maxBrakeKn, state }
  | .accelerating => { tractionKn := p.maxTractionKn, brakeKn := 0, state }
  | .cruising => { tractionKn := min (davisResistance p s.velocityMs / 1000) p.maxTractionKn, brakeKn := 0, state }
  | .braking => { tractionKn := 0, brakeKn := maxBrakeKn, state }

def tick (prevState : DriverState) (p : TrainPhysicsParams) (s : TrainPhysicsState) (inp : AdvisedInput) :
    DriverOutput :=
  forces p s inp.maxBrakeKn (newState prevState p s inp)

/-- Before a signal at stop the driver stands or brakes when it is time to, and else runs on. -/
theorem newState_of_stop {prevState : DriverState} {p : TrainPhysicsParams} {s : TrainPhysicsState} {inp : AdvisedInput}
    (hStop : inp.aspect = .s1Stop) : newState prevState p s inp =
      if s.velocityMs ≤ kStoppedThresholdMs then .stopped
      else if stoppingDistance p s inp.maxBrakeKn ≥ inp.distanceToSignalM then .braking
      else if s.velocityMs ≥ inp.targetSpeedMs - kSpeedBandMs then .cruising
      else .accelerating := by
  simp only [newState, movementVmaxMs, isStopAspect, hStop, decide_true, if_true]

end DriverAi

end Symulator.Physics
