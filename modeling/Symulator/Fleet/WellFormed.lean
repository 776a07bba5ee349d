import Symulator.Fleet.Aggregations
import Symulator.Physics.Odometer

/-! # What the integrator relies on

The integrator divides by the mass of the train and limits its speed from zero to the limit of the train. Loading asks
for numbers where there are masses and speeds, and for no more of them.
-/

namespace Symulator.Fleet

open Symulator.Engine Symulator.Library Symulator.Physics

set_option autoImplicit false

structure WellFormed (train : TrainPhysics) : Prop where
  mass : 0 < train.params.totalMassT
  speed : 0 ≤ train.params.maxSpeedMs
  brake : 0 < train.maxBrakeKn

section Assemble

variable (consist : TrainConsist) (vehicles : List Vehicle)

end Assemble

end Symulator.Fleet
