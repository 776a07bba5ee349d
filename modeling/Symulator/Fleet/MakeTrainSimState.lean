import Symulator.Fleet.FleetRegistry
import Symulator.Physics.TrainSim

/-! # A train of a consist

The simulation adds up the vehicles of a consist once more, for its own parameters. It takes for a traction unit what
it knows a force or a power of, whatever the fleet made of the vehicle.
-/

namespace Symulator.Fleet

open Symulator.Engine Symulator.Library Symulator.Physics

set_option autoImplicit false

def isLocomotive (vehicle : Vehicle) : Bool := toUpper vehicle.vehicleType = "LOCOMOTIVE"

def isOperationalTractionUnit (vehicle : Vehicle) : Bool :=
  let tractionCapable := vehicle.tractionCapable || vehicle.tractionForceKn.isSome || vehicle.powerKw.isSome
  if tractionCapable then vehicle.tractionStatus.all (· = .operational) else false

def contribOf (vehicle : Vehicle) : VehiclePhysicsContrib where
  massT := vehicle.effectiveMassT
  tractionKn :=
    if isOperationalTractionUnit vehicle && !isLocomotive vehicle then vehicle.tractionForceKn.getD 0 else 0
  maxSpeedMs := vehicle.maxSpeedKmh / (36 / 10)
  davisA := vehicle.davis.a
  davisB := vehicle.davis.b
  davisC := vehicle.davis.c

/-- The operational locomotives, each with its place in the train. -/
def operationalLocomotiveIndices (vehicles : List Vehicle) : List (Vehicle × Nat) :=
  vehicles.zipIdx.filter fun entry => isOperationalTractionUnit entry.1 && isLocomotive entry.1

def withTraction (entry : Vehicle × Nat) (c : VehiclePhysicsContrib) : VehiclePhysicsContrib :=
  { c with tractionKn := entry.1.tractionForceKn.getD 0 }

def setTraction (contrib : List VehiclePhysicsContrib) (entry : Vehicle × Nat) : List VehiclePhysicsContrib :=
  contrib.modify entry.2 (withTraction entry)

def setLocomotives (contrib : List VehiclePhysicsContrib) (indices : List (Vehicle × Nat)) :
    List VehiclePhysicsContrib :=
  match indices with
  | [] => contrib
  | [only] => setTraction contrib only
  | first :: second :: rest =>
    let sameType := (first :: second :: rest).all fun entry => entry.1.typeUid = first.1.typeUid
    let couplingAllowed := sameType && first.1.multipleCouplingCapable.getD false
    if couplingAllowed then (first :: second :: rest).foldl setTraction contrib else setTraction contrib first

def contribs (vehicles : List Vehicle) : List VehiclePhysicsContrib :=
  setLocomotives (vehicles.map contribOf) (operationalLocomotiveIndices vehicles)

def assemble (consist : TrainConsist) (vehicles : List Vehicle) : TrainPhysics :=
  let params := buildTrainParams (contribs vehicles)
  { params, maxBrakeKn := maxBrakeKn params consist.consistLambdaPct }

def makeTrainSimState (consist : TrainConsist) (vehicles : List Vehicle) (initialSectionUid : UID) :
    Except String Sim :=
  Engine.makeTrainSimState (fun _ vehicles => assemble consist vehicles) consist.toTrainConsist vehicles
    initialSectionUid

def FleetRegistry.getVehicle (fleet : FleetRegistry) (uid : UID) : Except String Vehicle :=
  match fleet.vehicles.find uid with
  | some vehicle => .ok vehicle
  | none => .error ("Vehicle not found: " ++ toString uid.value)

/-- A consist of the fleet with its vehicles, as a train that is to be spawned. -/
def FleetRegistry.trainOf (fleet : FleetRegistry) (consist : TrainConsist) (initialSectionUid : UID) :
    Except String Sim := do
  makeTrainSimState consist (← consist.vehicleUids.mapM fleet.getVehicle) initialSectionUid

theorem makeTrainSimState_of_length {consist : TrainConsist} {vehicles : List Vehicle} (hSome : vehicles ≠ [])
    (hLength : vehicles.length = consist.vehicleUids.length) (initialSectionUid : UID) :
    ∃ sim, makeTrainSimState consist vehicles initialSectionUid = .ok sim ∧
      sim.physics = assemble consist vehicles := by
  unfold makeTrainSimState Engine.makeTrainSimState
  rw [if_neg (by simpa using hSome), if_neg (not_not.mpr hLength)]
  exact ⟨_, rfl, rfl⟩

end Symulator.Fleet
