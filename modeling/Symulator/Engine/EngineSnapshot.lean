import Symulator.Engine.TrainFleet

/-! # Published snapshots

After every tick the loop publishes a copy of the device maps and of the trains. Other threads read the
latest copy only.
-/

namespace Symulator.Engine

open Symulator.Library

set_option autoImplicit false

structure TrainSnapshot where
  uid : UID
  sectionUid : UID
  speedKmh : Rat := 0
  totalLengthM : Rat := 0
  totalAxles : Int := 0
  vehicleUids : List UID := []

structure EngineSnapshot where
  session : String := ""
  tick : Nat := 0
  boundaryNodes : KeyedMap UID BoundaryNode := .empty
  trackSections : KeyedMap UID TrackSection := .empty
  switches : KeyedMap UID Switch := .empty
  signals : KeyedMap UID Signal := .empty
  derailers : KeyedMap UID Derailer := .empty
  blockSections : KeyedMap UID BlockSection := .empty
  routes : KeyedMap UID RouteState := .empty
  alarms : KeyedMap UID AlarmState := .empty
  levelCrossings : KeyedMap UID LevelCrossing := .empty
  trains : List TrainSnapshot := []

/-- The snapshot shows the devices, the routes and the alarms of the state. -/
structure EngineSnapshot.Shows (snap : EngineSnapshot) (s : EngineState) : Prop where
  trackSections : snap.trackSections = s.trackSections
  switches : snap.switches = s.switches
  signals : snap.signals = s.signals
  derailers : snap.derailers = s.derailers
  blockSections : snap.blockSections = s.blockSections
  routes : snap.routes = s.routes
  alarms : snap.alarms = s.alarms

section Publish

variable {φ : Type} (dynamics : TrainDynamics φ)

def snapshotTrain (entry : TrainEntry φ) : TrainSnapshot where
  uid := entry.sim.trainUid
  sectionUid := entry.sim.currentSectionUid
  speedKmh := dynamics.velocityMs entry.sim.physics * (36 / 10)
  totalLengthM := entry.sim.totalLengthM
  totalAxles := entry.sim.totalAxles
  vehicleUids := entry.sim.vehicleUids

def snapshotTrains (entries : List (TrainEntry φ)) : List TrainSnapshot := entries.map (snapshotTrain dynamics)

def publish (state : EngineState) (entries : List (TrainEntry φ)) : EngineSnapshot where
  session := state.sessionId
  tick := state.currentTick
  boundaryNodes := state.boundaryNodes
  trackSections := state.trackSections
  switches := state.switches
  signals := state.signals
  derailers := state.derailers
  blockSections := state.blockSections
  routes := state.routes
  alarms := state.alarms
  levelCrossings := state.levelCrossings
  trains := snapshotTrains dynamics entries

end Publish

end Symulator.Engine
