import Symulator.Engine.Command

/-! # Track topology and runtime device state

Static fields are set once when a scenario is loaded; the runtime fields come after them in each
structure. Lengths are rationals.
-/

namespace Symulator.Engine

open Symulator.Library

set_option autoImplicit false

structure OperatorCommandRuntimeState where
  stopped : Bool := false
  substituteInitialized : Bool := false
  substituteActive : Bool := false
  automaticRouteEnabled : Bool := false
  clamped : Bool := false
  trafficClosed : Bool := false
  detectionBypassed : Bool := false
  specialInitialized : Bool := false
  specialActive : Bool := false
  axleResetInitialized : Bool := false
  activeMl8Command : Option Ml8CommandCode := none

inductive CounterKind
  | it | iz
deriving DecidableEq, Repr

structure TrackPort where
  neighborUid : UID := {}
  counterUid : UID := {}
  counterKind : CounterKind := .it
  signalUids : List UID := []

structure TrackSection where
  uid : UID
  pid : String := ""
  stationUid : UID := {}
  sideA : TrackPort := {}
  sideB : TrackPort := {}
  lengthM : Rat := 0
  electrified : Bool := false
  maxSpeedKmh : Int := 0
  stationSection : Bool := true
  occupancy : TrackOccupancy := .free
  axleCount : Int := 0
  operatorState : OperatorCommandRuntimeState := {}

structure SwitchLeg where
  neighborUid : UID := {}
  izUid : UID := {}
  signalUids : List UID := []

structure Switch where
  uid : UID
  pid : String := ""
  stationUid : UID := {}
  typeId : String := ""
  trunk : SwitchLeg := {}
  straight : SwitchLeg := {}
  divergent : SwitchLeg := {}
  lengthM : Rat := 0
  maxSpeedStraightKmh : Int := 0
  maxSpeedDivergentKmh : Int := 0
  position : SwitchPosition := .straight
  controlLost : Bool := false
  occupancy : TrackOccupancy := .free
  axleCount : Int := 0
  lockedByRouteUid : Option UID := none
  movingTicksRemaining : Int := 0
  operatorState : OperatorCommandRuntimeState := {}

inductive SignalType
  | entry | departure | block | shunting
deriving DecidableEq, Repr

structure Signal where
  uid : UID
  pid : String := ""
  stationUid : UID := {}
  typeId : String := ""
  type : SignalType := .block
  governsSectionUid : UID := {}
  currentAspect : SignalAspect := .s1Stop
  lockedByRouteUid : Option UID := none
  operatorState : OperatorCommandRuntimeState := {}

structure Derailer where
  uid : UID
  pid : String := ""
  stationUid : UID := {}
  typeId : String := ""
  guardsSectionUid : UID := {}
  state : DerailerState := .locked
  lockedByRouteUid : Option UID := none
  operatorState : OperatorCommandRuntimeState := {}

structure BlockSection where
  uid : UID
  pid : String := ""
  typeId : String := ""
  stationUid : UID := {}
  neighborStationUid : UID := {}
  lineNumber : Int := 0
  departureSignalUid : UID := {}
  entrySignalUid : UID := {}
  szlakSectionUids : List UID := []
  state : BlockSectionState := .closed
  direction : BlockDirectionState := .neutral
  axleCount : Int := 0
  operatorState : OperatorCommandRuntimeState := {}
  resetInitTick : Option Nat := none

/-- An active interlocking route between two signals. -/
structure RouteState where
  uid : UID
  fromSignalUid : UID
  toSignalUid : UID
  sectionUids : List UID := []
  switchUids : List UID := []
  derailerUids : List UID := []
  createdTick : Nat := 0
  trainEntered : Bool := false
  overlapReleaseTick : Option Nat := none

structure AlarmState where
  uid : UID
  kind : String := ""
  objectUid : UID := {}
  message : String := ""
  timestampUs : Nat := 0

structure LevelCrossing where
  uid : UID
  pid : String := ""
  stationUid : UID := {}
  status : LevelCrossingStatus := .open
  warningStartTick : Option Nat := none
  warningDurationTicks : Nat := 160

structure BoundaryNode where
  uid : UID
  pid : String := ""
  stationUid : UID := {}
  description : String := ""

instance : Keyed UID TrackSection := ⟨TrackSection.uid⟩
instance : Keyed UID Switch := ⟨Switch.uid⟩
instance : Keyed UID Signal := ⟨Signal.uid⟩
instance : Keyed UID Derailer := ⟨Derailer.uid⟩
instance : Keyed UID BlockSection := ⟨BlockSection.uid⟩
instance : Keyed UID RouteState := ⟨RouteState.uid⟩
instance : Keyed UID AlarmState := ⟨AlarmState.uid⟩
instance : Keyed UID LevelCrossing := ⟨LevelCrossing.uid⟩
instance : Keyed UID BoundaryNode := ⟨BoundaryNode.uid⟩

end Symulator.Engine
