import Symulator.Library.KeyedMap

/-! # Track layouts

The geometry of a schematic: tracks, switches and signals with the points they are drawn at, over any type of numbers
with the operations that the code has for doubles. Nothing is assumed of those operations.
-/

namespace Symulator.Trackview

open Symulator.Library

set_option autoImplicit false

universe u

/-- What the code asks of doubles beyond arithmetic and comparison. -/
class Floating (α : Type u) where
  hypot : α → α → α
  isFinite : α → Bool

inductive Thrown
  | invalidArgument (what : String)
  | logicError (what : String)
  | runtimeError (what : String)
deriving DecidableEq

structure InfrastructureId where
  value : UInt64 := 0
deriving DecidableEq

structure Point (α : Type u) where
  x : α
  y : α
deriving DecidableEq

abbrev Path (α : Type u) := List (Point α)

structure Canvas (α : Type u) where
  width : α
  height : α

structure TrackSectionGeometry (α : Type u) where
  topologyId : InfrastructureId
  path : Path α

structure SwitchPorts (α : Type u) where
  trunk : Point α
  straight : Point α
  divergent : Point α

structure SwitchGeometry (α : Type u) where
  topologyId : InfrastructureId
  ports : SwitchPorts α

inductive TrackSide
  | a | b
deriving DecidableEq

inductive FacingDirection
  | towardsA | towardsB
deriving DecidableEq

structure TrackAttachment (α : Type u) where
  trackId : InfrastructureId
  referenceSide : TrackSide := .a
  offset : α
  lateral : α

structure SignalGeometry (α : Type u) where
  objectId : InfrastructureId
  attachment : TrackAttachment α
  facing : FacingDirection := .towardsB

structure LabelGeometry (α : Type u) where
  text : String
  anchor : Point α

inductive TrackLayoutElement (α : Type u)
  | track (geometry : TrackSectionGeometry α)
  | switch (geometry : SwitchGeometry α)
  | signal (geometry : SignalGeometry α)

structure TrackLayout (α : Type u) where
  schemaVersion : Int := 1
  layoutId : String
  stationSid : String
  canvas : Canvas α
  elements : List (TrackLayoutElement α)
  labels : List (LabelGeometry α)

instance (α : Type u) : Keyed InfrastructureId (TrackSectionGeometry α) := ⟨TrackSectionGeometry.topologyId⟩

section Elements

variable {α : Type u}

def TrackLayoutElement.track? : TrackLayoutElement α → Option (TrackSectionGeometry α)
  | .track geometry => some geometry
  | _ => none

def TrackLayoutElement.switch? : TrackLayoutElement α → Option (SwitchGeometry α)
  | .switch geometry => some geometry
  | _ => none

def TrackLayoutElement.signal? : TrackLayoutElement α → Option (SignalGeometry α)
  | .signal geometry => some geometry
  | _ => none

namespace TrackLayout

def tracks (layout : TrackLayout α) : List (TrackSectionGeometry α) := layout.elements.filterMap (·.track?)

def switches (layout : TrackLayout α) : List (SwitchGeometry α) := layout.elements.filterMap (·.switch?)

def signals (layout : TrackLayout α) : List (SignalGeometry α) := layout.elements.filterMap (·.signal?)

end TrackLayout

end Elements

/-! ## What is known and what is running -/

structure InfrastructureCatalog where
  containsTrack : InfrastructureId → Bool
  containsSwitch : InfrastructureId → Bool
  containsSignal : InfrastructureId → Bool
  signalGovernsTrack : InfrastructureId → InfrastructureId → Bool

inductive OccupancyState
  | free | occupied
deriving DecidableEq

inductive SwitchPositionState
  | straight | divergent | moving
deriving DecidableEq

inductive SignalIndicationState
  | stop | proceed
deriving DecidableEq

structure TrackRuntimeState where
  occupancy : OccupancyState := .free

structure SwitchRuntimeState where
  occupancy : OccupancyState := .free
  position : SwitchPositionState := .straight

structure SignalRuntimeState where
  indication : SignalIndicationState := .stop

structure TrackviewState where
  trackState : InfrastructureId → Option TrackRuntimeState
  switchState : InfrastructureId → Option SwitchRuntimeState
  signalState : InfrastructureId → Option SignalRuntimeState

/-- The state has an entry for everything that the catalogue lists. -/
structure TrackviewState.Covers (state : TrackviewState) (catalog : InfrastructureCatalog) : Prop where
  tracks : ∀ id, catalog.containsTrack id = true → (state.trackState id).isSome = true
  switches : ∀ id, catalog.containsSwitch id = true → (state.switchState id).isSome = true
  signals : ∀ id, catalog.containsSignal id = true → (state.signalState id).isSome = true

/-! ## What is drawn -/

structure RenderTrack (α : Type u) where
  id : InfrastructureId
  path : Path α
  state : TrackRuntimeState

structure RenderSwitch (α : Type u) where
  id : InfrastructureId
  ports : SwitchPorts α
  state : SwitchRuntimeState

structure RenderSignal (α : Type u) where
  id : InfrastructureId
  position : Point α
  facing : FacingDirection
  state : SignalRuntimeState

structure RenderModel (α : Type u) where
  canvas : Canvas α
  tracks : List (RenderTrack α) := []
  switches : List (RenderSwitch α) := []
  signalItems : List (RenderSignal α) := []
  labels : List (LabelGeometry α)

end Symulator.Trackview
