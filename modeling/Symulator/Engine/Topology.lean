import Symulator.Engine.StateApplier

/-! # The topology under the runtime state

Neighbours, governed and guarded sections are set at load time. They form the part of a state that
the route search reads, and no change writes to it.
-/

namespace Symulator.Engine

open Symulator.Library

set_option autoImplicit false

structure SectionTopology where
  uid : UID
  sideA : UID
  sideB : UID
deriving DecidableEq

structure SwitchTopology where
  uid : UID
  trunk : UID
  straight : UID
  divergent : UID
deriving DecidableEq

structure SignalTopology where
  uid : UID
  governs : UID
deriving DecidableEq

structure DerailerTopology where
  uid : UID
  guards : UID
deriving DecidableEq

def TrackSection.topology (ts : TrackSection) : SectionTopology :=
  ⟨ts.uid, ts.sideA.neighborUid, ts.sideB.neighborUid⟩

def Switch.topology (sw : Switch) : SwitchTopology :=
  ⟨sw.uid, sw.trunk.neighborUid, sw.straight.neighborUid, sw.divergent.neighborUid⟩

def Signal.topology (sig : Signal) : SignalTopology := ⟨sig.uid, sig.governsSectionUid⟩

def Derailer.topology (d : Derailer) : DerailerTopology := ⟨d.uid, d.guardsSectionUid⟩

structure Topology where
  sections : List SectionTopology
  switches : List SwitchTopology
  signals : List SignalTopology
  derailers : List DerailerTopology

def EngineState.topology (s : EngineState) : Topology where
  sections := s.trackSections.values.map TrackSection.topology
  switches := s.switches.values.map Switch.topology
  signals := s.signals.values.map Signal.topology
  derailers := s.derailers.values.map Derailer.topology

section Modify

variable (s : EngineState) (uid : UID)

theorem topology_modifySections (f : TrackSection → TrackSection) (hf : ∀ ts, (f ts).uid = ts.uid)
    (h : ∀ ts, (f ts).topology = ts.topology) :
    { s with trackSections := s.trackSections.modify uid f hf }.topology = s.topology := by
  simp only [EngineState.topology]
  rw [KeyedMap.map_values_modify _ _ _ hf _ h]

theorem topology_modifySwitches (f : Switch → Switch) (hf : ∀ sw, (f sw).uid = sw.uid)
    (h : ∀ sw, (f sw).topology = sw.topology) :
    { s with switches := s.switches.modify uid f hf }.topology = s.topology := by
  simp only [EngineState.topology]
  rw [KeyedMap.map_values_modify _ _ _ hf _ h]

theorem topology_modifySignals (f : Signal → Signal) (hf : ∀ sig, (f sig).uid = sig.uid)
    (h : ∀ sig, (f sig).topology = sig.topology) :
    { s with signals := s.signals.modify uid f hf }.topology = s.topology := by
  simp only [EngineState.topology]
  rw [KeyedMap.map_values_modify _ _ _ hf _ h]

theorem topology_modifyDerailers (f : Derailer → Derailer) (hf : ∀ d, (f d).uid = d.uid)
    (h : ∀ d, (f d).topology = d.topology) :
    { s with derailers := s.derailers.modify uid f hf }.topology = s.topology := by
  simp only [EngineState.topology]
  rw [KeyedMap.map_values_modify _ _ _ hf _ h]

end Modify

@[simp] theorem topology_applyTrackSectionOccupancy (s : EngineState) (uid : UID) (occ : TrackOccupancy)
    (axleCount : Int) : (s.applyTrackSectionOccupancy uid occ axleCount).topology = s.topology :=
  topology_modifySections s uid _ _ (fun _ => rfl)

theorem topology_applySignalLock (s : EngineState) (uid : UID) (routeUid : Option UID) :
    (s.applySignalLock uid routeUid).topology = s.topology :=
  topology_modifySignals s uid _ _ (fun _ => rfl)

theorem topology_applySignalAspect (s : EngineState) (uid : UID) (aspect : SignalAspect) :
    (s.applySignalAspect uid aspect).topology = s.topology :=
  topology_modifySignals s uid _ _ (fun _ => rfl)

theorem topology_applyDerailerLock (s : EngineState) (uid : UID) (routeUid : Option UID) :
    (s.applyDerailerLock uid routeUid).topology = s.topology :=
  topology_modifyDerailers s uid _ _ (fun _ => rfl)

theorem topology_applyDerailerState (s : EngineState) (uid : UID) (state : DerailerState) :
    (s.applyDerailerState uid state).topology = s.topology :=
  topology_modifyDerailers s uid _ _ (fun _ => rfl)

theorem topology_modifyOperatorState (s : EngineState) (uid : UID) (kind : OperatorTargetKind)
    (f : OperatorCommandRuntimeState → OperatorCommandRuntimeState) :
    (s.modifyOperatorState uid kind f).topology = s.topology := by
  cases kind
  case signal => exact topology_modifySignals s uid _ _ (fun _ => rfl)
  case switch =>
    simp only [EngineState.modifyOperatorState]
    split
    · exact topology_modifySwitches s uid _ _ (fun _ => rfl)
    · exact topology_modifyDerailers s uid _ _ (fun _ => rfl)
  case derailer => exact topology_modifyDerailers s uid _ _ (fun _ => rfl)
  case trackSection => exact topology_modifySections s uid _ _ (fun _ => rfl)
  all_goals rfl

@[simp] theorem topology_apply (s : EngineState) (c : DeviceStateChange) :
    (apply s c).topology = s.topology := by
  cases c
  case operatorCommandStateChange | ml8CommandStateChange => exact topology_modifyOperatorState _ _ _ _
  case signalAspectChange uid aspect _ routeUid =>
    have hAspect := topology_applySignalAspect s uid aspect
    simp only [apply]
    split
    · rw [topology_applySignalLock, hAspect]
    · split
      · rw [topology_applySignalLock, hAspect]
      · exact hAspect
  case derailerStateChange uid state _ routeUid =>
    have hState := topology_applyDerailerState s uid state
    simp only [apply]
    split
    · rw [topology_applyDerailerLock, hState]
    · split
      · rw [topology_applyDerailerLock, hState]
      · exact hState
  case axleCounterResetChange uid kind =>
    cases kind
    case switch => exact topology_modifySwitches s uid _ _ (fun _ => rfl)
    case trackSection => exact topology_modifySections s uid _ _ (fun _ => rfl)
    all_goals rfl
  case trackSectionOccupancyChange uid _ _ _ => exact topology_modifySections s uid _ _ (fun _ => rfl)
  case switchPositionChange uid _ _ _ | switchLocked uid _ | switchUnlocked uid _
      | switchControlStateChange uid _ =>
    exact topology_modifySwitches s uid _ _ (fun _ => rfl)
  all_goals rfl

@[simp] theorem topology_applyAll (s : EngineState) (cs : List DeviceStateChange) :
    (applyAll s cs).topology = s.topology := by
  induction cs generalizing s with
  | nil => rfl
  | cons c cs ih => rw [applyAll_cons, ih, topology_apply]

/-! ## Lookups through the topology -/

section SameTopology

variable {s t : EngineState} (h : s.topology = t.topology)

include h

theorem findTrackSection_topology (uid : UID) :
    (s.findTrackSection uid).map TrackSection.topology = (t.findTrackSection uid).map TrackSection.topology :=
  KeyedMap.map_find_congr SectionTopology.uid (fun _ => rfl) (congrArg Topology.sections h) uid

theorem findSwitch_topology (uid : UID) :
    (s.findSwitch uid).map Switch.topology = (t.findSwitch uid).map Switch.topology :=
  KeyedMap.map_find_congr SwitchTopology.uid (fun _ => rfl) (congrArg Topology.switches h) uid

theorem findSignal_topology (uid : UID) :
    (s.findSignal uid).map Signal.topology = (t.findSignal uid).map Signal.topology :=
  KeyedMap.map_find_congr SignalTopology.uid (fun _ => rfl) (congrArg Topology.signals h) uid

theorem findDerailer_topology (uid : UID) :
    (s.findDerailer uid).map Derailer.topology = (t.findDerailer uid).map Derailer.topology :=
  KeyedMap.map_find_congr DerailerTopology.uid (fun _ => rfl) (congrArg Topology.derailers h) uid

theorem isSome_findTrackSection (uid : UID) :
    (s.findTrackSection uid).isSome = (t.findTrackSection uid).isSome := by
  have := congrArg Option.isSome (findTrackSection_topology h uid)
  rwa [Option.isSome_map, Option.isSome_map] at this

theorem isSome_findSwitch (uid : UID) : (s.findSwitch uid).isSome = (t.findSwitch uid).isSome := by
  have := congrArg Option.isSome (findSwitch_topology h uid)
  rwa [Option.isSome_map, Option.isSome_map] at this

theorem isSome_findSignal (uid : UID) : (s.findSignal uid).isSome = (t.findSignal uid).isSome := by
  have := congrArg Option.isSome (findSignal_topology h uid)
  rwa [Option.isSome_map, Option.isSome_map] at this

theorem isSome_findDerailer (uid : UID) : (s.findDerailer uid).isSome = (t.findDerailer uid).isSome := by
  have := congrArg Option.isSome (findDerailer_topology h uid)
  rwa [Option.isSome_map, Option.isSome_map] at this

end SameTopology

end Symulator.Engine
