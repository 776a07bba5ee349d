import Symulator.Engine.EngineSnapshot
import Symulator.Server.DispatchBus

/-! # Serialised snapshots

A client that reconnects is sent the latest snapshot as the FlatBuffers tables of `snapshot.fbs`. The tables
carry the runtime state of the devices, the active routes and alarms, and the trains; a scalar or a table
that is not written reads as its default.
-/

namespace Symulator.Server

open Symulator.Library Symulator.Engine

set_option autoImplicit false

namespace Proto

structure OperatorCommandRuntimeState where
  stopped : Bool := false
  substituteInitialized : Bool := false
  substituteActive : Bool := false
  automaticRouteEnabled : Bool := false
  clamped : Bool := false
  trafficClosed : Bool := false
  detectionBypassed : Bool := false
  specialInitialized : Bool := false
  specialActive : Bool := false
  axleResetInitialized : Bool := false
  ml8CommandActive : Bool := false
  ml8CommandCode : Nat := 0

structure SwitchState where
  uid : UID
  position : Nat := 0
  occupied : Bool := false
  axleCount : Int := 0
  trainUid : UID := {}
  lockedByRoute : Bool := false
  operatorState : Option OperatorCommandRuntimeState := none

structure TrackSectionState where
  uid : UID
  occupied : Bool := false
  axleCount : Int := 0
  trainUid : UID := {}
  operatorState : Option OperatorCommandRuntimeState := none

structure SignalState where
  uid : UID
  aspect : Nat := 0
  operatorState : Option OperatorCommandRuntimeState := none

structure DerailerState where
  uid : UID
  position : Nat := 0
  operatorState : Option OperatorCommandRuntimeState := none

structure BlockSectionSnapshotState where
  uid : UID
  state : Nat := 0
  blockDirection : Nat := 0
  operatorState : Option OperatorCommandRuntimeState := none

structure RouteState where
  uid : UID
  fromSignalUid : UID := {}
  toSignalUid : UID := {}
  sectionUids : List UID := []

structure AlarmState where
  uid : UID
  alarmType : Nat := 0
  objectUid : UID := {}
  message : String := ""

structure TrainState where
  uid : UID
  vehicleUids : List UID := []
  sectionUid : UID := {}
  direction : Int := 0
  speedKmh : Rat := 0
  totalLengthM : Rat := 0
  totalAxles : Int := 0

structure Snapshot where
  schemaVersion : Nat := 0
  sessionId : String
  seqCursor : BitVec 32 := 0
  timestampUs : Nat := 0
  switches : List SwitchState := []
  trackSections : List TrackSectionState := []
  signals : List SignalState := []
  derailers : List DerailerState := []
  blockSections : List BlockSectionSnapshotState := []
  activeRoutes : List RouteState := []
  activeAlarms : List AlarmState := []
  trains : List TrainState := []

end Proto

def alarmKindByte (kind : String) : Nat :=
  if kind = "TRACK_OCCUPIED_UNEXPECTEDLY" then 0
  else if kind = "SWITCH_POSITION_MISMATCH" then 1
  else if kind = "SIGNAL_OVERRUN" then 2
  else if kind = "DERAILER_CONFLICT" then 3
  else if kind = "COMMS_FAILURE" then 4
  else if kind = "ENGINE_FAULT" then 5
  else 0

def trainBySection (trains : List TrainSnapshot) (sectionUid : UID) : UID :=
  match trains.find? (fun tr => tr.sectionUid = sectionUid) with
  | some tr => tr.uid
  | none => {}

def serializeSwitch (sw : Switch) : Proto.SwitchState where
  uid := sw.uid
  position := sw.position.ctorIdx
  occupied := sw.occupancy = .occupied
  axleCount := sw.axleCount
  lockedByRoute := sw.lockedByRouteUid.isSome

def serializeTrackSection (trains : List TrainSnapshot) (ts : TrackSection) : Proto.TrackSectionState where
  uid := ts.uid
  occupied := ts.occupancy = .occupied
  axleCount := ts.axleCount
  trainUid := trainBySection trains ts.uid

def serializeSignal (sig : Signal) : Proto.SignalState where
  uid := sig.uid
  aspect := sig.currentAspect.ctorIdx

def serializeDerailer (d : Derailer) : Proto.DerailerState where
  uid := d.uid
  position := d.state.ctorIdx

def serializeBlockSection (bs : BlockSection) : Proto.BlockSectionSnapshotState where
  uid := bs.uid
  state := toProtoBlockSection bs.state
  blockDirection := bs.direction.ctorIdx

def serializeRoute (rt : RouteState) : Proto.RouteState where
  uid := rt.uid
  fromSignalUid := rt.fromSignalUid
  toSignalUid := rt.toSignalUid
  sectionUids := rt.sectionUids

def serializeAlarm (al : AlarmState) : Proto.AlarmState where
  uid := al.uid
  alarmType := alarmKindByte al.kind
  objectUid := al.objectUid
  message := al.message

def serializeTrain (tr : TrainSnapshot) : Proto.TrainState where
  uid := tr.uid
  vehicleUids := tr.vehicleUids
  sectionUid := tr.sectionUid
  speedKmh := tr.speedKmh
  totalLengthM := tr.totalLengthM
  totalAxles := tr.totalAxles

/-- The operator states have a place in the device tables and are not written there. -/
def serialize (snap : EngineSnapshot) : Proto.Snapshot where
  schemaVersion := 1
  sessionId := snap.session
  seqCursor := BitVec.ofNat 32 snap.tick
  switches := snap.switches.values.map serializeSwitch
  trackSections := snap.trackSections.values.map (serializeTrackSection snap.trains)
  signals := snap.signals.values.map serializeSignal
  derailers := snap.derailers.values.map serializeDerailer
  blockSections := snap.blockSections.values.map serializeBlockSection
  activeRoutes := snap.routes.values.map serializeRoute
  activeAlarms := snap.alarms.values.map serializeAlarm
  trains := snap.trains.map serializeTrain

/-! ## What a client sees

The order of the device tables is the iteration order of a hash map, so a client reads them as sets.
-/

/-- Tables a client cannot tell apart. -/
structure Proto.Snapshot.SameRecords (a b : Proto.Snapshot) : Prop where
  switches : a.switches.Perm b.switches
  trackSections : a.trackSections.Perm b.trackSections
  signals : a.signals.Perm b.signals
  derailers : a.derailers.Perm b.derailers
  blockSections : a.blockSections.Perm b.blockSections
  activeRoutes : a.activeRoutes.Perm b.activeRoutes
  activeAlarms : a.activeAlarms.Perm b.activeAlarms
  trains : a.trains.Perm b.trains

theorem Proto.Snapshot.SameRecords.refl (a : Proto.Snapshot) : a.SameRecords a := by
  constructor
  all_goals exact List.Perm.refl _

/-- Snapshots of the same devices in the same states, with the same routes, alarms and trains, each of them compared in
full. -/
structure SameVisible (s t : EngineSnapshot) : Prop where
  switches : ∀ uid, (s.switches.find uid).map (fun sw =>
      (sw.position, sw.occupancy, sw.axleCount, sw.operatorState)) =
    (t.switches.find uid).map fun sw => (sw.position, sw.occupancy, sw.axleCount, sw.operatorState)
  trackSections : ∀ uid, (s.trackSections.find uid).map (fun ts => (ts.occupancy, ts.axleCount, ts.operatorState)) =
    (t.trackSections.find uid).map fun ts => (ts.occupancy, ts.axleCount, ts.operatorState)
  signals : ∀ uid, (s.signals.find uid).map (fun sig => (sig.currentAspect, sig.operatorState)) =
    (t.signals.find uid).map fun sig => (sig.currentAspect, sig.operatorState)
  derailers : ∀ uid, (s.derailers.find uid).map (fun d => (d.state, d.operatorState)) =
    (t.derailers.find uid).map fun d => (d.state, d.operatorState)
  blockSections : ∀ uid, (s.blockSections.find uid).map (fun bs =>
      (bs.state, bs.direction, bs.axleCount, bs.operatorState)) =
    (t.blockSections.find uid).map fun bs => (bs.state, bs.direction, bs.axleCount, bs.operatorState)
  routes : ∀ uid, s.routes.find uid = t.routes.find uid
  alarms : ∀ uid, s.alarms.find uid = t.alarms.find uid
  trains : s.trains.Perm t.trains

/-- Snapshots that agree on everything that is written. -/
structure SameWritten (s t : EngineSnapshot) : Prop where
  switches : ∀ uid, (s.switches.find uid).map (fun sw =>
      (sw.position, sw.occupancy, sw.axleCount, sw.lockedByRouteUid.isSome)) =
    (t.switches.find uid).map fun sw => (sw.position, sw.occupancy, sw.axleCount, sw.lockedByRouteUid.isSome)
  trackSections : ∀ uid, (s.trackSections.find uid).map (fun ts =>
      (ts.occupancy, ts.axleCount, trainBySection s.trains ts.uid)) =
    (t.trackSections.find uid).map fun ts => (ts.occupancy, ts.axleCount, trainBySection t.trains ts.uid)
  signals : ∀ uid, (s.signals.find uid).map Signal.currentAspect = (t.signals.find uid).map Signal.currentAspect
  derailers : ∀ uid, (s.derailers.find uid).map Derailer.state = (t.derailers.find uid).map Derailer.state
  blockSections : ∀ uid, (s.blockSections.find uid).map (fun bs => (bs.state, bs.direction)) =
    (t.blockSections.find uid).map fun bs => (bs.state, bs.direction)
  routes : ∀ uid, (s.routes.find uid).map (fun rt => (rt.fromSignalUid, rt.toSignalUid, rt.sectionUids)) =
    (t.routes.find uid).map fun rt => (rt.fromSignalUid, rt.toSignalUid, rt.sectionUids)
  alarms : ∀ uid, (s.alarms.find uid).map (fun al => (alarmKindByte al.kind, al.objectUid, al.message)) =
    (t.alarms.find uid).map fun al => (alarmKindByte al.kind, al.objectUid, al.message)
  trains : s.trains.Perm t.trains

/-- What a route holds beyond what is written of it. -/
def routeInterior (rt : RouteState) : List UID × List UID × Nat × Bool × Option Nat :=
  (rt.switchUids, rt.derailerUids, rt.createdTick, rt.trainEntered, rt.overlapReleaseTick)

/-- Snapshots that agree on what is not written: the operator states, the axles counted in block sections, what a route
holds beyond its signals and sections, and the kinds and times of the alarms. -/
structure SameUnwritten (s t : EngineSnapshot) : Prop where
  switches : ∀ uid sw sw', s.switches.find uid = some sw → t.switches.find uid = some sw' →
    sw.operatorState = sw'.operatorState
  trackSections : ∀ uid ts ts', s.trackSections.find uid = some ts → t.trackSections.find uid = some ts' →
    ts.operatorState = ts'.operatorState
  signals : ∀ uid sig sig', s.signals.find uid = some sig → t.signals.find uid = some sig' →
    sig.operatorState = sig'.operatorState
  derailers : ∀ uid d d', s.derailers.find uid = some d → t.derailers.find uid = some d' →
    d.operatorState = d'.operatorState
  blockSections : ∀ uid bs bs', s.blockSections.find uid = some bs → t.blockSections.find uid = some bs' →
    (bs.axleCount, bs.operatorState) = (bs'.axleCount, bs'.operatorState)
  routes : ∀ uid rt rt', s.routes.find uid = some rt → t.routes.find uid = some rt' →
    routeInterior rt = routeInterior rt'
  alarms : ∀ uid al al', s.alarms.find uid = some al → t.alarms.find uid = some al' →
    (al.kind, al.timestampUs) = (al'.kind, al'.timestampUs)

/-! ## What is written -/

theorem serializeTrain_injective : Function.Injective serializeTrain := by
  rintro ⟨⟩ ⟨⟩ h
  simp only [serializeTrain, Proto.TrainState.mk.injEq] at h
  simp only [TrainSnapshot.mk.injEq]
  tauto

theorem occupied_inj {o o' : TrackOccupancy} : (o = .occupied ↔ o' = .occupied) ↔ o = o' := by
  cases o <;> cases o' <;> simp

theorem toProtoBlockSection_inj {b b' : BlockSectionState} :
    toProtoBlockSection b = toProtoBlockSection b' ↔ b = b' := by
  cases b <;> cases b' <;> simp [toProtoBlockSection]

theorem switchPosition_inj {p p' : SwitchPosition} : p.ctorIdx = p'.ctorIdx ↔ p = p' :=
  (Function.LeftInverse.injective SwitchPosition.ofNat_ctorIdx).eq_iff

theorem signalAspect_inj {a a' : SignalAspect} : a.ctorIdx = a'.ctorIdx ↔ a = a' :=
  (Function.LeftInverse.injective SignalAspect.ofNat_ctorIdx).eq_iff

theorem derailerState_inj {d d' : DerailerState} : d.ctorIdx = d'.ctorIdx ↔ d = d' :=
  (Function.LeftInverse.injective DerailerState.ofNat_ctorIdx).eq_iff

theorem blockDirection_inj {d d' : BlockDirectionState} : d.ctorIdx = d'.ctorIdx ↔ d = d' :=
  (Function.LeftInverse.injective BlockDirectionState.ofNat_ctorIdx).eq_iff

/-- The tables are the same to a client when the snapshots agree on what is written. -/
theorem sameRecords_serialize {s t : EngineSnapshot} : (serialize s).SameRecords (serialize t) ↔ SameWritten s t := by
  have hSwitches := @KeyedMap.perm_values_iff UID Switch _ _ _ _ s.switches t.switches serializeSwitch serializeSwitch
    Proto.SwitchState.uid (fun sw => (sw.position, sw.occupancy, sw.axleCount, sw.lockedByRouteUid.isSome))
    (fun sw => (sw.position, sw.occupancy, sw.axleCount, sw.lockedByRouteUid.isSome)) (fun _ => rfl) (fun _ => rfl)
    fun sw sw' (hUid : sw.uid = sw'.uid) => by
      simp [serializeSwitch, hUid, switchPosition_inj, occupied_inj]
  have hSections := @KeyedMap.perm_values_iff UID TrackSection _ _ _ _ s.trackSections t.trackSections
    (serializeTrackSection s.trains) (serializeTrackSection t.trains) Proto.TrackSectionState.uid
    (fun ts => (ts.occupancy, ts.axleCount, trainBySection s.trains ts.uid))
    (fun ts => (ts.occupancy, ts.axleCount, trainBySection t.trains ts.uid)) (fun _ => rfl) (fun _ => rfl)
    fun ts ts' (hUid : ts.uid = ts'.uid) => by simp [serializeTrackSection, hUid, occupied_inj]
  have hSignals := @KeyedMap.perm_values_iff UID Signal _ _ _ _ s.signals t.signals serializeSignal serializeSignal
    Proto.SignalState.uid Signal.currentAspect Signal.currentAspect (fun _ => rfl) (fun _ => rfl)
    fun sig sig' (hUid : sig.uid = sig'.uid) => by simp [serializeSignal, hUid, signalAspect_inj]
  have hDerailers := @KeyedMap.perm_values_iff UID Derailer _ _ _ _ s.derailers t.derailers serializeDerailer
    serializeDerailer Proto.DerailerState.uid Derailer.state Derailer.state (fun _ => rfl) (fun _ => rfl)
    fun d d' (hUid : d.uid = d'.uid) => by simp [serializeDerailer, hUid, derailerState_inj]
  have hBlocks := @KeyedMap.perm_values_iff UID BlockSection _ _ _ _ s.blockSections t.blockSections
    serializeBlockSection serializeBlockSection Proto.BlockSectionSnapshotState.uid
    (fun bs => (bs.state, bs.direction)) (fun bs => (bs.state, bs.direction)) (fun _ => rfl) (fun _ => rfl)
    fun bs bs' (hUid : bs.uid = bs'.uid) => by
      simp [serializeBlockSection, hUid, toProtoBlockSection_inj, blockDirection_inj]
  have hRoutes := @KeyedMap.perm_values_iff UID RouteState _ _ _ _ s.routes t.routes serializeRoute serializeRoute
    Proto.RouteState.uid (fun rt => (rt.fromSignalUid, rt.toSignalUid, rt.sectionUids))
    (fun rt => (rt.fromSignalUid, rt.toSignalUid, rt.sectionUids)) (fun _ => rfl) (fun _ => rfl)
    fun rt rt' (hUid : rt.uid = rt'.uid) => by simp [serializeRoute, hUid]
  have hAlarms := @KeyedMap.perm_values_iff UID AlarmState _ _ _ _ s.alarms t.alarms serializeAlarm serializeAlarm
    Proto.AlarmState.uid (fun al => (alarmKindByte al.kind, al.objectUid, al.message))
    (fun al => (alarmKindByte al.kind, al.objectUid, al.message)) (fun _ => rfl) (fun _ => rfl)
    fun al al' (hUid : al.uid = al'.uid) => by simp [serializeAlarm, hUid]
  have hTrains := @List.map_perm_map_iff _ _ s.trains t.trains serializeTrain serializeTrain_injective
  constructor
  · intro h
    exact ⟨hSwitches.mp h.switches, hSections.mp h.trackSections, hSignals.mp h.signals, hDerailers.mp h.derailers,
      hBlocks.mp h.blockSections, hRoutes.mp h.activeRoutes, hAlarms.mp h.activeAlarms, hTrains.mp h.trains⟩
  · intro h
    exact ⟨hSwitches.mpr h.switches, hSections.mpr h.trackSections, hSignals.mpr h.signals, hDerailers.mpr h.derailers,
      hBlocks.mpr h.blockSections, hRoutes.mpr h.routes, hAlarms.mpr h.alarms, hTrains.mpr h.trains⟩

theorem SameWritten.sameVisible_iff {s t : EngineSnapshot} (h : SameWritten s t) :
    SameVisible s t ↔ SameUnwritten s t := by
  have hSwitches := KeyedMap.map_find_eq_iff_rest
    (fun sw : Switch => (sw.position, sw.occupancy, sw.axleCount, sw.operatorState)) Switch.operatorState h.switches
    fun sw sw' _ hWritten => by
      simp only [Prod.mk.injEq] at hWritten
      simp [hWritten]
  have hSections := KeyedMap.map_find_eq_iff_rest
    (fun ts : TrackSection => (ts.occupancy, ts.axleCount, ts.operatorState)) TrackSection.operatorState
    h.trackSections fun ts ts' _ hWritten => by
      simp only [Prod.mk.injEq] at hWritten
      simp [hWritten]
  have hSignals := KeyedMap.map_find_eq_iff_rest
    (fun sig : Signal => (sig.currentAspect, sig.operatorState)) Signal.operatorState h.signals
    fun sig sig' _ hWritten => by simp [hWritten]
  have hDerailers := KeyedMap.map_find_eq_iff_rest
    (fun d : Derailer => (d.state, d.operatorState)) Derailer.operatorState h.derailers
    fun d d' _ hWritten => by simp [hWritten]
  have hBlocks := KeyedMap.map_find_eq_iff_rest
    (fun bs : BlockSection => (bs.state, bs.direction, bs.axleCount, bs.operatorState))
    (fun bs : BlockSection => (bs.axleCount, bs.operatorState)) h.blockSections fun bs bs' _ hWritten => by
      simp only [Prod.mk.injEq] at hWritten
      simp [hWritten]
  have hRoutes := KeyedMap.map_find_eq_iff_rest id routeInterior h.routes
    fun rt rt' (hUid : rt.uid = rt'.uid) hWritten => by
    cases rt
    cases rt'
    simp only [Prod.mk.injEq] at hUid hWritten
    simp [routeInterior, hUid, hWritten]
  have hAlarms := KeyedMap.map_find_eq_iff_rest id (fun al : AlarmState => (al.kind, al.timestampUs)) h.alarms
    fun al al' (hUid : al.uid = al'.uid) hWritten => by
      cases al
      cases al'
      simp only [Prod.mk.injEq] at hUid hWritten
      simp [hUid, hWritten]
  simp only [Option.map_id, id] at hRoutes hAlarms
  constructor
  · intro hVisible
    exact ⟨hSwitches.mp hVisible.switches, hSections.mp hVisible.trackSections, hSignals.mp hVisible.signals,
      hDerailers.mp hVisible.derailers, hBlocks.mp hVisible.blockSections, hRoutes.mp hVisible.routes,
      hAlarms.mp hVisible.alarms⟩
  · intro hRest
    exact ⟨hSwitches.mpr hRest.switches, hSections.mpr hRest.trackSections, hSignals.mpr hRest.signals,
      hDerailers.mpr hRest.derailers, hBlocks.mpr hRest.blockSections, hRoutes.mpr hRest.routes,
      hAlarms.mpr hRest.alarms, h.trains⟩

/-- The two ways an alarm type is found agree on all but four kinds. -/
theorem alarmKindByte_eq_iff (kind : String) : alarmKindByte kind = eventAlarmType kind ↔
    kind ∉ ["SWITCH_POSITION_MISMATCH", "SIGNAL_OVERRUN", "SWITCH_FAILURE", "SIGNAL_FAILURE"] := by
  by_cases hKnown : kind ∈ ["SWITCH_POSITION_MISMATCH", "SIGNAL_OVERRUN", "SWITCH_FAILURE", "SIGNAL_FAILURE",
      "DERAILER_CONFLICT", "COMMS_FAILURE", "ENGINE_FAULT"]
  · simp only [List.mem_cons, List.not_mem_nil, or_false] at hKnown
    rcases hKnown with rfl | rfl | rfl | rfl | rfl | rfl | rfl
    all_goals decide
  · simp only [List.mem_cons, List.not_mem_nil, or_false, not_or] at hKnown
    simp [alarmKindByte, eventAlarmType, hKnown]

/-- Of two snapshots that look different the client is sent different tables, and told the type of every
alarm as the event told it. -/
def ToldApart (s t : EngineSnapshot) : Prop :=
  (¬ SameVisible s t → ¬ (serialize s).SameRecords (serialize t)) ∧
    ∀ al ∈ s.alarms.values ++ t.alarms.values, makeEvent (.alarmRaised al) =
      some (.alarmRaised al.uid (serializeAlarm al).alarmType al.objectUid al.message)

/-- The tables of two snapshots tell them apart when they do not differ in what is not written alone, and no
alarm is of a kind that its event names otherwise. -/
theorem toldApart_iff (s t : EngineSnapshot) : ToldApart s t ↔
    (SameWritten s t → SameUnwritten s t) ∧ ∀ al ∈ s.alarms.values ++ t.alarms.values,
      al.kind ∉ ["SWITCH_POSITION_MISMATCH", "SIGNAL_OVERRUN", "SWITCH_FAILURE", "SIGNAL_FAILURE"] := by
  refine and_congr ?_ (forall₂_congr fun al _ => ?_)
  · rw [sameRecords_serialize, not_imp_not]
    exact imp_congr_right fun h => h.sameVisible_iff
  · rw [← alarmKindByte_eq_iff]
    simp [makeEvent, serializeAlarm, eq_comm]

/-- A section with its operator state set is sent as one without. -/
theorem closedSection_sentOpen : ¬ ∀ s t : EngineSnapshot, ToldApart s t := by
  intro h
  let closed : EngineSnapshot :=
    { trackSections := KeyedMap.empty.emplace { uid := ⟨1⟩, operatorState := { trafficClosed := true } } }
  let opened : EngineSnapshot := { trackSections := KeyedMap.empty.emplace { uid := ⟨1⟩ } }
  have hDiffer : ¬ SameVisible closed opened := by
    intro hSame
    have hAt := congrArg (Option.map fun x => x.2.2.trafficClosed) (hSame.trackSections ⟨1⟩)
    revert hAt
    decide
  have hSent : serialize closed = serialize opened := rfl
  refine (h closed opened).1 hDiffer ?_
  rw [hSent]
  exact Proto.Snapshot.SameRecords.refl _

end Symulator.Server
