import Symulator.Engine.EngineState
import Symulator.Library.Runs

/-! # Loading scenarios

The loader reads JSON documents; here a document is the record of the fields it reads, each with
what the JSON value held. UID fields keep the difference between an absent field and one that is
not an unsigned number, and optional fields are filled with the loader's defaults.
-/

namespace Symulator.Engine

open Symulator.Library

set_option autoImplicit false

inductive UidField
  | missing
  | invalid
  | unsigned (value : Nat)

def UidField.isPresent : UidField → Bool
  | .missing => false
  | .invalid | .unsigned _ => true

def requireUidField (field : UidField) (key path : String) : Except String UID :=
  match field with
  | .unsigned value => .ok ⟨value⟩
  | .missing | .invalid =>
    .error ("topology_loader: missing or invalid UID field '" ++ key ++ "' in " ++ path)

def stationUidFromObjectUid (objUid : UID) : UID :=
  makeUid .infrastructure .station (uidScope objUid) 1

structure TrackPortDoc where
  neighborUid : UidField
  itUid : UidField := .missing
  izUid : UidField := .missing
  signalUids : List Nat := []

structure SwitchLegDoc where
  neighborUid : UidField
  izUid : UidField := .missing
  signalUids : List Nat := []

structure BoundaryNodeDoc where
  uid : UidField
  pid : String := ""
  description : Option String := none

structure TrackSectionDoc where
  uid : UidField
  pid : String := ""
  sideA : TrackPortDoc
  sideB : TrackPortDoc
  lengthM : Option Rat := none
  electrified : Option Bool := none
  maxSpeedKmh : Option Int := none
  occupied : Option Bool := none
  stationSection : Option Bool := none

structure SwitchDoc where
  uid : UidField
  pid : String := ""
  typeId : Option String := none
  trunk : SwitchLegDoc
  straight : SwitchLegDoc
  divergent : SwitchLegDoc
  lengthM : Option Rat := none
  maxSpeedStraightKmh : Option Int := none
  maxSpeedDivergentKmh : Option Int := none

structure BlockSectionDoc where
  uid : UidField
  pid : String := ""
  typeId : Option String := none
  neighborStationUid : UidField
  lineNumber : Option Int := none
  departureSignalUid : UidField
  entrySignalUid : UidField
  szlakSectionUids : List Nat := []
  initialState : Option String := none
  initialDirection : Option String := none

structure SignalDoc where
  uid : UidField
  pid : String := ""
  typeId : Option String := none
  type : String
  governsSection : UidField
  initialAspect : Option String := none

structure DerailerDoc where
  uid : UidField
  pid : String := ""
  typeId : Option String := none
  guardsSection : UidField

structure MetaDoc where
  stationSid : String
  controlSystem : String
  schemaVersion : Option Int := none

structure TopologyDoc where
  boundaryNodes : List BoundaryNodeDoc := []
  trackSections : List TrackSectionDoc := []
  switches : List SwitchDoc := []
  blockSections : List BlockSectionDoc := []

structure ObjectsDoc where
  signals : List SignalDoc := []
  derailers : List DerailerDoc := []

/-- A scenario directory; the objects file is optional. -/
structure ScenarioDir where
  path : String
  metaJson : MetaDoc
  topologyJson : TopologyDoc
  objectsJson : Option ObjectsDoc := none

structure ScenarioMeta where
  stationSid : String
  controlSystemId : String
  schemaVersion : Int

def parseTrackPort (j : TrackPortDoc) (path : String) : Except String TrackPort := do
  let neighborUid ← requireUidField j.neighborUid "neighborUID" path
  let signalUids := j.signalUids.map UID.mk
  if j.itUid.isPresent then
    let counterUid ← requireUidField j.itUid "itUID" path
    return { neighborUid, counterUid, counterKind := .it, signalUids }
  else if j.izUid.isPresent then
    let counterUid ← requireUidField j.izUid "izUID" path
    return { neighborUid, counterUid, counterKind := .iz, signalUids }
  else
    return { neighborUid, signalUids }

def parseSwitchLeg (j : SwitchLegDoc) (path : String) : Except String SwitchLeg := do
  let neighborUid ← requireUidField j.neighborUid "neighborUID" path
  let signalUids := j.signalUids.map UID.mk
  if j.izUid.isPresent then
    let izUid ← requireUidField j.izUid "izUID" path
    return { neighborUid, izUid, signalUids }
  else
    return { neighborUid, signalUids }

def parseSignalType (s : String) : Except String SignalType :=
  if s = "ENTRY" then .ok .entry
  else if s = "DEPARTURE" then .ok .departure
  else if s = "BLOCK" then .ok .block
  else if s = "SHUNTING" then .ok .shunting
  else .error ("topology_loader: unknown signal type '" ++ s ++ "'")

def parseInitialAspect (s : String) : Except String SignalAspect :=
  if s = "STOP" ∨ s = "S1_STOP" then .ok .s1Stop
  else if s = "S2_PROCEED" then .ok .s2Proceed
  else if s = "S3_PROCEED_40" then .ok .s3Proceed40
  else if s = "MS1_STOP" then .ok .ms1Stop
  else if s = "MS2_SHUNTING_ALLOWED" then .ok .ms2ShuntingAllowed
  else .error ("topology_loader: unknown initial_aspect '" ++ s ++ "'")

def parseBlockState (s : String) : Except String BlockSectionState :=
  if s = "CLOSED" then .ok .closed
  else if s = "OPEN" then .ok .open
  else .error ("topology_loader: unknown initialState '" ++ s ++ "'")

def parseBlockDirection (s : String) : Except String BlockDirectionState :=
  if s = "NEUTRAL" then .ok .neutral
  else if s = "OUTBOUND" then .ok .outbound
  else if s = "INBOUND" then .ok .inbound
  else .error ("topology_loader: unknown initialDirection '" ++ s ++ "'")

def loadBoundaryNode (path : String) (state : EngineState) (j : BoundaryNodeDoc) :
    Except String EngineState := do
  let uid ← requireUidField j.uid "uid" path
  return state.insertBoundaryNode
    { uid
      pid := j.pid
      stationUid := stationUidFromObjectUid uid
      description := j.description.getD "" }

def loadTrackSection (path : String) (state : EngineState) (j : TrackSectionDoc) :
    Except String EngineState := do
  let uid ← requireUidField j.uid "uid" path
  let sideA ← parseTrackPort j.sideA path
  let sideB ← parseTrackPort j.sideB path
  return state.insertTrackSection
    { uid
      pid := j.pid
      stationUid := stationUidFromObjectUid uid
      sideA
      sideB
      lengthM := j.lengthM.getD 0
      electrified := j.electrified.getD false
      maxSpeedKmh := j.maxSpeedKmh.getD 0
      occupancy := if j.occupied.getD false then .occupied else .free
      stationSection := j.stationSection.getD true }

def loadSwitch (path : String) (state : EngineState) (j : SwitchDoc) : Except String EngineState := do
  let uid ← requireUidField j.uid "uid" path
  let trunk ← parseSwitchLeg j.trunk path
  let straight ← parseSwitchLeg j.straight path
  let divergent ← parseSwitchLeg j.divergent path
  return state.insertSwitch
    { uid
      pid := j.pid
      stationUid := stationUidFromObjectUid uid
      typeId := j.typeId.getD ""
      trunk
      straight
      divergent
      lengthM := j.lengthM.getD 0
      maxSpeedStraightKmh := j.maxSpeedStraightKmh.getD 0
      maxSpeedDivergentKmh := j.maxSpeedDivergentKmh.getD 0 }

def loadBlockSection (path : String) (state : EngineState) (j : BlockSectionDoc) :
    Except String EngineState := do
  let uid ← requireUidField j.uid "uid" path
  let neighborStationUid ← requireUidField j.neighborStationUid "neighborStationUID" path
  let departureSignalUid ← requireUidField j.departureSignalUid "departureSignalUID" path
  let entrySignalUid ← requireUidField j.entrySignalUid "entrySignalUID" path
  let blockState ← parseBlockState (j.initialState.getD "CLOSED")
  let direction ← parseBlockDirection (j.initialDirection.getD "NEUTRAL")
  return state.insertBlockSection
    { uid
      pid := j.pid
      typeId := j.typeId.getD "SHL-12"
      stationUid := stationUidFromObjectUid uid
      neighborStationUid
      lineNumber := j.lineNumber.getD 0
      departureSignalUid
      entrySignalUid
      szlakSectionUids := j.szlakSectionUids.map UID.mk
      state := blockState
      direction }

def loadSignal (path : String) (state : EngineState) (j : SignalDoc) : Except String EngineState := do
  let uid ← requireUidField j.uid "uid" path
  let type ← parseSignalType j.type
  let governsSectionUid ← requireUidField j.governsSection "governs_section" path
  let currentAspect ← parseInitialAspect (j.initialAspect.getD "STOP")
  return state.insertSignal
    { uid
      pid := j.pid
      stationUid := stationUidFromObjectUid uid
      typeId := j.typeId.getD ""
      type
      governsSectionUid
      currentAspect }

def loadDerailer (path : String) (state : EngineState) (j : DerailerDoc) : Except String EngineState := do
  let uid ← requireUidField j.uid "uid" path
  let guardsSectionUid ← requireUidField j.guardsSection "guards_section" path
  return state.insertDerailer
    { uid
      pid := j.pid
      stationUid := stationUidFromObjectUid uid
      typeId := j.typeId.getD ""
      guardsSectionUid
      state := .locked }

def loadTopologyKinds (path : String) (state : EngineState) (doc : TopologyDoc) :
    Except String EngineState := do
  let state ← doc.boundaryNodes.foldlM (loadBoundaryNode path) state
  let state ← doc.trackSections.foldlM (loadTrackSection path) state
  let state ← doc.switches.foldlM (loadSwitch path) state
  doc.blockSections.foldlM (loadBlockSection path) state

def loadObjectsKinds (path : String) (state : EngineState) (doc : ObjectsDoc) :
    Except String EngineState := do
  let state ← doc.signals.foldlM (loadSignal path) state
  doc.derailers.foldlM (loadDerailer path) state

def loadScenario (state : EngineState) (dir : ScenarioDir) : Except String (EngineState × ScenarioMeta) := do
  let result : ScenarioMeta :=
    { stationSid := dir.metaJson.stationSid
      controlSystemId := dir.metaJson.controlSystem
      schemaVersion := dir.metaJson.schemaVersion.getD 1 }
  let state := state.setSessionId result.stationSid
  let state ← loadTopologyKinds (dir.path ++ "/topology.json") state dir.topologyJson
  match dir.objectsJson with
  | none => return (state, result)
  | some objects =>
    let state ← loadObjectsKinds (dir.path ++ "/objects.json") state objects
    return (state, result)

def loadScenarios : EngineState → List ScenarioDir → Except String (EngineState × List ScenarioMeta)
  | state, [] => .ok (state, [])
  | state, dir :: dirs => do
    let (state, result) ← loadScenario state dir
    let (state, results) ← loadScenarios state dirs
    return (state, result :: results)

/-- The first scenario is the primary one and gives its session id back to the state. -/
def loadWorld (state : EngineState) (scenarioDirs : List ScenarioDir) :
    Except String (EngineState × List ScenarioMeta) :=
  match scenarioDirs with
  | [] => .error "load_world: scenario_dirs must not be empty"
  | _ :: _ => do
    let (state, results) ← loadScenarios state scenarioDirs
    match results with
    | [] => return (state, results)
    | primary :: _ => return (state.setSessionId primary.stationSid, results)

/-! ## Small scenarios -/

def TrackSectionDoc.between (uid a b : Nat) : TrackSectionDoc where
  uid := .unsigned uid
  sideA := { neighborUid := .unsigned a }
  sideB := { neighborUid := .unsigned b }

def SwitchDoc.joining (uid trunk straight divergent : Nat) : SwitchDoc where
  uid := .unsigned uid
  trunk := { neighborUid := .unsigned trunk }
  straight := { neighborUid := .unsigned straight }
  divergent := { neighborUid := .unsigned divergent }

def SignalDoc.governing (uid governs : Nat) : SignalDoc where
  uid := .unsigned uid
  type := "ENTRY"
  governsSection := .unsigned governs

def DerailerDoc.guarding (uid guards : Nat) : DerailerDoc where
  uid := .unsigned uid
  guardsSection := .unsigned guards

def ScenarioDir.station (trackSections : List TrackSectionDoc) (switches : List SwitchDoc)
    (signals : List SignalDoc) (derailers : List DerailerDoc := []) : ScenarioDir where
  path := "station"
  metaJson := { stationSid := "ST", controlSystem := "estw_ml8" }
  topologyJson := { trackSections, switches }
  objectsJson := some { signals, derailers }

/-- The state loaded from one scenario, empty when it is malformed. -/
def loadedState (dir : ScenarioDir) : EngineState :=
  match loadWorld {} [dir] with
  | .ok (state, _) => state
  | .error _ => {}

/-- Section 1 leads over switch 10 straight on to section 2 and diverging to section 3. -/
def forkStation : ScenarioDir :=
  .station [.between 1 91 10, .between 2 10 92, .between 3 10 93] [.joining 10 1 2 3]
    [.governing 21 1, .governing 22 2, .governing 23 3]

/-- Two forks that have nothing to do with each other: section 4 leads over switch 11 to sections 5 and 6. -/
def twoForkStation : ScenarioDir :=
  .station [.between 1 91 10, .between 2 10 92, .between 3 10 93, .between 4 94 11, .between 5 11 95,
      .between 6 11 96]
    [.joining 10 1 2 3, .joining 11 4 5 6]
    [.governing 21 1, .governing 22 2, .governing 23 3, .governing 24 4, .governing 25 5, .governing 26 6]

/-- Two parallel lines, 1 to 2 over switch 10 and 3 to 4 over switch 11, joined by the divergent legs of
the switches. Signal 20 + n governs section n. -/
def crossoverStation : ScenarioDir :=
  .station [.between 1 91 10, .between 2 10 92, .between 3 93 11, .between 4 11 94]
    [.joining 10 1 2 11, .joining 11 3 4 10]
    [.governing 21 1, .governing 22 2, .governing 23 3, .governing 24 4]

/-- Two lines, 1 to 2 over switch 10 and 3 to 4 over switch 12, whose divergent legs both lead to the legs
of switch 13. -/
def junctionStation : ScenarioDir :=
  .station [.between 1 91 10, .between 2 10 92, .between 3 93 12, .between 4 12 94, .between 5 13 95]
    [.joining 10 1 2 13, .joining 12 3 4 13, .joining 13 5 10 12]
    [.governing 21 1, .governing 22 2, .governing 23 3, .governing 24 4]

/-- Sections 1 and 2 in a row, and derailer 31 guarding section 2. -/
def sidingStation : ScenarioDir :=
  .station [.between 1 91 2, .between 2 1 92] [] [.governing 21 1, .governing 22 2] [.guarding 31 2]

/-- The siding without its derailer; section 2 is the line section of block section 41. -/
def lineStation : ScenarioDir where
  path := "station"
  metaJson := { stationSid := "ST", controlSystem := "estw_ml8" }
  topologyJson :=
    { trackSections := [.between 1 91 2, .between 2 1 92]
      blockSections :=
        [{ uid := .unsigned 41
           neighborStationUid := .unsigned 0
           departureSignalUid := .unsigned 22
           entrySignalUid := .unsigned 21
           szlakSectionUids := [2] }] }
  objectsJson := some { signals := [.governing 21 1, .governing 22 2] }

/-- Sections 1, 2 and 3 in a row, a hundred metres each. -/
def trackStation : ScenarioDir :=
  .station ([(1, 91, 2), (2, 1, 3), (3, 2, 93)].map fun (uid, a, b) =>
    { TrackSectionDoc.between uid a b with lengthM := some 100 }) [] []

/-- The UID of the object of station 1 with the given kind and number. -/
def stationObject (kind : UIDKind) (number : BitVec 16) : Nat := (makeUid .infrastructure kind 1 number).value

/-- Switch 1 leads from section 1 straight on to section 2 and over section 3 to the straight leg of
switch 2, which joins sections 3 and 5 to section 4. -/
def turnoutStation : ScenarioDir where
  path := "station"
  metaJson := { stationSid := "ST", controlSystem := "estw_ml8" }
  topologyJson :=
    { boundaryNodes := [1, 2, 4, 5].map fun n => { uid := .unsigned (stationObject .boundaryNode n) }
      trackSections :=
        [.between (stationObject .trackSection 1) (stationObject .boundaryNode 1) (stationObject .switch 1),
          .between (stationObject .trackSection 2) (stationObject .switch 1) (stationObject .boundaryNode 2),
          .between (stationObject .trackSection 3) (stationObject .switch 1) (stationObject .switch 2),
          .between (stationObject .trackSection 4) (stationObject .switch 2) (stationObject .boundaryNode 4),
          .between (stationObject .trackSection 5) (stationObject .switch 2) (stationObject .boundaryNode 5)]
      switches :=
        [.joining (stationObject .switch 1) (stationObject .trackSection 1) (stationObject .trackSection 2)
            (stationObject .trackSection 3),
          .joining (stationObject .switch 2) (stationObject .trackSection 4) (stationObject .trackSection 3)
            (stationObject .trackSection 5)] }
  objectsJson :=
    some
      { signals := [1, 2, 3].map fun n =>
          .governing (stationObject .signal n) (stationObject .trackSection n) }

/-! ## What the loader inserts -/

theorem requireUidField_ok {field : UidField} {key path : String} {uid : UID}
    (h : requireUidField field key path = .ok uid) : field = .unsigned uid.value := by
  cases field with
  | unsigned value =>
    cases h
    rfl
  | missing | invalid => cases h

theorem parseSwitchLeg_ok {j : SwitchLegDoc} {path : String} {leg : SwitchLeg}
    (h : parseSwitchLeg j path = .ok leg) : j.neighborUid = .unsigned leg.neighborUid.value := by
  obtain ⟨neighborUid, hNeighbor, h⟩ := bind_ok h
  dsimp only at h
  split at h
  · obtain ⟨izUid, _, h⟩ := bind_ok h
    cases h
    exact requireUidField_ok hNeighbor
  · cases h
    exact requireUidField_ok hNeighbor

theorem parseBlockDirection_ne_resetPending {text : String} {direction : BlockDirectionState}
    (h : parseBlockDirection text = .ok direction) : direction ≠ .resetPending := by
  unfold parseBlockDirection at h
  split at h
  · cases h
    simp
  · split at h
    · cases h
      simp
    · split at h
      · cases h
        simp
      · cases h

/-- The legs of the switch lead where its document says. -/
structure SwitchDoc.Loads (j : SwitchDoc) (sw : Switch) : Prop where
  uid : j.uid = .unsigned sw.uid.value
  trunk : j.trunk.neighborUid = .unsigned sw.trunk.neighborUid.value
  straight : j.straight.neighborUid = .unsigned sw.straight.neighborUid.value
  divergent : j.divergent.neighborUid = .unsigned sw.divergent.neighborUid.value

section Insert

variable {path : String} {s t : EngineState}

theorem loadBoundaryNode_ok {j : BoundaryNodeDoc} (h : loadBoundaryNode path s j = .ok t) :
    ∃ n, t = s.insertBoundaryNode n ∧ j.uid = .unsigned n.uid.value := by
  obtain ⟨uid, hUid, h⟩ := bind_ok h
  cases h
  exact ⟨_, rfl, requireUidField_ok hUid⟩

theorem loadTrackSection_ok {j : TrackSectionDoc} (h : loadTrackSection path s j = .ok t) :
    ∃ ts, t = s.insertTrackSection ts ∧ j.uid = .unsigned ts.uid.value := by
  obtain ⟨uid, hUid, h⟩ := bind_ok h
  obtain ⟨sideA, _, h⟩ := bind_ok h
  obtain ⟨sideB, _, h⟩ := bind_ok h
  cases h
  exact ⟨_, rfl, requireUidField_ok hUid⟩

theorem loadSwitch_ok {j : SwitchDoc} (h : loadSwitch path s j = .ok t) :
    ∃ sw, t = s.insertSwitch sw ∧ j.Loads sw ∧ sw.position = .straight ∧ sw.lockedByRouteUid = none ∧
      sw.occupancy = .free ∧ sw.movingTicksRemaining = 0 := by
  obtain ⟨uid, hUid, h⟩ := bind_ok h
  obtain ⟨trunk, hTrunk, h⟩ := bind_ok h
  obtain ⟨straight, hStraight, h⟩ := bind_ok h
  obtain ⟨divergent, hDivergent, h⟩ := bind_ok h
  cases h
  refine ⟨_, rfl, ⟨requireUidField_ok hUid, ?_, ?_, ?_⟩, rfl, rfl, rfl, rfl⟩
  · exact parseSwitchLeg_ok hTrunk
  · exact parseSwitchLeg_ok hStraight
  · exact parseSwitchLeg_ok hDivergent

theorem loadBlockSection_ok {j : BlockSectionDoc} (h : loadBlockSection path s j = .ok t) :
    ∃ bs, t = s.insertBlockSection bs ∧ bs.axleCount = 0 ∧ bs.direction ≠ .resetPending := by
  obtain ⟨uid, _, h⟩ := bind_ok h
  obtain ⟨neighborStationUid, _, h⟩ := bind_ok h
  obtain ⟨departureSignalUid, _, h⟩ := bind_ok h
  obtain ⟨entrySignalUid, _, h⟩ := bind_ok h
  obtain ⟨blockState, _, h⟩ := bind_ok h
  obtain ⟨direction, hDirection, h⟩ := bind_ok h
  cases h
  exact ⟨_, rfl, rfl, parseBlockDirection_ne_resetPending hDirection⟩

theorem loadSignal_ok {j : SignalDoc} (h : loadSignal path s j = .ok t) :
    ∃ sig, t = s.insertSignal sig ∧ sig.lockedByRouteUid = none := by
  obtain ⟨uid, _, h⟩ := bind_ok h
  obtain ⟨type, _, h⟩ := bind_ok h
  obtain ⟨governs, _, h⟩ := bind_ok h
  obtain ⟨aspect, _, h⟩ := bind_ok h
  cases h
  exact ⟨_, rfl, rfl⟩

theorem loadDerailer_ok {j : DerailerDoc} (h : loadDerailer path s j = .ok t) :
    ∃ d, t = s.insertDerailer d ∧ d.state = .locked ∧ d.lockedByRouteUid = none := by
  obtain ⟨uid, _, h⟩ := bind_ok h
  obtain ⟨guards, _, h⟩ := bind_ok h
  cases h
  exact ⟨_, rfl, rfl, rfl⟩

end Insert

/-- The states between the kinds of objects of one scenario. -/
structure ScenarioStages (s : EngineState) (dir : ScenarioDir) (s₁ s₂ s₃ s₄ t : EngineState) : Prop where
  boundaryNodes : dir.topologyJson.boundaryNodes.foldlM (loadBoundaryNode (dir.path ++ "/topology.json"))
    (s.setSessionId dir.metaJson.stationSid) = .ok s₁
  trackSections :
    dir.topologyJson.trackSections.foldlM (loadTrackSection (dir.path ++ "/topology.json")) s₁ = .ok s₂
  switches : dir.topologyJson.switches.foldlM (loadSwitch (dir.path ++ "/topology.json")) s₂ = .ok s₃
  blockSections :
    dir.topologyJson.blockSections.foldlM (loadBlockSection (dir.path ++ "/topology.json")) s₃ = .ok s₄
  objects : t = s₄ ∨ ∃ (objects : ObjectsDoc) (s₅ : EngineState),
    objects.signals.foldlM (loadSignal (dir.path ++ "/objects.json")) s₄ = .ok s₅ ∧
    objects.derailers.foldlM (loadDerailer (dir.path ++ "/objects.json")) s₅ = .ok t

theorem loadScenario_ok {s t : EngineState} {dir : ScenarioDir} {result : ScenarioMeta}
    (h : loadScenario s dir = .ok (t, result)) : ∃ s₁ s₂ s₃ s₄, ScenarioStages s dir s₁ s₂ s₃ s₄ t := by
  obtain ⟨s₄, hTopology, h⟩ := bind_ok h
  obtain ⟨s₁, hNodes, hTopology⟩ := bind_ok hTopology
  obtain ⟨s₂, hSections, hTopology⟩ := bind_ok hTopology
  obtain ⟨s₃, hSwitches, hBlocks⟩ := bind_ok hTopology
  refine ⟨s₁, s₂, s₃, s₄, hNodes, hSections, hSwitches, hBlocks, ?_⟩
  split at h
  · cases h
    exact Or.inl rfl
  · rename_i objects _
    obtain ⟨s₆, hObjects, h⟩ := bind_ok h
    obtain ⟨s₅, hSignals, hDerailers⟩ := bind_ok hObjects
    cases h
    exact Or.inr ⟨objects, s₅, hSignals, hDerailers⟩

theorem loadWorld_ok {s t : EngineState} {dirs : List ScenarioDir} {results : List ScenarioMeta}
    (h : loadWorld s dirs = .ok (t, results)) :
    ∃ u, loadScenarios s dirs = .ok (u, results) ∧ (t = u ∨ ∃ id, t = u.setSessionId id) := by
  cases dirs with
  | nil => cases h
  | cons dir dirs =>
    obtain ⟨⟨u, metas⟩, hLoad, h⟩ := bind_ok h
    cases metas with
    | nil =>
      cases h
      exact ⟨_, hLoad, Or.inl rfl⟩
    | cons primary metas =>
      cases h
      exact ⟨_, hLoad, Or.inr ⟨_, rfl⟩⟩

/-! ## What every load keeps -/

/-- A property of the state that inserting each kind of object keeps. -/
structure KeptByLoader (P : EngineState → Prop) : Prop where
  session : ∀ {s : EngineState} (id : String), P s → P (s.setSessionId id)
  boundaryNode : ∀ {path : String} {s t : EngineState} {j : BoundaryNodeDoc},
    P s → loadBoundaryNode path s j = .ok t → P t
  trackSection : ∀ {path : String} {s t : EngineState} {j : TrackSectionDoc},
    P s → loadTrackSection path s j = .ok t → P t
  switch : ∀ {path : String} {s t : EngineState} {j : SwitchDoc}, P s → loadSwitch path s j = .ok t → P t
  blockSection : ∀ {path : String} {s t : EngineState} {j : BlockSectionDoc},
    P s → loadBlockSection path s j = .ok t → P t
  signal : ∀ {path : String} {s t : EngineState} {j : SignalDoc}, P s → loadSignal path s j = .ok t → P t
  derailer : ∀ {path : String} {s t : EngineState} {j : DerailerDoc}, P s → loadDerailer path s j = .ok t → P t

section Kept

variable {P : EngineState → Prop} (hP : KeptByLoader P)

include hP

/-- What holds once the switches come to be loaded holds of the loaded scenario. -/
theorem KeptByLoader.ofSections {dir : ScenarioDir} {s s₁ s₂ s₃ s₄ t : EngineState}
    (hStages : ScenarioStages s dir s₁ s₂ s₃ s₄ t) (h₂ : P s₂) : P t := by
  have h₃ := foldlM_ok (fun _ _ _ => hP.switch) h₂ hStages.switches
  have h₄ := foldlM_ok (fun _ _ _ => hP.blockSection) h₃ hStages.blockSections
  obtain rfl | ⟨objects, s₅, hSignals, hDerailers⟩ := hStages.objects
  · exact h₄
  · have h₅ := foldlM_ok (fun _ _ _ => hP.signal) h₄ hSignals
    exact foldlM_ok (fun _ _ _ => hP.derailer) h₅ hDerailers

theorem KeptByLoader.loadScenario {s t : EngineState} {dir : ScenarioDir} {result : ScenarioMeta} (hs : P s)
    (h : loadScenario s dir = .ok (t, result)) : P t := by
  obtain ⟨s₁, s₂, s₃, s₄, hStages⟩ := loadScenario_ok h
  have h₁ := foldlM_ok (fun _ _ _ => hP.boundaryNode) (hP.session dir.metaJson.stationSid hs)
    hStages.boundaryNodes
  have h₂ := foldlM_ok (fun _ _ _ => hP.trackSection) h₁ hStages.trackSections
  exact hP.ofSections hStages h₂

theorem KeptByLoader.loadScenarios {dirs : List ScenarioDir} {s t : EngineState} {results : List ScenarioMeta}
    (hs : P s) (h : loadScenarios s dirs = .ok (t, results)) : P t := by
  induction dirs generalizing s t results with
  | nil =>
    cases h
    exact hs
  | cons dir dirs ih =>
    obtain ⟨⟨s₁, result⟩, hFirst, h⟩ := bind_ok h
    obtain ⟨⟨s₂, rest⟩, hRest, h⟩ := bind_ok h
    cases h
    exact ih (hP.loadScenario hs hFirst) hRest

theorem KeptByLoader.loadWorld {dirs : List ScenarioDir} {s t : EngineState} {results : List ScenarioMeta}
    (hs : P s) (h : loadWorld s dirs = .ok (t, results)) : P t := by
  obtain ⟨u, hLoad, rfl | ⟨id, rfl⟩⟩ := loadWorld_ok h
  · exact hP.loadScenarios hs hLoad
  · exact hP.session id (hP.loadScenarios hs hLoad)

/-- What loading one of the scenarios brings about holds of the loaded world. -/
theorem KeptByLoader.of_mem {dir : ScenarioDir}
    (hMade : ∀ {s t : EngineState} {result : ScenarioMeta}, Engine.loadScenario s dir = .ok (t, result) → P t)
    {dirs : List ScenarioDir} (hDir : dir ∈ dirs) {s t : EngineState} {results : List ScenarioMeta}
    (h : Engine.loadWorld s dirs = .ok (t, results)) : P t := by
  have hAll : ∀ {dirs : List ScenarioDir}, dir ∈ dirs → ∀ {s t : EngineState} {results : List ScenarioMeta},
      Engine.loadScenarios s dirs = .ok (t, results) → P t := by
    intro dirs hDir
    induction hDir with
    | head dirs =>
      intro s t results h
      obtain ⟨⟨s₁, result⟩, hFirst, h⟩ := bind_ok h
      obtain ⟨⟨s₂, rest⟩, hRest, h⟩ := bind_ok h
      cases h
      exact hP.loadScenarios (hMade hFirst) hRest
    | tail other _ ih =>
      intro s t results h
      obtain ⟨⟨s₁, result⟩, _, h⟩ := bind_ok h
      obtain ⟨⟨s₂, rest⟩, hRest, h⟩ := bind_ok h
      cases h
      exact ih hRest
  obtain ⟨u, hLoad, rfl | ⟨id, rfl⟩⟩ := loadWorld_ok h
  · exact hAll hDir hLoad
  · exact hP.session id (hAll hDir hLoad)

end Kept

/-- A property is kept by the loader when inserting objects as the loader makes them keeps it. -/
theorem keptByLoader_of_inserts {P : EngineState → Prop} (session : ∀ s id, P s → P (s.setSessionId id))
    (boundaryNode : ∀ s n, P s → P (s.insertBoundaryNode n)) (trackSection : ∀ s ts, P s → P (s.insertTrackSection ts))
    (switch : ∀ s sw, sw.position = .straight ∧ sw.lockedByRouteUid = none ∧ sw.occupancy = .free ∧
      sw.movingTicksRemaining = 0 → P s → P (s.insertSwitch sw))
    (blockSection : ∀ s bs, bs.axleCount = 0 → bs.direction ≠ .resetPending → P s → P (s.insertBlockSection bs))
    (signal : ∀ s sig, sig.lockedByRouteUid = none → P s → P (s.insertSignal sig))
    (derailer : ∀ s d, d.state = .locked ∧ d.lockedByRouteUid = none → P s → P (s.insertDerailer d)) :
    KeptByLoader P where
  session id hs := session _ id hs
  boundaryNode hs h := by
    obtain ⟨n, rfl, -⟩ := loadBoundaryNode_ok h
    exact boundaryNode _ n hs
  trackSection hs h := by
    obtain ⟨ts, rfl, -⟩ := loadTrackSection_ok h
    exact trackSection _ ts hs
  switch hs h := by
    obtain ⟨sw, rfl, -, hAtRest⟩ := loadSwitch_ok h
    exact switch _ sw hAtRest hs
  blockSection hs h := by
    obtain ⟨bs, rfl, hAxles, hDirection⟩ := loadBlockSection_ok h
    exact blockSection _ bs hAxles hDirection hs
  signal hs h := by
    obtain ⟨sig, rfl, hLock⟩ := loadSignal_ok h
    exact signal _ sig hLock hs
  derailer hs h := by
    obtain ⟨d, rfl, hDown⟩ := loadDerailer_ok h
    exact derailer _ d hDown hs

/-! ## What a loaded world looks like -/

/-- No route, no lock, every switch at rest in its straight position and every derailer down. -/
structure Fresh (s : EngineState) : Prop where
  tick : s.currentTick = 0
  switches : ∀ sw ∈ s.switches.values, sw.position = .straight ∧ sw.lockedByRouteUid = none ∧
    sw.occupancy = .free ∧ sw.movingTicksRemaining = 0
  signals : ∀ sig ∈ s.signals.values, sig.lockedByRouteUid = none
  derailers : ∀ d ∈ s.derailers.values, d.state = .locked ∧ d.lockedByRouteUid = none
  routes : s.routes = .empty

theorem fresh_empty : Fresh {} := by
  constructor
  case tick | routes => rfl
  all_goals
    intro x hx
    cases hx

theorem keptByLoader_fresh : KeptByLoader Fresh := by
  apply keptByLoader_of_inserts
  case switch =>
    intro s sw hAtRest hs
    exact ⟨hs.tick, KeyedMap.forall_emplace hs.switches hAtRest, hs.signals, hs.derailers, hs.routes⟩
  case signal =>
    intro s sig hLock hs
    exact ⟨hs.tick, hs.switches, KeyedMap.forall_emplace hs.signals hLock, hs.derailers, hs.routes⟩
  case derailer =>
    intro s d hDown hs
    exact ⟨hs.tick, hs.switches, hs.signals, KeyedMap.forall_emplace hs.derailers hDown, hs.routes⟩
  case blockSection =>
    intro s bs _ _ hs
    exact ⟨hs.tick, hs.switches, hs.signals, hs.derailers, hs.routes⟩
  all_goals
    intro s x hs
    exact ⟨hs.tick, hs.switches, hs.signals, hs.derailers, hs.routes⟩

theorem fresh_of_loadWorld {dirs : List ScenarioDir} {s : EngineState} {results : List ScenarioMeta}
    (h : loadWorld {} dirs = .ok (s, results)) : Fresh s := keptByLoader_fresh.loadWorld fresh_empty h

/-- No axle has been counted in a block section, and each has a direction a document can give it. -/
structure BlocksFresh (s : EngineState) : Prop where
  axles : ∀ bs ∈ s.blockSections.values, bs.axleCount = 0
  direction : ∀ bs ∈ s.blockSections.values, bs.direction ≠ .resetPending

theorem keptByLoader_blocksFresh : KeptByLoader BlocksFresh := by
  apply keptByLoader_of_inserts
  case blockSection =>
    intro s bs hAxles hDirection hs
    exact ⟨KeyedMap.forall_emplace hs.axles hAxles, KeyedMap.forall_emplace hs.direction hDirection⟩
  case switch | signal | derailer =>
    intro s x _ hs
    exact ⟨hs.axles, hs.direction⟩
  all_goals
    intro s x hs
    exact ⟨hs.axles, hs.direction⟩

theorem blocksFresh_of_loadWorld {dirs : List ScenarioDir} {s : EngineState} {results : List ScenarioMeta}
    (h : loadWorld {} dirs = .ok (s, results)) : BlocksFresh s := by
  refine keptByLoader_blocksFresh.loadWorld ⟨?_, ?_⟩ h
  all_goals
    intro bs hbs
    cases hbs

/-! ## Documents and loaded objects -/

theorem keptByLoader_findTrackSection (uid : UID) :
    KeptByLoader (fun s => (s.findTrackSection uid).isSome = true) := by
  apply keptByLoader_of_inserts
  case trackSection =>
    intro s ts hs
    rw [EngineState.findTrackSection] at hs ⊢
    rw [EngineState.insertTrackSection, KeyedMap.isSome_find_emplace, hs, Bool.true_or]
  case blockSection => exact fun _ _ _ _ hs => hs
  case switch | signal | derailer => exact fun _ _ _ hs => hs
  all_goals exact fun _ _ hs => hs

theorem keptByLoader_findBoundaryNode (uid : UID) :
    KeptByLoader (fun s => (s.findBoundaryNode uid).isSome = true) := by
  apply keptByLoader_of_inserts
  case boundaryNode =>
    intro s n hs
    rw [EngineState.findBoundaryNode] at hs ⊢
    rw [EngineState.insertBoundaryNode, KeyedMap.isSome_find_emplace, hs, Bool.true_or]
  case blockSection => exact fun _ _ _ _ hs => hs
  case switch | signal | derailer => exact fun _ _ _ hs => hs
  all_goals exact fun _ _ hs => hs

def EachSwitch (Q : Switch → Prop) (s : EngineState) : Prop := ∀ sw ∈ s.switches.values, Q sw

theorem ScenarioStages.switches_of_docs {Q : Switch → Prop} {dir : ScenarioDir} {s s₁ s₂ s₃ s₄ t : EngineState}
    (hStages : ScenarioStages s dir s₁ s₂ s₃ s₄ t)
    (hDocs : ∀ j ∈ dir.topologyJson.switches, ∀ sw, j.Loads sw → Q sw) (hs : EachSwitch Q s) :
    EachSwitch Q t := by
  have h₀ : EachSwitch Q (s.setSessionId dir.metaJson.stationSid) := hs
  have h₁ : EachSwitch Q s₁ := by
    refine foldlM_ok (fun b j b' hb h => ?_) h₀ hStages.boundaryNodes
    obtain ⟨n, rfl, -⟩ := loadBoundaryNode_ok h
    exact hb
  have h₂ : EachSwitch Q s₂ := by
    refine foldlM_ok (fun b j b' hb h => ?_) h₁ hStages.trackSections
    obtain ⟨ts, rfl, -⟩ := loadTrackSection_ok h
    exact hb
  have h₃ : EachSwitch Q s₃ := by
    refine foldlM_ok_within (fun b j hj b' hb h => ?_) h₂ hStages.switches
    obtain ⟨sw, rfl, hLoads, -⟩ := loadSwitch_ok h
    exact KeyedMap.forall_emplace hb (hDocs j hj sw hLoads)
  have h₄ : EachSwitch Q s₄ := by
    refine foldlM_ok (fun b j b' hb h => ?_) h₃ hStages.blockSections
    obtain ⟨bs, rfl, -⟩ := loadBlockSection_ok h
    exact hb
  obtain rfl | ⟨objects, s₅, hSignals, hDerailers⟩ := hStages.objects
  · exact h₄
  · have h₅ : EachSwitch Q s₅ := by
      refine foldlM_ok (fun b j b' hb h => ?_) h₄ hSignals
      obtain ⟨sig, rfl, -⟩ := loadSignal_ok h
      exact hb
    refine foldlM_ok (fun b j b' hb h => ?_) h₅ hDerailers
    obtain ⟨d, rfl, -⟩ := loadDerailer_ok h
    exact hb

section World

variable {dirs : List ScenarioDir} {s : EngineState} {results : List ScenarioMeta}
  (h : loadWorld {} dirs = .ok (s, results))

include h

theorem isSome_findTrackSection_of_loadWorld {dir : ScenarioDir} (hDir : dir ∈ dirs) {j : TrackSectionDoc}
    (hj : j ∈ dir.topologyJson.trackSections) {uid : UID} (hUid : j.uid = .unsigned uid.value) :
    (s.findTrackSection uid).isSome = true := by
  have hKept := keptByLoader_findTrackSection uid
  refine hKept.of_mem (fun hLoad => ?_) hDir h
  obtain ⟨s₁, s₂, s₃, s₄, hStages⟩ := loadScenario_ok hLoad
  refine hKept.ofSections hStages ?_
  refine foldlM_ok_of_mem (fun _ _ _ => hKept.trackSection) (fun b b' hInsert => ?_) hj hStages.trackSections
  obtain ⟨ts, rfl, hTs⟩ := loadTrackSection_ok hInsert
  rw [hUid, UidField.unsigned.injEq] at hTs
  have hKey : Keyed.key ts = uid := congrArg UID.mk hTs.symm
  rw [EngineState.findTrackSection, EngineState.insertTrackSection, KeyedMap.isSome_find_emplace,
    decide_eq_true hKey, Bool.or_true]

theorem isSome_findBoundaryNode_of_loadWorld {dir : ScenarioDir} (hDir : dir ∈ dirs) {j : BoundaryNodeDoc}
    (hj : j ∈ dir.topologyJson.boundaryNodes) {uid : UID} (hUid : j.uid = .unsigned uid.value) :
    (s.findBoundaryNode uid).isSome = true := by
  have hKept := keptByLoader_findBoundaryNode uid
  refine hKept.of_mem (fun hLoad => ?_) hDir h
  obtain ⟨s₁, s₂, s₃, s₄, hStages⟩ := loadScenario_ok hLoad
  have hMade : (s₁.findBoundaryNode uid).isSome = true := by
    refine foldlM_ok_of_mem (fun _ _ _ => hKept.boundaryNode) (fun b b' hInsert => ?_) hj hStages.boundaryNodes
    obtain ⟨n, rfl, hN⟩ := loadBoundaryNode_ok hInsert
    rw [hUid, UidField.unsigned.injEq] at hN
    have hKey : Keyed.key n = uid := congrArg UID.mk hN.symm
    rw [EngineState.findBoundaryNode, EngineState.insertBoundaryNode, KeyedMap.isSome_find_emplace,
      decide_eq_true hKey, Bool.or_true]
  exact hKept.ofSections hStages (foldlM_ok (fun _ _ _ => hKept.trackSection) hMade hStages.trackSections)

theorem exists_switchDoc_of_loadWorld {sw : Switch} (hSw : sw ∈ s.switches.values) :
    ∃ dir ∈ dirs, ∃ j ∈ dir.topologyJson.switches, j.Loads sw := by
  let Listed : List ScenarioDir → Switch → Prop :=
    fun dirs sw => ∃ dir ∈ dirs, ∃ j ∈ dir.topologyJson.switches, j.Loads sw
  have hAll : ∀ {dirs known : List ScenarioDir} {s t : EngineState} {results : List ScenarioMeta},
      (∀ dir ∈ dirs, dir ∈ known) → EachSwitch (Listed known) s →
      loadScenarios s dirs = .ok (t, results) → EachSwitch (Listed known) t := by
    intro dirs known
    induction dirs with
    | nil =>
      intro s t results _ hs h
      cases h
      exact hs
    | cons dir dirs ih =>
      intro s t results hKnown hs h
      obtain ⟨⟨s₁, result⟩, hFirst, h⟩ := bind_ok h
      obtain ⟨⟨s₂, rest⟩, hRest, h⟩ := bind_ok h
      cases h
      obtain ⟨_, _, _, _, hStages⟩ := loadScenario_ok hFirst
      refine ih (fun dir hDir => hKnown dir (List.mem_cons_of_mem _ hDir)) ?_ hRest
      refine hStages.switches_of_docs (fun j hj sw hLoads => ?_) hs
      exact ⟨dir, hKnown dir List.mem_cons_self, j, hj, hLoads⟩
  have hEmpty : EachSwitch (Listed dirs) {} := by
    intro sw hSw
    cases hSw
  obtain ⟨u, hLoad, rfl | ⟨id, rfl⟩⟩ := loadWorld_ok h
  · exact hAll (fun dir hDir => hDir) hEmpty hLoad sw hSw
  · exact hAll (fun dir hDir => hDir) hEmpty hLoad sw hSw

end World

end Symulator.Engine
