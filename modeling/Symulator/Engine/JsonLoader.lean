import Symulator.Engine.TopologyLoader
import Symulator.Library.Json

/-! # Loading scenarios from JSON values

The loader as it goes through the JSON values of a scenario, field by field and with every error a value of the
wrong type raises. What it makes of a value is what it makes of some document of the kind read above, and
whether it gets through is a test of the values.
-/

namespace Symulator.Engine.JsonLoader

open Symulator.Library

set_option autoImplicit false

def uidField (j : Json) (key : String) : UidField :=
  match j.member key with
  | none => .missing
  | some (.unsigned value) => .unsigned value
  | some _ => .invalid

def requireUidField (j : Json) (key path : String) : Except String UID :=
  Engine.requireUidField (uidField j key) key path

def parseSignalUids (signals : Json) : Except String (List UID) :=
  signals.elements.mapM fun s => do return ⟨← s.getUint64⟩

def parseCounter (j : Json) (path : String) : Except String (UID × CounterKind) :=
  if j.contains "itUID" then do return (← requireUidField j "itUID" path, .it)
  else if j.contains "izUID" then do return (← requireUidField j "izUID" path, .iz)
  else return ({}, .it)

def signalUids (j : Json) : Except String (List UID) :=
  if j.contains "signalUIDs" then j.atKey "signalUIDs" parseSignalUids else return []

def parseTrackPort (path : String) (j : Json) : Except String TrackPort := do
  let neighborUid ← requireUidField j "neighborUID" path
  let counter ← parseCounter j path
  let signalUids ← signalUids j
  return { neighborUid, counterUid := counter.1, counterKind := counter.2, signalUids }

def parseLegCounter (j : Json) (path : String) : Except String UID :=
  if j.contains "izUID" then requireUidField j "izUID" path else return {}

def parseSwitchLeg (path : String) (j : Json) : Except String SwitchLeg := do
  let neighborUid ← requireUidField j "neighborUID" path
  let izUid ← parseLegCounter j path
  let signalUids ← signalUids j
  return { neighborUid, izUid, signalUids }

/-! ## The objects of a scenario -/

def boundaryNode (path : String) (j : Json) : Except String BoundaryNode := do
  let uid ← requireUidField j "uid" path
  let pid ← j.atKey "pID" Json.getString
  let description ← j.valueOr "description" "" Json.getString
  return { uid, pid, stationUid := stationUidFromObjectUid uid, description }

def trackSection (path : String) (j : Json) : Except String TrackSection := do
  let uid ← requireUidField j "uid" path
  let pid ← j.atKey "pID" Json.getString
  let sideA ← j.atKey "sideA" (parseTrackPort path)
  let sideB ← j.atKey "sideB" (parseTrackPort path)
  let lengthM ← j.valueOr "lengthM" 0 Json.getFloat
  let electrified ← j.valueOr "electrified" false Json.getBool
  let maxSpeedKmh ← j.valueOr "maxSpeedKmh" 0 Json.getInt32
  let occupied ← j.valueOr "occupied" false Json.getBool
  let stationSection ← j.valueOr "station_section" true Json.getBool
  return {
    uid, pid, stationUid := stationUidFromObjectUid uid, sideA, sideB, lengthM, electrified, maxSpeedKmh,
    occupancy := if occupied then .occupied else .free, stationSection }

def switch (path : String) (j : Json) : Except String Switch := do
  let uid ← requireUidField j "uid" path
  let pid ← j.atKey "pID" Json.getString
  let typeId ← j.valueOr "typeID" "" Json.getString
  let trunk ← j.atKey "trunk" (parseSwitchLeg path)
  let straight ← j.atKey "straight" (parseSwitchLeg path)
  let divergent ← j.atKey "divergent" (parseSwitchLeg path)
  let lengthM ← j.valueOr "lengthM" 0 Json.getFloat
  let maxSpeedStraightKmh ← j.valueOr "maxSpeedStraightKmh" 0 Json.getInt32
  let maxSpeedDivergentKmh ← j.valueOr "maxSpeedDivergentKmh" 0 Json.getInt32
  return {
    uid, pid, stationUid := stationUidFromObjectUid uid, typeId, trunk, straight, divergent, lengthM,
    maxSpeedStraightKmh, maxSpeedDivergentKmh }

def blockSection (path : String) (j : Json) : Except String BlockSection := do
  let uid ← requireUidField j "uid" path
  let pid ← j.atKey "pID" Json.getString
  let typeId ← j.valueOr "type_id" "SHL-12" Json.getString
  let neighborStationUid ← requireUidField j "neighborStationUID" path
  let lineNumber ← j.valueOr "lineNumber" 0 Json.getInt32
  let departureSignalUid ← requireUidField j "departureSignalUID" path
  let entrySignalUid ← requireUidField j "entrySignalUID" path
  let szlakSectionUids ← j.valueOr "szlakSectionUIDs" (.array []) Except.ok >>= parseSignalUids
  let state ← j.valueOr "initialState" "CLOSED" Json.getString >>= parseBlockState
  let direction ← j.valueOr "initialDirection" "NEUTRAL" Json.getString >>= parseBlockDirection
  return {
    uid, pid, typeId, stationUid := stationUidFromObjectUid uid, neighborStationUid, lineNumber,
    departureSignalUid, entrySignalUid, szlakSectionUids, state, direction }

def signal (path : String) (j : Json) : Except String Signal := do
  let uid ← requireUidField j "uid" path
  let pid ← j.atKey "pID" Json.getString
  let typeId ← j.valueOr "typeID" "" Json.getString
  let type ← j.atKey "type" Json.getString >>= parseSignalType
  let governsSectionUid ← requireUidField j "governs_section" path
  let currentAspect ← j.valueOr "initial_aspect" "STOP" Json.getString >>= parseInitialAspect
  return { uid, pid, stationUid := stationUidFromObjectUid uid, typeId, type, governsSectionUid, currentAspect }

def derailer (path : String) (j : Json) : Except String Derailer := do
  let uid ← requireUidField j "uid" path
  let pid ← j.atKey "pID" Json.getString
  let typeId ← j.valueOr "typeID" "" Json.getString
  let guardsSectionUid ← requireUidField j "guards_section" path
  return { uid, pid, stationUid := stationUidFromObjectUid uid, typeId, guardsSectionUid, state := .locked }

/-- Making one object of its value and inserting it. -/
def insertRead {α : Type} (make : String → Json → Except String α) (insert : EngineState → α → EngineState)
    (path : String) (state : EngineState) (j : Json) : Except String EngineState := do
  return insert state (← make path j)

def loadBoundaryNode := insertRead boundaryNode EngineState.insertBoundaryNode
def loadTrackSection := insertRead trackSection EngineState.insertTrackSection
def loadSwitch := insertRead switch EngineState.insertSwitch
def loadBlockSection := insertRead blockSection EngineState.insertBlockSection
def loadSignal := insertRead signal EngineState.insertSignal
def loadDerailer := insertRead derailer EngineState.insertDerailer

structure ObjectKind where
  jsonKey : String
  load : String → EngineState → Json → Except String EngineState

def kTopologyKinds : List ObjectKind :=
  [⟨"boundary_nodes", loadBoundaryNode⟩, ⟨"track_sections", loadTrackSection⟩, ⟨"switches", loadSwitch⟩,
    ⟨"block_sections", loadBlockSection⟩]

def kObjectsKinds : List ObjectKind := [⟨"signals", loadSignal⟩, ⟨"derailers", loadDerailer⟩]

/-- The values a loop over a member of the document goes through, none when there is no such member. -/
def arrayOf (doc : Json) (key : String) : Except String (List Json) := do
  return (← doc.valueOr key (.array []) Except.ok).elements

def loadObjectArrays (path : String) (doc : Json) (state : EngineState) (kinds : List ObjectKind) :
    Except String EngineState :=
  kinds.foldlM (fun state kind => do (← arrayOf doc kind.jsonKey).foldlM (kind.load path) state) state

/-- The JSON values of a scenario directory; the objects file is optional. -/
structure ScenarioFiles where
  path : String
  metaJson : Json
  topologyJson : Json
  objectsJson : Option Json := none

def scenarioMeta (j : Json) : Except String ScenarioMeta := do
  let stationSid ← j.atKey "station_sid" Json.getString
  let controlSystemId ← j.atKey "control_system" Json.getString
  let schemaVersion ← j.valueOr "schema_version" 1 Json.getInt32
  return { stationSid, controlSystemId, schemaVersion }

def loadScenario (state : EngineState) (dir : ScenarioFiles) : Except String (EngineState × ScenarioMeta) := do
  let result ← scenarioMeta dir.metaJson
  let state := state.setSessionId result.stationSid
  let state ← loadObjectArrays (dir.path ++ "/topology.json") dir.topologyJson state kTopologyKinds
  match dir.objectsJson with
  | none => return (state, result)
  | some objects =>
    let state ← loadObjectArrays (dir.path ++ "/objects.json") objects state kObjectsKinds
    return (state, result)

/-! ## Which values load -/

def uidsLoad (signals : Json) : Bool := signals.elements.all Json.isNumber

def counterLoads (j : Json) : Bool :=
  if j.contains "itUID" then j.hasField "itUID" Json.isUnsigned else j.fieldIfThere "izUID" Json.isUnsigned

def portLoads (j : Json) : Bool :=
  j.hasField "neighborUID" Json.isUnsigned && counterLoads j && j.fieldIfThere "signalUIDs" uidsLoad

def legLoads (j : Json) : Bool :=
  j.hasField "neighborUID" Json.isUnsigned && j.fieldIfThere "izUID" Json.isUnsigned &&
    j.fieldIfThere "signalUIDs" uidsLoad

def isNamed (j : Json) : Bool := j.hasField "uid" Json.isUnsigned && j.hasField "pID" Json.isString

def boundaryNodeLoads (j : Json) : Bool := j.optField "description" Json.isString

def trackSectionLoads (j : Json) : Bool :=
  j.hasField "sideA" portLoads && j.hasField "sideB" portLoads && j.optField "lengthM" Json.isArithmetic &&
    j.optField "electrified" Json.isBoolean && j.optField "maxSpeedKmh" Json.isArithmetic &&
    j.optField "occupied" Json.isBoolean && j.optField "station_section" Json.isBoolean

def switchLoads (j : Json) : Bool :=
  j.optField "typeID" Json.isString && j.hasField "trunk" legLoads && j.hasField "straight" legLoads &&
    j.hasField "divergent" legLoads && j.optField "lengthM" Json.isArithmetic &&
    j.optField "maxSpeedStraightKmh" Json.isArithmetic && j.optField "maxSpeedDivergentKmh" Json.isArithmetic

def blockSectionLoads (j : Json) : Bool :=
  j.optField "type_id" Json.isString && j.hasField "neighborStationUID" Json.isUnsigned &&
    j.optField "lineNumber" Json.isArithmetic && j.hasField "departureSignalUID" Json.isUnsigned &&
    j.hasField "entrySignalUID" Json.isUnsigned && j.optField "szlakSectionUIDs" uidsLoad &&
    j.optField "initialState" (Json.isOneOf ["CLOSED", "OPEN"]) &&
    j.optField "initialDirection" (Json.isOneOf ["NEUTRAL", "OUTBOUND", "INBOUND"])

def signalLoads (j : Json) : Bool :=
  j.optField "typeID" Json.isString &&
    j.hasField "type" (Json.isOneOf ["ENTRY", "DEPARTURE", "BLOCK", "SHUNTING"]) &&
    j.hasField "governs_section" Json.isUnsigned &&
    j.optField "initial_aspect"
      (Json.isOneOf ["STOP", "S1_STOP", "S2_PROCEED", "S3_PROCEED_40", "MS1_STOP", "MS2_SHUNTING_ALLOWED"])

def derailerLoads (j : Json) : Bool :=
  j.optField "typeID" Json.isString && j.hasField "guards_section" Json.isUnsigned

def metaLoads (j : Json) : Bool :=
  j.hasField "station_sid" Json.isString && j.hasField "control_system" Json.isString &&
    j.optField "schema_version" Json.isArithmetic

section Loads

variable (path : String) (j : Json)

theorem isOk_requireUidField (key : String) :
    (requireUidField j key path).isOk = j.hasField key Json.isUnsigned := by
  unfold requireUidField uidField Json.hasField
  cases j.member key with
  | none => rfl
  | some v => cases v <;> rfl

theorem isOk_parseSignalUids (signals : Json) : (parseSignalUids signals).isOk = uidsLoad signals :=
  Json.isOk_mapM (fun s => (Json.isOk_bind_pure _ _).trans (Json.isOk_getUint64 s)) signals.elements

theorem isOk_signalUids : (signalUids j).isOk = j.fieldIfThere "signalUIDs" uidsLoad :=
  Json.isOk_ifThere isOk_parseSignalUids "signalUIDs" [] j

theorem isOk_require_ifThere (key : String) (default : UID) :
    (if j.contains key then requireUidField j key path else pure default).isOk =
      j.fieldIfThere key Json.isUnsigned := by
  unfold Json.contains
  split
  · rename_i hThere
    obtain ⟨v, hMember⟩ := Option.isSome_iff_exists.mp hThere
    rw [isOk_requireUidField, Json.hasField, Json.fieldIfThere, hMember]
    rfl
  · rename_i hThere
    rw [Json.fieldIfThere, Option.not_isSome_iff_eq_none.mp hThere]
    rfl

theorem isOk_parseCounter : (parseCounter j path).isOk = counterLoads j := by
  unfold parseCounter counterLoads
  split
  · rw [Json.isOk_bind_pure, isOk_requireUidField]
  · rw [← isOk_require_ifThere path j "izUID" {}]
    split
    · rw [Json.isOk_bind_pure]
    · rfl

theorem isOk_parseTrackPort : (parseTrackPort path j).isOk = portLoads j := by
  refine (Json.isOk_bind fun _ => Json.isOk_bind fun _ => Json.isOk_bind_pure _ _).trans ?_
  rw [isOk_requireUidField, isOk_parseCounter, isOk_signalUids, portLoads, Bool.and_assoc]

theorem isOk_parseSwitchLeg : (parseSwitchLeg path j).isOk = legLoads j := by
  refine (Json.isOk_bind fun _ => Json.isOk_bind fun _ => Json.isOk_bind_pure _ _).trans ?_
  rw [isOk_requireUidField, parseLegCounter, isOk_require_ifThere, isOk_signalUids, legLoads, Bool.and_assoc]

theorem isOk_boundaryNode : (boundaryNode path j).isOk = (isNamed j && boundaryNodeLoads j) := by
  refine (Json.isOk_bind fun _ => Json.isOk_bind fun _ => Json.isOk_bind_pure _ _).trans ?_
  rw [isOk_requireUidField, Json.isOk_atKey Json.isOk_getString, Json.isOk_valueOr Json.isOk_getString, isNamed,
    boundaryNodeLoads, Bool.and_assoc]

theorem isOk_trackSection : (trackSection path j).isOk = (isNamed j && trackSectionLoads j) := by
  refine (Json.isOk_bind fun _ => Json.isOk_bind fun _ => Json.isOk_bind fun _ => Json.isOk_bind fun _ =>
    Json.isOk_bind fun _ => Json.isOk_bind fun _ => Json.isOk_bind fun _ => Json.isOk_bind fun _ =>
    Json.isOk_bind_pure _ _).trans ?_
  simp only [isOk_requireUidField, Json.isOk_atKey Json.isOk_getString, Json.isOk_atKey (isOk_parseTrackPort path),
    Json.isOk_valueOr Json.isOk_getFloat, Json.isOk_valueOr Json.isOk_getBool, Json.isOk_valueOr Json.isOk_getInt32,
    isNamed, trackSectionLoads, Bool.and_assoc]

theorem isOk_switch : (switch path j).isOk = (isNamed j && switchLoads j) := by
  refine (Json.isOk_bind fun _ => Json.isOk_bind fun _ => Json.isOk_bind fun _ => Json.isOk_bind fun _ =>
    Json.isOk_bind fun _ => Json.isOk_bind fun _ => Json.isOk_bind fun _ => Json.isOk_bind fun _ =>
    Json.isOk_bind_pure _ _).trans ?_
  simp only [isOk_requireUidField, Json.isOk_atKey Json.isOk_getString, Json.isOk_atKey (isOk_parseSwitchLeg path),
    Json.isOk_valueOr Json.isOk_getFloat, Json.isOk_valueOr Json.isOk_getString,
    Json.isOk_valueOr Json.isOk_getInt32, isNamed, switchLoads, Bool.and_assoc]

theorem isOk_parseBlockState (s : String) : (parseBlockState s).isOk = decide (s ∈ ["CLOSED", "OPEN"]) := by
  unfold parseBlockState
  split_ifs <;> simp_all [Except.isOk, Except.toBool]

theorem isOk_parseBlockDirection (s : String) :
    (parseBlockDirection s).isOk = decide (s ∈ ["NEUTRAL", "OUTBOUND", "INBOUND"]) := by
  unfold parseBlockDirection
  split_ifs <;> simp_all [Except.isOk, Except.toBool]

theorem isOk_parseSignalType (s : String) :
    (parseSignalType s).isOk = decide (s ∈ ["ENTRY", "DEPARTURE", "BLOCK", "SHUNTING"]) := by
  unfold parseSignalType
  split_ifs <;> simp_all [Except.isOk, Except.toBool]

theorem isOk_parseInitialAspect (s : String) : (parseInitialAspect s).isOk =
    decide (s ∈ ["STOP", "S1_STOP", "S2_PROCEED", "S3_PROCEED_40", "MS1_STOP", "MS2_SHUNTING_ALLOWED"]) := by
  unfold parseInitialAspect
  by_cases hStop : s = "STOP" ∨ s = "S1_STOP"
  · rw [if_pos hStop]
    rcases hStop with rfl | rfl <;> rfl
  · rw [if_neg hStop]
    split_ifs <;> simp_all [Except.isOk, Except.toBool]

theorem isOk_blockSection : (blockSection path j).isOk = (isNamed j && blockSectionLoads j) := by
  refine (Json.isOk_bind fun _ => Json.isOk_bind fun _ => Json.isOk_bind fun _ => Json.isOk_bind fun _ =>
    Json.isOk_bind fun _ => Json.isOk_bind fun _ => Json.isOk_bind fun _ => Json.isOk_bind fun _ =>
    Json.isOk_bind fun _ => Json.isOk_bind_pure _ _).trans ?_
  have hState := Json.isOk_valueOr_bind (Json.isOk_getString_bind isOk_parseBlockState) "initialState"
    (show (parseBlockState "CLOSED").isOk = true from rfl) j
  have hDirection := Json.isOk_valueOr_bind (Json.isOk_getString_bind isOk_parseBlockDirection) "initialDirection"
    (show (parseBlockDirection "NEUTRAL").isOk = true from rfl) j
  have hSzlak : (j.valueOr "szlakSectionUIDs" (.array []) Except.ok >>= parseSignalUids).isOk =
      j.optField "szlakSectionUIDs" uidsLoad :=
    Json.isOk_valueOr_bind isOk_parseSignalUids "szlakSectionUIDs" rfl j
  simp only [isOk_requireUidField, Json.isOk_atKey Json.isOk_getString, Json.isOk_valueOr Json.isOk_getString,
    Json.isOk_valueOr Json.isOk_getInt32, hSzlak, hState, hDirection, isNamed, blockSectionLoads, Bool.and_assoc]

theorem isOk_signal : (signal path j).isOk = (isNamed j && signalLoads j) := by
  refine (Json.isOk_bind fun _ => Json.isOk_bind fun _ => Json.isOk_bind fun _ => Json.isOk_bind fun _ =>
    Json.isOk_bind fun _ => Json.isOk_bind_pure _ _).trans ?_
  have hAspect := Json.isOk_valueOr_bind (Json.isOk_getString_bind isOk_parseInitialAspect) "initial_aspect"
    (show (parseInitialAspect "STOP").isOk = true from rfl) j
  simp only [isOk_requireUidField, Json.isOk_atKey Json.isOk_getString, Json.isOk_valueOr Json.isOk_getString,
    Json.isOk_atKey_bind (Json.isOk_getString_bind isOk_parseSignalType), hAspect, isNamed, signalLoads,
    Bool.and_assoc]

theorem isOk_derailer : (derailer path j).isOk = (isNamed j && derailerLoads j) := by
  refine (Json.isOk_bind fun _ => Json.isOk_bind fun _ => Json.isOk_bind fun _ =>
    Json.isOk_bind_pure _ _).trans ?_
  simp only [isOk_requireUidField, Json.isOk_atKey Json.isOk_getString, Json.isOk_valueOr Json.isOk_getString,
    isNamed, derailerLoads, Bool.and_assoc]

theorem isOk_scenarioMeta : (scenarioMeta j).isOk = metaLoads j := by
  refine (Json.isOk_bind fun _ => Json.isOk_bind fun _ => Json.isOk_bind_pure _ _).trans ?_
  simp only [Json.isOk_atKey Json.isOk_getString, Json.isOk_valueOr Json.isOk_getInt32, metaLoads, Bool.and_assoc]

end Loads

/-! ## What a load brings -/

def entries (doc : Json) (key : String) : List Json := ((doc.member key).getD (.array [])).elements

theorem arrayOf_ok_iff {doc : Json} {key : String} {values : List Json} :
    arrayOf doc key = .ok values ↔ doc.isObject = true ∧ entries doc key = values := by
  unfold arrayOf Json.valueOr entries
  by_cases hObject : doc.isObject = true
  · rw [if_pos hObject]
    cases doc.member key <;> simp [hObject, bind, Except.bind, pure, Except.pure]
  · simp [hObject, bind, Except.bind]

/-- The objects the loader makes of the values of a scenario. -/
structure Loaded where
  boundaryNodes : List BoundaryNode
  trackSections : List TrackSection
  switches : List Switch
  blockSections : List BlockSection
  signals : List Signal
  derailers : List Derailer

def Loaded.insertInto (o : Loaded) (s : EngineState) : EngineState :=
  { s with
    boundaryNodes := o.boundaryNodes.foldl .emplace s.boundaryNodes
    trackSections := o.trackSections.foldl .emplace s.trackSections
    switches := o.switches.foldl .emplace s.switches
    blockSections := o.blockSections.foldl .emplace s.blockSections
    signals := o.signals.foldl .emplace s.signals
    derailers := o.derailers.foldl .emplace s.derailers }

/-- Each object is what the loader makes of its entry. -/
structure Loaded.Made (o : Loaded) (path : String) (topology objects : Json) : Prop where
  boundaryNodes :
    (entries topology "boundary_nodes").mapM (boundaryNode (path ++ "/topology.json")) = .ok o.boundaryNodes
  trackSections :
    (entries topology "track_sections").mapM (trackSection (path ++ "/topology.json")) = .ok o.trackSections
  switches : (entries topology "switches").mapM (switch (path ++ "/topology.json")) = .ok o.switches
  blockSections :
    (entries topology "block_sections").mapM (blockSection (path ++ "/topology.json")) = .ok o.blockSections
  signals : (entries objects "signals").mapM (signal (path ++ "/objects.json")) = .ok o.signals
  derailers : (entries objects "derailers").mapM (derailer (path ++ "/objects.json")) = .ok o.derailers

theorem Loaded.insertInto_eq (o : Loaded) (s : EngineState) : o.insertInto s =
    o.derailers.foldl .insertDerailer (o.signals.foldl .insertSignal (o.blockSections.foldl .insertBlockSection
      (o.switches.foldl .insertSwitch (o.trackSections.foldl .insertTrackSection
        (o.boundaryNodes.foldl .insertBoundaryNode s))))) := by
  have hNodes : ∀ s : EngineState, o.boundaryNodes.foldl .insertBoundaryNode s =
      { s with boundaryNodes := o.boundaryNodes.foldl .emplace s.boundaryNodes } :=
    fun s => List.foldl_hom (fun m => { s with boundaryNodes := m }) fun _ _ => rfl
  have hSections : ∀ s : EngineState, o.trackSections.foldl .insertTrackSection s =
      { s with trackSections := o.trackSections.foldl .emplace s.trackSections } :=
    fun s => List.foldl_hom (fun m => { s with trackSections := m }) fun _ _ => rfl
  have hSwitches : ∀ s : EngineState, o.switches.foldl .insertSwitch s =
      { s with switches := o.switches.foldl .emplace s.switches } :=
    fun s => List.foldl_hom (fun m => { s with switches := m }) fun _ _ => rfl
  have hBlocks : ∀ s : EngineState, o.blockSections.foldl .insertBlockSection s =
      { s with blockSections := o.blockSections.foldl .emplace s.blockSections } :=
    fun s => List.foldl_hom (fun m => { s with blockSections := m }) fun _ _ => rfl
  have hSignals : ∀ s : EngineState, o.signals.foldl .insertSignal s =
      { s with signals := o.signals.foldl .emplace s.signals } :=
    fun s => List.foldl_hom (fun m => { s with signals := m }) fun _ _ => rfl
  have hDerailers : ∀ s : EngineState, o.derailers.foldl .insertDerailer s =
      { s with derailers := o.derailers.foldl .emplace s.derailers } :=
    fun s => List.foldl_hom (fun m => { s with derailers := m }) fun _ _ => rfl
  rw [hNodes, hSections, hSwitches, hBlocks, hSignals, hDerailers, insertInto]

section Arrays

variable {path : String} {doc : Json} {s t : EngineState}

theorem loadObjectArrays_cons {α : Type} {make : String → Json → Except String α}
    {insert : EngineState → α → EngineState} {key : String} {kinds : List ObjectKind} :
    loadObjectArrays path doc s (⟨key, insertRead make insert⟩ :: kinds) = .ok t ↔
      doc.isObject = true ∧ ∃ made, (entries doc key).mapM (make path) = .ok made ∧
        loadObjectArrays path doc (made.foldl insert s) kinds = .ok t := by
  rw [loadObjectArrays, List.foldlM_cons]
  have hFold : ∀ values : List Json, values.foldlM (insertRead make insert path) s =
      values.mapM (make path) >>= fun made => pure (made.foldl insert s) :=
    fun values => foldlM_make (make path) insert values s
  simp only [hFold, bind_ok_iff, arrayOf_ok_iff]
  constructor
  · rintro ⟨u, ⟨values, ⟨hObject, rfl⟩, made, hMade, hInsert⟩, hRest⟩
    cases hInsert
    exact ⟨hObject, made, hMade, hRest⟩
  · rintro ⟨hObject, made, hMade, hRest⟩
    exact ⟨_, ⟨_, ⟨hObject, rfl⟩, made, hMade, rfl⟩, hRest⟩

theorem loadObjectArrays_nil : loadObjectArrays path doc s [] = .ok t ↔ s = t := by
  rw [loadObjectArrays, List.foldlM_nil]
  exact Iff.of_eq (Except.ok.injEq s t)

theorem loadTopologyKinds_ok_iff : loadObjectArrays path doc s kTopologyKinds = .ok t ↔ doc.isObject = true ∧
    ∃ nodes sections switches blocks, (entries doc "boundary_nodes").mapM (boundaryNode path) = .ok nodes ∧
      (entries doc "track_sections").mapM (trackSection path) = .ok sections ∧
      (entries doc "switches").mapM (switch path) = .ok switches ∧
      (entries doc "block_sections").mapM (blockSection path) = .ok blocks ∧
      blocks.foldl .insertBlockSection (switches.foldl .insertSwitch (sections.foldl .insertTrackSection
        (nodes.foldl .insertBoundaryNode s))) = t := by
  simp only [kTopologyKinds, loadBoundaryNode, loadTrackSection, loadSwitch, loadBlockSection,
    loadObjectArrays_cons, loadObjectArrays_nil]
  constructor
  · rintro ⟨hObject, nodes, hNodes, -, sections, hSections, -, switches, hSwitches, -, blocks, hBlocks, hInsert⟩
    exact ⟨hObject, nodes, sections, switches, blocks, hNodes, hSections, hSwitches, hBlocks, hInsert⟩
  · rintro ⟨hObject, nodes, sections, switches, blocks, hNodes, hSections, hSwitches, hBlocks, hInsert⟩
    exact ⟨hObject, nodes, hNodes, hObject, sections, hSections, hObject, switches, hSwitches, hObject, blocks,
      hBlocks, hInsert⟩

theorem loadObjectsKinds_ok_iff : loadObjectArrays path doc s kObjectsKinds = .ok t ↔ doc.isObject = true ∧
    ∃ signals derailers, (entries doc "signals").mapM (signal path) = .ok signals ∧
      (entries doc "derailers").mapM (derailer path) = .ok derailers ∧
      derailers.foldl .insertDerailer (signals.foldl .insertSignal s) = t := by
  simp only [kObjectsKinds, loadSignal, loadDerailer, loadObjectArrays_cons, loadObjectArrays_nil]
  constructor
  · rintro ⟨hObject, signals, hSignals, -, derailers, hDerailers, hInsert⟩
    exact ⟨hObject, signals, derailers, hSignals, hDerailers, hInsert⟩
  · rintro ⟨hObject, signals, derailers, hSignals, hDerailers, hInsert⟩
    exact ⟨hObject, signals, hSignals, hObject, derailers, hDerailers, hInsert⟩

end Arrays

/-- A scenario without an objects file loads as one whose objects file lists nothing. -/
theorem loadScenario_eq (s : EngineState) (dir : ScenarioFiles) : loadScenario s dir = do
    let result ← scenarioMeta dir.metaJson
    let s₁ ← loadObjectArrays (dir.path ++ "/topology.json") dir.topologyJson (s.setSessionId result.stationSid)
      kTopologyKinds
    let s₂ ← loadObjectArrays (dir.path ++ "/objects.json") (dir.objectsJson.getD (.object [])) s₁ kObjectsKinds
    return (s₂, result) := by
  unfold loadScenario
  cases dir.objectsJson <;> rfl

/-- A scenario loads when its documents are objects and the loader makes an object of every entry. -/
theorem loadScenario_ok_iff {s t : EngineState} {dir : ScenarioFiles} {result : ScenarioMeta} :
    loadScenario s dir = .ok (t, result) ↔ scenarioMeta dir.metaJson = .ok result ∧
      dir.topologyJson.isObject = true ∧ (dir.objectsJson.getD (.object [])).isObject = true ∧
      ∃ o : Loaded, o.Made dir.path dir.topologyJson (dir.objectsJson.getD (.object [])) ∧
        o.insertInto (s.setSessionId result.stationSid) = t := by
  rw [loadScenario_eq]
  simp only [bind_ok_iff, loadTopologyKinds_ok_iff, loadObjectsKinds_ok_iff]
  constructor
  · rintro ⟨result', hMeta, s₄, ⟨hTopology, nodes, sections, switches, blocks, hNodes, hSections, hSwitches, hBlocks,
      rfl⟩, s₆, ⟨hObjects, signals, derailers, hSignals, hDerailers, rfl⟩, hEnd⟩
    cases hEnd
    exact ⟨hMeta, hTopology, hObjects, ⟨nodes, sections, switches, blocks, signals, derailers⟩,
      ⟨hNodes, hSections, hSwitches, hBlocks, hSignals, hDerailers⟩, Loaded.insertInto_eq _ _⟩
  · rintro ⟨hMeta, hTopology, hObjects, o, hMade, rfl⟩
    refine ⟨result, hMeta, _, ⟨hTopology, _, _, _, _, hMade.boundaryNodes, hMade.trackSections, hMade.switches,
      hMade.blockSections, rfl⟩, _, ⟨hObjects, _, _, hMade.signals, hMade.derailers, rfl⟩, ?_⟩
    rw [Loaded.insertInto_eq]
    rfl

/-! ## The documents behind the values -/

theorem isPresent_uidField (j : Json) (key : String) : (uidField j key).isPresent = j.contains key := by
  unfold uidField Json.contains
  cases j.member key with
  | none => rfl
  | some v => cases v <;> rfl

theorem map_mk_value (uids : List UID) : (uids.map UID.value).map UID.mk = uids := by
  rw [List.map_map]
  exact List.map_id uids

section Docs

variable {path : String} {j : Json}

theorem exists_trackPortDoc {port : TrackPort} (h : parseTrackPort path j = .ok port) :
    ∃ doc : TrackPortDoc, Engine.parseTrackPort doc path = .ok port := by
  obtain ⟨neighborUid, hNeighbor, h⟩ := bind_ok h
  obtain ⟨counter, hCounter, h⟩ := bind_ok h
  obtain ⟨signalUids, -, h⟩ := bind_ok h
  cases h
  refine ⟨⟨uidField j "neighborUID", uidField j "itUID", uidField j "izUID", signalUids.map UID.value⟩, ?_⟩
  rw [requireUidField] at hNeighbor
  rw [Engine.parseTrackPort, hNeighbor, isPresent_uidField, isPresent_uidField, map_mk_value]
  unfold parseCounter at hCounter
  by_cases hIt : j.contains "itUID" = true
  · rw [if_pos hIt] at hCounter
    obtain ⟨counterUid, hUid, hCounter⟩ := bind_ok hCounter
    cases hCounter
    rw [requireUidField] at hUid
    simp [hIt, hUid, bind, Except.bind, pure, Except.pure]
  · rw [if_neg hIt] at hCounter
    by_cases hIz : j.contains "izUID" = true
    · rw [if_pos hIz] at hCounter
      obtain ⟨counterUid, hUid, hCounter⟩ := bind_ok hCounter
      cases hCounter
      rw [requireUidField] at hUid
      simp [hIt, hIz, hUid, bind, Except.bind, pure, Except.pure]
    · rw [if_neg hIz] at hCounter
      cases hCounter
      simp [hIt, hIz, bind, Except.bind, pure, Except.pure]

theorem exists_switchLegDoc {leg : SwitchLeg} (h : parseSwitchLeg path j = .ok leg) :
    ∃ doc : SwitchLegDoc, Engine.parseSwitchLeg doc path = .ok leg := by
  obtain ⟨neighborUid, hNeighbor, h⟩ := bind_ok h
  obtain ⟨izUid, hIz, h⟩ := bind_ok h
  obtain ⟨signalUids, -, h⟩ := bind_ok h
  cases h
  refine ⟨⟨uidField j "neighborUID", uidField j "izUID", signalUids.map UID.value⟩, ?_⟩
  rw [requireUidField] at hNeighbor
  rw [Engine.parseSwitchLeg, hNeighbor, isPresent_uidField, map_mk_value]
  unfold parseLegCounter at hIz
  by_cases hThere : j.contains "izUID" = true
  · rw [if_pos hThere, requireUidField] at hIz
    simp [hThere, hIz, bind, Except.bind, pure, Except.pure]
  · rw [if_neg hThere] at hIz
    cases hIz
    simp [hThere, bind, Except.bind, pure, Except.pure]

theorem exists_boundaryNodeDoc {n : BoundaryNode} (h : boundaryNode path j = .ok n) :
    ∃ doc : BoundaryNodeDoc, ∀ s, Engine.loadBoundaryNode path s doc = .ok (s.insertBoundaryNode n) := by
  obtain ⟨uid, hUid, h⟩ := bind_ok h
  obtain ⟨pid, -, h⟩ := bind_ok h
  obtain ⟨description, -, h⟩ := bind_ok h
  cases h
  rw [requireUidField] at hUid
  refine ⟨{ uid := uidField j "uid", pid, description := some description }, fun s => ?_⟩
  rw [Engine.loadBoundaryNode, hUid]
  rfl

theorem exists_trackSectionDoc {ts : TrackSection} (h : trackSection path j = .ok ts) :
    ∃ doc : TrackSectionDoc, ∀ s, Engine.loadTrackSection path s doc = .ok (s.insertTrackSection ts) := by
  obtain ⟨uid, hUid, h⟩ := bind_ok h
  obtain ⟨pid, -, h⟩ := bind_ok h
  obtain ⟨sideA, hA, h⟩ := bind_ok h
  obtain ⟨sideB, hB, h⟩ := bind_ok h
  obtain ⟨lengthM, -, h⟩ := bind_ok h
  obtain ⟨electrified, -, h⟩ := bind_ok h
  obtain ⟨maxSpeedKmh, -, h⟩ := bind_ok h
  obtain ⟨occupied, -, h⟩ := bind_ok h
  obtain ⟨stationSection, -, h⟩ := bind_ok h
  cases h
  rw [requireUidField] at hUid
  obtain ⟨v, -, hA⟩ := Json.atKey_ok hA
  obtain ⟨w, -, hB⟩ := Json.atKey_ok hB
  obtain ⟨docA, hA⟩ := exists_trackPortDoc hA
  obtain ⟨docB, hB⟩ := exists_trackPortDoc hB
  refine ⟨{ uid := uidField j "uid", pid, sideA := docA, sideB := docB, lengthM := some lengthM,
            electrified := some electrified, maxSpeedKmh := some maxSpeedKmh, occupied := some occupied,
            stationSection := some stationSection }, fun s => ?_⟩
  rw [Engine.loadTrackSection, hUid, hA, hB]
  rfl

theorem exists_switchDoc {sw : Switch} (h : switch path j = .ok sw) :
    ∃ doc : SwitchDoc, ∀ s, Engine.loadSwitch path s doc = .ok (s.insertSwitch sw) := by
  obtain ⟨uid, hUid, h⟩ := bind_ok h
  obtain ⟨pid, -, h⟩ := bind_ok h
  obtain ⟨typeId, -, h⟩ := bind_ok h
  obtain ⟨trunk, hTrunk, h⟩ := bind_ok h
  obtain ⟨straight, hStraight, h⟩ := bind_ok h
  obtain ⟨divergent, hDivergent, h⟩ := bind_ok h
  obtain ⟨lengthM, -, h⟩ := bind_ok h
  obtain ⟨maxSpeedStraightKmh, -, h⟩ := bind_ok h
  obtain ⟨maxSpeedDivergentKmh, -, h⟩ := bind_ok h
  cases h
  rw [requireUidField] at hUid
  obtain ⟨v, -, hTrunk⟩ := Json.atKey_ok hTrunk
  obtain ⟨w, -, hStraight⟩ := Json.atKey_ok hStraight
  obtain ⟨x, -, hDivergent⟩ := Json.atKey_ok hDivergent
  obtain ⟨docTrunk, hTrunk⟩ := exists_switchLegDoc hTrunk
  obtain ⟨docStraight, hStraight⟩ := exists_switchLegDoc hStraight
  obtain ⟨docDivergent, hDivergent⟩ := exists_switchLegDoc hDivergent
  refine ⟨{ uid := uidField j "uid", pid, typeId := some typeId, trunk := docTrunk, straight := docStraight,
            divergent := docDivergent, lengthM := some lengthM, maxSpeedStraightKmh := some maxSpeedStraightKmh,
            maxSpeedDivergentKmh := some maxSpeedDivergentKmh }, fun s => ?_⟩
  rw [Engine.loadSwitch, hUid, hTrunk, hStraight, hDivergent]
  rfl

theorem exists_blockSectionDoc {bs : BlockSection} (h : blockSection path j = .ok bs) :
    ∃ doc : BlockSectionDoc, ∀ s, Engine.loadBlockSection path s doc = .ok (s.insertBlockSection bs) := by
  obtain ⟨uid, hUid, h⟩ := bind_ok h
  obtain ⟨pid, -, h⟩ := bind_ok h
  obtain ⟨typeId, -, h⟩ := bind_ok h
  obtain ⟨neighborStationUid, hNeighbor, h⟩ := bind_ok h
  obtain ⟨lineNumber, -, h⟩ := bind_ok h
  obtain ⟨departureSignalUid, hDeparture, h⟩ := bind_ok h
  obtain ⟨entrySignalUid, hEntry, h⟩ := bind_ok h
  obtain ⟨szlakSectionUids, -, h⟩ := bind_ok h
  obtain ⟨state, hState, h⟩ := bind_ok h
  obtain ⟨direction, hDirection, h⟩ := bind_ok h
  cases h
  rw [requireUidField] at hUid hNeighbor hDeparture hEntry
  obtain ⟨initialState, -, hState⟩ := bind_ok hState
  obtain ⟨initialDirection, -, hDirection⟩ := bind_ok hDirection
  refine ⟨{ uid := uidField j "uid", pid, typeId := some typeId,
            neighborStationUid := uidField j "neighborStationUID", lineNumber := some lineNumber,
            departureSignalUid := uidField j "departureSignalUID", entrySignalUid := uidField j "entrySignalUID",
            szlakSectionUids := szlakSectionUids.map UID.value, initialState := some initialState,
            initialDirection := some initialDirection }, fun s => ?_⟩
  rw [Engine.loadBlockSection, hUid, hNeighbor, hDeparture, hEntry, map_mk_value]
  simp [hState, hDirection, bind, Except.bind, pure, Except.pure]

theorem exists_signalDoc {sig : Signal} (h : signal path j = .ok sig) :
    ∃ doc : SignalDoc, ∀ s, Engine.loadSignal path s doc = .ok (s.insertSignal sig) := by
  obtain ⟨uid, hUid, h⟩ := bind_ok h
  obtain ⟨pid, -, h⟩ := bind_ok h
  obtain ⟨typeId, -, h⟩ := bind_ok h
  obtain ⟨type, hType, h⟩ := bind_ok h
  obtain ⟨governsSectionUid, hGoverns, h⟩ := bind_ok h
  obtain ⟨currentAspect, hAspect, h⟩ := bind_ok h
  cases h
  rw [requireUidField] at hUid hGoverns
  obtain ⟨typeName, -, hType⟩ := bind_ok hType
  obtain ⟨initialAspect, -, hAspect⟩ := bind_ok hAspect
  refine ⟨{ uid := uidField j "uid", pid, typeId := some typeId, type := typeName,
            governsSection := uidField j "governs_section", initialAspect := some initialAspect }, fun s => ?_⟩
  rw [Engine.loadSignal, hUid, hType, hGoverns]
  simp [hAspect, bind, Except.bind, pure, Except.pure]

theorem exists_derailerDoc {d : Derailer} (h : derailer path j = .ok d) :
    ∃ doc : DerailerDoc, ∀ s, Engine.loadDerailer path s doc = .ok (s.insertDerailer d) := by
  obtain ⟨uid, hUid, h⟩ := bind_ok h
  obtain ⟨pid, -, h⟩ := bind_ok h
  obtain ⟨typeId, -, h⟩ := bind_ok h
  obtain ⟨guardsSectionUid, hGuards, h⟩ := bind_ok h
  cases h
  rw [requireUidField] at hUid hGuards
  refine ⟨{ uid := uidField j "uid", pid, typeId := some typeId, guardsSection := uidField j "guards_section" },
    fun s => ?_⟩
  rw [Engine.loadDerailer, hUid, hGuards]
  rfl

end Docs

theorem exists_docs {α δ : Type} {make : Json → Except String α}
    {load : EngineState → δ → Except String EngineState} {insert : EngineState → α → EngineState}
    (hDoc : ∀ {j a}, make j = .ok a → ∃ doc, ∀ s, load s doc = .ok (insert s a)) {values : List Json}
    {made : List α} (h : values.mapM make = .ok made) :
    ∃ docs : List δ, ∀ s, docs.foldlM load s = .ok (made.foldl insert s) := by
  induction values generalizing made with
  | nil =>
    cases h
    exact ⟨[], fun s => rfl⟩
  | cons j values ih =>
    rw [List.mapM_cons] at h
    obtain ⟨a, hHead, h⟩ := bind_ok h
    obtain ⟨rest, hTail, h⟩ := bind_ok h
    cases h
    obtain ⟨doc, hDoc⟩ := hDoc hHead
    obtain ⟨docs, hDocs⟩ := ih hTail
    refine ⟨doc :: docs, fun s => ?_⟩
    rw [List.foldlM_cons, hDoc s]
    exact hDocs (insert s a)

/-- What loads from JSON values loads from documents. -/
theorem exists_scenarioDir {s t : EngineState} {dir : ScenarioFiles} {result : ScenarioMeta}
    (h : loadScenario s dir = .ok (t, result)) :
    ∃ docs : ScenarioDir, docs.path = dir.path ∧ Engine.loadScenario s docs = .ok (t, result) := by
  obtain ⟨hMeta, -, -, o, hMade, rfl⟩ := loadScenario_ok_iff.mp h
  obtain ⟨boundaryNodes, hNodes⟩ := exists_docs exists_boundaryNodeDoc hMade.boundaryNodes
  obtain ⟨trackSections, hSections⟩ := exists_docs exists_trackSectionDoc hMade.trackSections
  obtain ⟨switches, hSwitches⟩ := exists_docs exists_switchDoc hMade.switches
  obtain ⟨blockSections, hBlocks⟩ := exists_docs exists_blockSectionDoc hMade.blockSections
  obtain ⟨signals, hSignals⟩ := exists_docs exists_signalDoc hMade.signals
  obtain ⟨derailers, hDerailers⟩ := exists_docs exists_derailerDoc hMade.derailers
  refine ⟨{ path := dir.path
            metaJson := ⟨result.stationSid, result.controlSystemId, some result.schemaVersion⟩
            topologyJson := { boundaryNodes, trackSections, switches, blockSections }
            objectsJson := some { signals, derailers } }, rfl, ?_⟩
  simp only [Engine.loadScenario, loadTopologyKinds, loadObjectsKinds, hNodes, hSections, hSwitches, hBlocks,
    hSignals, hDerailers, bind, Except.bind, pure, Except.pure, Option.getD_some, Loaded.insertInto_eq]

end Symulator.Engine.JsonLoader
