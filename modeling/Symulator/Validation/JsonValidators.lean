import Symulator.Engine.JsonLoader
import Symulator.Validation.Layer1Validator

/-! # The validators on JSON values

Both layers as they go through the JSON values of a scenario. A field is mostly looked at only when it is there
and holds an unsigned number; where a number or a string is taken from a field without such a look, a value of
another type makes the validator throw.
-/

namespace Symulator.Validation

open Symulator.Library Symulator.Engine Symulator.Engine.JsonLoader

set_option autoImplicit false

namespace JsonLayer1

/-- The text of a field that holds a string. -/
def stringField (obj : Json) (key : String) : String :=
  match obj.member key with
  | some (.string s) => s
  | _ => ""

def checkRequiredFields (obj : Json) (context : String) : List ValidationIssue :=
  Layer1.checkRequiredFields (uidField obj "uid") (stringField obj "pID") context

def uidsOf (values : List Json) : List UidField := values.map fun obj => uidField obj "uid"

def legIzUid (sw : Json) (leg : String) : Except String (List Nat) :=
  match (sw.member leg).bind fun l => l.member "izUID" with
  | none => return []
  | some value => do
    let iz ← value.getUint64
    return if iz ≠ 0 then [iz] else []

def collectSwitchIzUids (topology : Json) : Except String (List Nat) := do
  let switches ← arrayOf topology "switches"
  let izUids ← switches.mapM fun sw => ["trunk", "straight", "divergent"].mapM (legIzUid sw)
  return izUids.flatten.flatten

def collectSectionUids (topology : Json) : Except String (List Nat) := do
  return collectUids (uidsOf (← arrayOf topology "track_sections"))

def collectSignalUids (objects : Json) : Except String (List Nat) := do
  return collectUids (uidsOf (← arrayOf objects "signals"))

def checkIzUid (switchIzUids : List Nat) (uid : Nat) (side : String) (s : Json) : List ValidationIssue :=
  match unsignedValue (uidField s "izUID") with
  | none => []
  | some iz =>
    if iz = 0 ∨ iz ∈ switchIzUids then []
    else
      [issue "L1-003"
        ("TrackSection uid=" ++ toString uid ++ " " ++ side ++ ".izUID=" ++ toString iz ++
          " does not match any switch leg Iz counter")]

def checkSignalUids (sigUids : List Nat) (uid : Nat) (side : String) (s : Json) : List ValidationIssue :=
  match s.member "signalUIDs" with
  | none => []
  | some signals =>
    signals.elements.flatMap fun sigUidJson =>
      match sigUidJson with
      | .unsigned sigUid =>
        if sigUid = 0 ∨ sigUid ∈ sigUids then []
        else
          [issue "L1-004"
            ("TrackSection uid=" ++ toString uid ++ " " ++ side ++
              ".signalUIDs[] references unknown signal uid=" ++ toString sigUid)]
      | _ => []

def checkSide (switchIzUids sigUids : List Nat) (ot : Json) (side : String) : List ValidationIssue :=
  match ot.member side with
  | none => []
  | some s =>
    checkIzUid switchIzUids (shownUid (uidField ot "uid")) side s ++
      checkSignalUids sigUids (shownUid (uidField ot "uid")) side s

def checkTrackSection (switchIzUids sigUids : List Nat) (ot : Json) : List ValidationIssue :=
  checkRequiredFields ot "track_section" ++ ["sideA", "sideB"].flatMap (checkSide switchIzUids sigUids ot)

def checkGovernsSection (sectionUids : List Nat) (sig : Json) : Except String (List ValidationIssue) :=
  match sig.member "governs_section" with
  | none => return []
  | some value => do
    let otUid ← value.getUint64
    return if otUid = 0 ∨ otUid ∈ sectionUids then []
      else
        [issue "L1-005"
          ("Signal uid=" ++ toString (shownUid (uidField sig "uid")) ++ " governs_section=" ++ toString otUid ++
            " does not reference a known track_section")]

def checkInitialAspect (sig : Json) : Except String (List ValidationIssue) :=
  match sig.member "initial_aspect" with
  | none => return []
  | some value => do
    let aspect ← value.getString
    return if aspect ∈ Layer1.kValidAspects then []
      else
        [issue "L1-006"
          ("Signal uid=" ++ toString (shownUid (uidField sig "uid")) ++ " has invalid initial_aspect '" ++ aspect ++
            "'")]

def checkSignal (sectionUids : List Nat) (sig : Json) : Except String (List ValidationIssue) := do
  let governs ← checkGovernsSection sectionUids sig
  let aspect ← checkInitialAspect sig
  return checkRequiredFields sig "signal" ++ governs ++ aspect

def validate (topology objects : Json) : Except String ValidationResult := do
  let nodes ← arrayOf topology "boundary_nodes"
  let switchIzUids ← collectSwitchIzUids topology
  let sigUids ← collectSignalUids objects
  let sections ← arrayOf topology "track_sections"
  let switches ← arrayOf topology "switches"
  let sectionUids ← collectSectionUids topology
  let signals ← arrayOf objects "signals"
  let signalIssues ← signals.mapM (checkSignal sectionUids)
  let allUids := collectUids (uidsOf nodes) ++ (uidsOf sections).map shownUid ++ collectUids (uidsOf switches) ++
    (uidsOf signals).map shownUid
  return {
    issues :=
      nodes.flatMap (fun node => checkRequiredFields node "boundary_node") ++
        sections.flatMap (checkTrackSection switchIzUids sigUids) ++
        switches.flatMap (fun sw => checkRequiredFields sw "switch") ++
        signalIssues.flatten ++ Layer1.checkDuplicateUids [] allUids }

end JsonLayer1

namespace JsonLayer2

open JsonLayer1

/-- The number under `uid` where there is one, zero where the field is missing. -/
def uidNumber (obj : Json) : Except String Nat :=
  match obj.member "uid" with
  | none => return 0
  | some value => value.getUint64

def checkNeighbor (zwrUids bndUids : List Nat) (uid : Nat) (side : String) (neighbor : Nat) :
    List ValidationIssue :=
  let reference := "track_section uid=" ++ toString uid ++ " " ++ side ++ ".neighborUID=" ++ toString neighbor ++
    " references unknown "
  if neighbor = 0 then []
  else if kindByte neighbor = 0x14 then
    if neighbor ∈ zwrUids then [] else [issue "L2-002" (reference ++ "switch")]
  else if kindByte neighbor = 0x18 then
    if neighbor ∈ bndUids then [] else [issue "L2-003" (reference ++ "boundary_node")]
  else []

def checkLegNeighbor (otUids bndUids : List Nat) (uid : Nat) (leg : String) (neighbor : Nat) :
    List ValidationIssue :=
  if neighbor = 0 ∨ neighbor ∈ otUids ∨ neighbor ∈ bndUids then []
  else
    [issue "L2-004"
      ("switch uid=" ++ toString uid ++ " " ++ leg ++ ".neighborUID=" ++ toString neighbor ++
        " references unknown track_section or boundary_node")]

/-- A side or a leg is checked only where it is there and has an unsigned neighbour. -/
def checkEnd (check : Nat → String → Nat → List ValidationIssue) (obj : Json) (uid : Nat) (key : String) :
    List ValidationIssue :=
  match (obj.member key).bind fun part => unsignedValue (uidField part "neighborUID") with
  | none => []
  | some neighbor => check uid key neighbor

def checkTrackSection (zwrUids bndUids : List Nat) (ot : Json) : Except String (List ValidationIssue) := do
  let uid ← uidNumber ot
  return ["sideA", "sideB"].flatMap (checkEnd (checkNeighbor zwrUids bndUids) ot uid)

def checkSwitch (otUids bndUids : List Nat) (sw : Json) : Except String (List ValidationIssue) := do
  let uid ← uidNumber sw
  return ["trunk", "straight", "divergent"].flatMap (checkEnd (checkLegNeighbor otUids bndUids) sw uid)

def checkSignal (otUids : List Nat) (sig : Json) : Except String (List ValidationIssue) := do
  let uid ← uidNumber sig
  match unsignedValue (uidField sig "governs_section") with
  | none => return []
  | some otUid =>
    return if otUid = 0 ∨ otUid ∈ otUids then []
      else
        [issue "L2-005"
          ("signal uid=" ++ toString uid ++ " governs_section=" ++ toString otUid ++
            " references unknown track_section")]

def validate (stationInstance : Int) (topology objects : Json) : Except String ValidationResult := do
  let sections ← arrayOf topology "track_sections"
  let nodes ← arrayOf topology "boundary_nodes"
  let switches ← arrayOf topology "switches"
  let signals ← arrayOf objects "signals"
  let otUids := collectUids (uidsOf sections)
  let bndUids := collectUids (uidsOf nodes)
  let zwrUids := collectUids (uidsOf switches)
  let sectionIssues ← sections.mapM (checkTrackSection zwrUids bndUids)
  let switchIssues ← switches.mapM (checkSwitch otUids bndUids)
  let signalIssues ← signals.mapM (checkSignal otUids)
  return {
    issues :=
      checkScope stationInstance "boundary_node" (uidsOf nodes) ++
        checkScope stationInstance "track_section" (uidsOf sections) ++
        checkScope stationInstance "switch" (uidsOf switches) ++
        checkScope stationInstance "signal" (uidsOf signals) ++
        sectionIssues.flatten ++ switchIssues.flatten ++ signalIssues.flatten }

end JsonLayer2

/-- Both layers come to a result, without an error in it. -/
structure NoErrors (stationInstance : Int) (topology objects : Json) : Prop where
  layer1 : ∃ result, JsonLayer1.validate topology objects = .ok result ∧ result.ok = true
  layer2 : ∃ result, JsonLayer2.validate stationInstance topology objects = .ok result ∧ result.ok = true

end Symulator.Validation
