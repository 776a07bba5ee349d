import Mathlib.Data.List.Lex
import Mathlib.Data.List.Sort
import Mathlib.Data.String.Basic
import Symulator.Fleet.FleetTypes
import Symulator.Library.Json

/-! # Reading the fields of a fleet file

Each reader names the field and the file in its error. What a vehicle does not say itself it has from its type.
-/

namespace Symulator.Fleet

open Symulator.Engine Symulator.Library

set_option autoImplicit false

def ensure (condition : Prop) [Decidable condition] (error : String) : Except String Unit :=
  if condition then .ok () else .error error

theorem of_ensure {condition : Prop} [Decidable condition] {error : String} {u : Unit}
    (h : ensure condition error = .ok u) : condition := by
  unfold ensure at h
  split at h
  · assumption
  · cases h

theorem ensure_ok_iff {condition : Prop} [Decidable condition] {error : String} {u : Unit} :
    ensure condition error = .ok u ↔ condition :=
  ⟨of_ensure, fun h => if_pos h⟩

section Readers

variable {α : Type}

def fieldError (what key path : String) : String := what ++ " '" ++ key ++ "' in " ++ path

def requireField (what : String) (test : Json → Bool) (get : Json → Except String α) (j : Json) (key path : String) :
    Except String α :=
  if j.hasField key test then j.atKey key get
  else .error (fieldError ("Missing or invalid " ++ what ++ " field") key path)

def requireString := requireField "string" Json.isString Json.getString
def requireInt := requireField "numeric" Json.isNumber Json.getInt32
def requireFloat := requireField "numeric" Json.isNumber Json.getFloat

def requireUid (j : Json) (key path : String) : Except String UID := do
  let value ← requireField "UID" Json.isUnsigned Json.getUint64 j key path
  ensure (uidIsSafeJsonInteger ⟨value⟩)
    ("UID field '" ++ key ++ "' exceeds the JSON-safe integer range in " ++ path)
  return ⟨value⟩

/-- A field that is not there or null has no value, any other must pass the test. -/
def optionalField (what : String) (test : Json → Bool) (get : Json → Except String α) (j : Json) (key path : String) :
    Except String (Option α) :=
  match j.member key with
  | none | some .null => .ok none
  | some v => if test v then some <$> get v else .error (fieldError what key path)

def optionalFloat := optionalField "Invalid numeric field" Json.isNumber Json.getFloat
def optionalBool := optionalField "Invalid boolean field" Json.isBoolean Json.getBool

def optionalString (j : Json) (key : String) : String :=
  match j.member key with
  | some (.string s) => s
  | _ => ""

def resolveOverride (what : String) (get : Json → Except String α) (j : Json) (key : String) (fallback : α)
    (path : String) : Except String α :=
  (·.getD fallback) <$> optionalField what Json.isNumber get j key path

def resolveFloatOverride := resolveOverride "Invalid numeric override" Json.getFloat
def resolveIntOverride := resolveOverride "Invalid integer override" Json.getInt32

/-- Null takes away what the type has. -/
def resolveOptionalFloatOverride (j : Json) (key : String) (fallback : Option Rat) (path : String) :
    Except String (Option Rat) :=
  match j.member key with
  | none => .ok fallback
  | some _ => optionalField "Invalid numeric override" Json.isNumber Json.getFloat j key path

end Readers

def parseTractionStatus (value path : String) : Except String TractionStatus :=
  let upper := toUpper value
  if upper = "OPERATIONAL" then .ok .operational
  else if upper = "DEFECTIVE" then .ok .defective
  else .error ("Invalid tractionStatus value '" ++ value ++ "' in " ++ path)

def optionalTractionStatus (j : Json) (key path : String) : Except String (Option TractionStatus) :=
  optionalField "Invalid string field" Json.isString
    (fun v => do parseTractionStatus (← v.getString) path) j key path

def parseTrainCategory (value path : String) : Except String TrainCategory :=
  let upper := toUpper value
  if upper = "PASSENGER" then .ok .passenger
  else if upper = "FREIGHT" then .ok .freight
  else if upper = "MAINTENANCE" then .ok .maintenance
  else .error ("Invalid trainCategory value '" ++ value ++ "' in " ++ path)

/-- The first folder under the trains; a file that lies in none of the known ones is of any category. -/
def categoryFromFolder (folders : List String) : Option TrainCategory :=
  match folders with
  | [] => none
  | first :: _ =>
    let upper := toUpper first
    if upper = "PASSENGER" ∨ upper = "LOCAL" then some .passenger
    else if upper = "FREIGHT" then some .freight
    else if upper = "SHUNTING" then some .maintenance
    else none

/-! ## Files -/

inductive FileContent
  | unreadable
  | malformed (what : String)
  | value (j : Json)

def FileContent.parse (path : String) : FileContent → Except String Json
  | .unreadable => .error ("Cannot open file: " ++ path)
  | .malformed what => .error ("JSON parse error in " ++ path ++ ": " ++ what)
  | .value j => .ok j

/-- A file, with the folders it lies in under the directory that is gone through. -/
structure DataFile where
  folders : List String := []
  name : String
  content : FileContent

def DataFile.parts (file : DataFile) : List String := file.folders ++ [file.name]

def DataFile.path (dir : String) (file : DataFile) : String := "/".intercalate (dir :: file.parts)

/-- An extension does not begin the name. -/
def isJsonFile (file : DataFile) : Bool :=
  ".json".toList.isSuffixOf file.name.toList && file.name ≠ ".json"

def isVehicleFile (file : DataFile) : Bool := file.name = "vehicle.json"

def collectFiles (keep : DataFile → Bool) (dir : String) (files : Option (List DataFile)) :
    Except String (List DataFile) :=
  match files with
  | none => .error ("Missing directory: " ++ dir)
  | some files => .ok ((files.filter keep).insertionSort fun file other => file.parts ≤ other.parts)

def collectJsonFiles := collectFiles isJsonFile
def collectVehicleFiles := collectFiles isVehicleFile

def emplaceNew {α : Type} [Keyed UID α] (what path : String) (table : KeyedMap UID α) (value : α) :
    Except String (KeyedMap UID α) := do
  ensure (table.find (Keyed.key value)).isNone
    ("Duplicate " ++ what ++ ": " ++ toString (Keyed.key value : UID).value ++ " in " ++ path)
  return table.emplace value

/-- Going through a directory: each file is parsed, and what it holds is taken into the table. -/
def loadTable {α : Type} [Keyed UID α] (what dir : String) (make : DataFile → Json → Except String α)
    (files : List DataFile) : Except String (KeyedMap UID α) :=
  files.foldlM (fun table file => do
    let j ← file.content.parse (file.path dir)
    emplaceNew what (file.path dir) table (← make file j)) .empty

theorem made_of_loadTable {α : Type} [Keyed UID α] {what dir : String} {make : DataFile → Json → Except String α}
    {files : List DataFile} {table : KeyedMap UID α} (h : loadTable what dir make files = .ok table) :
    ∀ value ∈ table.values, ∃ file j, make file j = .ok value := by
  refine foldlM_ok (P := fun table : KeyedMap UID α => ∀ value ∈ table.values, ∃ file j, make file j = .ok value)
    ?_ ?_ h
  · intro before file after hBefore hStep
    obtain ⟨j, -, hStep⟩ := bind_ok hStep
    obtain ⟨value, hMake, hStep⟩ := bind_ok hStep
    obtain ⟨_, -, hStep⟩ := bind_ok hStep
    cases hStep
    exact KeyedMap.forall_emplace hBefore ⟨file, j, hMake⟩
  · intro value hValue
    cases hValue

end Symulator.Fleet
