import Symulator.Library.KeyedMap
import Symulator.Library.Overwrite
import Symulator.Tools.JsonLoader

/-! # Saving what an editor edits

The service starts from the document in the file, or from an empty one, sets the fields it owns and writes the document
over the file. The texts of a request are bytes: only those in UTF-8 have a JSON text.
-/

namespace Symulator.Tools

open Symulator.Library Symulator.Engine Symulator.Fleet

set_option autoImplicit false

/-! ## Documents -/

/-- A value read from a file or made of a number, or a text set by the service. -/
inductive Value
  | json (value : Json)
  | text (bytes : ByteArray)

/-- A text of other bytes than UTF-8 is no JSON value. -/
def Value.json? : Value → Option Json
  | .json value => some value
  | .text bytes => (String.fromUTF8? bytes).map .string

structure Member where
  key : String
  value : Value

instance : Keyed String Member := ⟨Member.key⟩

abbrev Document := KeyedMap String Member

namespace Document

def ofJson : Json → Document
  | .object members => (members.map fun m => ⟨m.1, .json m.2⟩).foldl .emplace .empty
  | _ => .empty

def set (document : Document) (key : String) (value : Value) : Document := (document.erase key).emplace ⟨key, value⟩

def member (document : Document) (key : String) : Option Json := (document.find key).bind fun m => m.value.json?

/-- Every text of the document is in UTF-8. -/
def isUtf8 (document : Document) : Bool := document.values.all fun m => m.value.json?.isSome

@[simp] theorem find_set (document : Document) (key key' : String) (value : Value) :
    (document.set key value).find key' = if key' = key then some ⟨key, value⟩ else document.find key' := by
  have hKey : (if (Keyed.key (⟨key, value⟩ : Member) : String) = key' then some (⟨key, value⟩ : Member) else none) =
      if key' = key then some ⟨key, value⟩ else none := if_congr eq_comm rfl rfl
  rw [set, KeyedMap.find_emplace, KeyedMap.find_erase, hKey]
  split
  · exact Option.none_or
  · exact Option.or_none

theorem isUtf8_iff {document : Document} :
    document.isUtf8 = true ↔ ∀ key m, document.find key = some m → m.value.json?.isSome = true := by
  rw [isUtf8, List.all_eq_true]
  constructor
  · intro h key m hFind
    exact h m (KeyedMap.find_eq_some_iff.mp hFind).1
  · intro h m hm
    exact h m.key m (KeyedMap.find_key hm)

theorem find_ofJson (members : List (String × Json)) (key : String) :
    (ofJson (.object members)).find key =
      ((Json.object members).member key).map fun value => ⟨key, .json value⟩ := by
  rw [ofJson, KeyedMap.find_foldl_emplace, KeyedMap.find_empty, Option.none_or, List.find?_map, Json.member,
    Option.map_map]
  cases hFind : members.find? fun entry => decide (entry.1 = key) with
  | none => exact congrArg _ hFind
  | some entry =>
    have hKey : entry.1 = key := by simpa using List.find?_some hFind
    refine (congrArg _ hFind).trans ?_
    rw [← hKey]
    rfl

end Document

structure JsonText where
  parse : ByteArray → Except String Json
  dump : Document → Except String ByteArray

def newline : ByteArray := "\n".toUTF8

/-- The document is written unless a text of it is not in UTF-8, and read back with the same members. -/
structure JsonText.WritesBack (json : JsonText) (document : Document) : Prop where
  isOk_dump : (json.dump document).isOk = document.isUtf8
  parse_dump : ∀ {text}, json.dump document = .ok text →
    ∃ members, json.parse (text ++ newline) = .ok (.object members) ∧
      ∀ key, (Json.object members).member key = document.member key

/-! ## The service -/

structure VehicleSaveRequest where
  file : String
  preserveExistingFields : Bool := false
  uid : UID
  typeUid : UID
  pid : ByteArray
  displayName : ByteArray := .empty
  carrierId : Option UID := none
  inventoryNumber : Option ByteArray := none
  notes : Option ByteArray := none

structure TrainSaveRequest where
  file : String
  preserveExistingFields : Bool := false
  uid : UID
  pid : ByteArray
  displayName : ByteArray := .empty
  trainCategory : ByteArray
  carrierId : Option UID := none
  vehicleUids : List UID

def shownName (displayName pid : ByteArray) : ByteArray := if displayName.isEmpty then pid else displayName

namespace EditorPersistenceService

variable (json : JsonText)

def loadBaseDocument (path : String) (preserveExisting : Bool) (file : FileState) : Except String Json :=
  if !preserveExisting || file.content.isNone then .ok (.object [])
  else
    match file.input with
    | none => .error ("Cannot open existing JSON file: " ++ path)
    | some text =>
      match json.parse text with
      | .error e => .error ("Cannot parse existing JSON file " ++ path ++ ": " ++ e)
      | .ok document =>
        if document.isObject then .ok document
        else .error ("Existing JSON root must be an object: " ++ path)

/-- The stream empties the file when it opens, before the document is turned into text. -/
def writeDocument (path : String) (document : Document) (label : String) (file : FileState) :
    Except String Unit × FileState :=
  match file.folders with
  | .error e => (.error e, file)
  | .ok _ =>
    if file.writable then
      match json.dump document with
      | .error e => (.error e, { file with content := some .empty })
      | .ok text => (.ok (), { file with content := some (text ++ newline) })
    else (.error ("Cannot create " ++ label ++ " JSON file: " ++ path), file)

def ensureNonEmpty (value : ByteArray) (label : String) : Except String Unit :=
  ensure (!value.isEmpty) (label ++ " is required")

def ensurePersistableUid (uid : UID) (label : String) : Except String Unit :=
  ensure (uid.value ≠ 0 ∧ uidIsSafeJsonInteger uid = true) (label ++ " must be a non-zero JSON-safe UID")

def setOptionalString (document : Document) (key : String) (value : Option ByteArray) : Document :=
  match value with
  | some text => if text.isEmpty then document.erase key else document.set key (.text text)
  | none => document.erase key

def setOptionalUid (document : Document) (key : String) (value : Option UID) : Except String Document :=
  match value with
  | some uid => do
    ensurePersistableUid uid key
    return document.set key (.json (.unsigned uid.value))
  | none => return document.erase key

def vehicleDocument (request : VehicleSaveRequest) (file : FileState) : Except String Document := do
  ensurePersistableUid request.uid "Vehicle UID"
  ensurePersistableUid request.typeUid "Vehicle type UID"
  ensureNonEmpty request.pid "Vehicle pID"
  let document := Document.ofJson (← loadBaseDocument json request.file request.preserveExistingFields file)
  let document := document.set "uid" (.json (.unsigned request.uid.value))
  let document := document.set "type_uid" (.json (.unsigned request.typeUid.value))
  let document := document.set "pID" (.text request.pid)
  let document := document.set "displayName" (.text (shownName request.displayName request.pid))
  let document ← setOptionalUid document "carrierId" request.carrierId
  let document := setOptionalString document "inventoryNumber" request.inventoryNumber
  return setOptionalString document "notes" request.notes

def vehicleUid (uid : UID) : Except String Json := do
  ensurePersistableUid uid "Train vehicle UID"
  return .unsigned uid.value

def trainDocument (request : TrainSaveRequest) (file : FileState) : Except String Document := do
  ensurePersistableUid request.uid "Train UID"
  ensureNonEmpty request.pid "Train pID"
  ensureNonEmpty request.trainCategory "Train category"
  ensure (!request.vehicleUids.isEmpty) "Cannot save an empty train consist"
  let document := Document.ofJson (← loadBaseDocument json request.file request.preserveExistingFields file)
  let document := document.set "uid" (.json (.unsigned request.uid.value))
  let document := document.set "pID" (.text request.pid)
  let document := document.set "displayName" (.text (shownName request.displayName request.pid))
  let document := document.set "trainCategory" (.text request.trainCategory)
  let document ← setOptionalUid document "carrierId" request.carrierId
  let uids ← request.vehicleUids.mapM vehicleUid
  return document.set "vehicle_uids" (.json (.array uids))

def save (path label : String) (document : Except String Document) (file : FileState) :
    Except String Unit × FileState :=
  match document with
  | .error e => (.error e, file)
  | .ok document => writeDocument json path document label file

def saveVehicle (request : VehicleSaveRequest) (file : FileState) : Except String String × FileState :=
  let (saved, file) := save json request.file "vehicle" (vehicleDocument json request file) file
  (saved.map fun _ => request.file, file)

def saveTrain (request : TrainSaveRequest) (file : FileState) : Except String UID × FileState :=
  let (saved, file) := save json request.file "train" (trainDocument json request file) file
  (saved.map fun _ => request.uid, file)

end EditorPersistenceService

end Symulator.Tools
