import Symulator.Tools.EditorPersistence

/-! # Are the saves of the editors faithful?

A save either returns, and the loader reads back what was requested, or throws and leaves the file as it was. The
service opens the file before it knows whether the document has a text, and it keeps fields of the old file that the
loader may refuse.
-/

namespace Symulator.Tools

open Symulator.Library Symulator.Engine Symulator.Fleet

set_option autoImplicit false

/-! ## The fields of a request -/

/-- A text that is not filled in is not there. -/
def filledIn (value : Option ByteArray) : Option ByteArray :=
  value.bind fun text => if text.isEmpty then none else some text

namespace Document

def assign (document : Document) (field : String × Option Value) : Document :=
  match field.2 with
  | some value => document.set field.1 value
  | none => document.erase field.1

theorem find_assign (document : Document) (field : String × Option Value) (key : String) :
    (document.assign field).find key =
      if key = field.1 then field.2.map fun value => ⟨field.1, value⟩ else document.find key := by
  obtain ⟨name, value⟩ := field
  cases value with
  | none => exact KeyedMap.find_erase document name key
  | some value => exact find_set document name key value

theorem find_foldl_assign_of_notMem {fields : List (String × Option Value)} {key : String}
    (h : key ∉ fields.map Prod.fst) (document : Document) :
    (fields.foldl assign document).find key = document.find key := by
  induction fields generalizing document with
  | nil => rfl
  | cons field fields ih =>
    rw [List.map_cons, List.mem_cons, not_or] at h
    rw [List.foldl_cons, ih h.2, find_assign, if_neg h.1]

theorem find_foldl_assign_of_mem {fields : List (String × Option Value)} (hNodup : (fields.map Prod.fst).Nodup)
    {field : String × Option Value} (h : field ∈ fields) (document : Document) :
    (fields.foldl assign document).find field.1 = field.2.map fun value => ⟨field.1, value⟩ := by
  induction fields generalizing document with
  | nil => cases h
  | cons first fields ih =>
    rw [List.map_cons, List.nodup_cons] at hNodup
    rw [List.foldl_cons]
    cases h with
    | head => rw [find_foldl_assign_of_notMem hNodup.1, find_assign, if_pos rfl]
    | tail _ h => exact ih hNodup.2 h _

theorem isUtf8_foldl_assign {fields : List (String × Option Value)} (hNodup : (fields.map Prod.fst).Nodup)
    {document : Document} (hDocument : document.isUtf8 = true) :
    (fields.foldl assign document).isUtf8 = true ↔
      ∀ field ∈ fields, ∀ value ∈ field.2, value.json?.isSome = true := by
  rw [isUtf8_iff]
  constructor
  · intro h field hField value hValue
    refine h field.1 ⟨field.1, value⟩ ?_
    rw [find_foldl_assign_of_mem hNodup hField, Option.mem_def.mp hValue]
    rfl
  · intro h key m hFind
    by_cases hKey : key ∈ fields.map Prod.fst
    · obtain ⟨field, hField, rfl⟩ := List.mem_map.mp hKey
      rw [find_foldl_assign_of_mem hNodup hField] at hFind
      obtain ⟨value, hValue, rfl⟩ := Option.map_eq_some_iff.mp hFind
      exact h field hField value hValue
    · rw [find_foldl_assign_of_notMem hKey] at hFind
      exact isUtf8_iff.mp hDocument key m hFind

theorem isUtf8_ofJson {j : Json} (hObject : j.isObject = true) : (ofJson j).isUtf8 = true := by
  cases j with
  | object members =>
    rw [isUtf8_iff]
    intro key m hFind
    rw [find_ofJson] at hFind
    obtain ⟨value, -, rfl⟩ := Option.map_eq_some_iff.mp hFind
    rfl
  | _ => cases hObject

theorem member_ofJson {j : Json} (hObject : j.isObject = true) (key : String) :
    (ofJson j).member key = j.member key := by
  cases j with
  | object members =>
    rw [member, find_ofJson]
    cases (Json.object members).member key <;> rfl
  | _ => cases hObject

end Document

def FileState.opens (file : FileState) : Bool := file.folders.isOk && file.writable

def PersistableUid (uid : UID) : Prop := uid.value ≠ 0 ∧ uidIsSafeJsonInteger uid = true

structure VehicleSaveRequest.Persistable (request : VehicleSaveRequest) : Prop where
  uid : PersistableUid request.uid
  typeUid : PersistableUid request.typeUid
  pid : request.pid.isEmpty = false
  carrierId : ∀ uid ∈ request.carrierId, PersistableUid uid

structure TrainSaveRequest.Persistable (request : TrainSaveRequest) : Prop where
  uid : PersistableUid request.uid
  pid : request.pid.isEmpty = false
  trainCategory : request.trainCategory.isEmpty = false
  carrierId : ∀ uid ∈ request.carrierId, PersistableUid uid
  vehicles : request.vehicleUids ≠ []
  vehicleUids : ∀ uid ∈ request.vehicleUids, PersistableUid uid

def uidValue (uid : UID) : Value := .json (.unsigned uid.value)

def VehicleSaveRequest.fields (request : VehicleSaveRequest) : List (String × Option Value) :=
  [("uid", some (uidValue request.uid)), ("type_uid", some (uidValue request.typeUid)),
    ("pID", some (.text request.pid)), ("displayName", some (.text (shownName request.displayName request.pid))),
    ("carrierId", request.carrierId.map uidValue), ("inventoryNumber", (filledIn request.inventoryNumber).map .text),
    ("notes", (filledIn request.notes).map .text)]

def TrainSaveRequest.fields (request : TrainSaveRequest) : List (String × Option Value) :=
  [("uid", some (uidValue request.uid)), ("pID", some (.text request.pid)),
    ("displayName", some (.text (shownName request.displayName request.pid))),
    ("trainCategory", some (.text request.trainCategory)), ("carrierId", request.carrierId.map uidValue),
    ("vehicle_uids", some (.json (.array (request.vehicleUids.map fun uid => .unsigned uid.value))))]

theorem VehicleSaveRequest.nodup_fields (request : VehicleSaveRequest) : (request.fields.map Prod.fst).Nodup := by
  simp [fields]

theorem TrainSaveRequest.nodup_fields (request : TrainSaveRequest) : (request.fields.map Prod.fst).Nodup := by
  simp [fields]

namespace EditorPersistenceService

variable (json : JsonText)

theorem setOptionalString_eq (document : Document) (key : String) (value : Option ByteArray) :
    setOptionalString document key value = document.assign (key, (filledIn value).map .text) := by
  unfold setOptionalString filledIn
  cases value with
  | none => rfl
  | some text => cases hEmpty : text.isEmpty <;> simp [hEmpty, Document.assign]

theorem ensurePersistableUid_ok_iff {uid : UID} {label : String} {u : Unit} :
    ensurePersistableUid uid label = .ok u ↔ PersistableUid uid :=
  ensure_ok_iff

theorem ensureNonEmpty_ok_iff {value : ByteArray} {label : String} {u : Unit} :
    ensureNonEmpty value label = .ok u ↔ value.isEmpty = false :=
  ensure_ok_iff.trans (Bool.not_eq_true' _).to_iff

theorem setOptionalUid_ok_iff {document after : Document} {key : String} {value : Option UID} :
    setOptionalUid document key value = .ok after ↔
      (∀ uid ∈ value, PersistableUid uid) ∧ document.assign (key, value.map uidValue) = after := by
  cases value with
  | none => simp [setOptionalUid, Document.assign, pure, Except.pure]
  | some uid =>
    rw [setOptionalUid, bind_ok_iff]
    simp only [ensurePersistableUid_ok_iff, Document.assign, Option.map_some, Option.mem_some_iff, forall_eq', pure,
      Except.pure, Except.ok.injEq, exists_const]
    rfl

theorem mapM_vehicleUid_ok_iff {uids : List UID} {values : List Json} :
    uids.mapM vehicleUid = .ok values ↔
      (∀ uid ∈ uids, PersistableUid uid) ∧ uids.map (fun uid => .unsigned uid.value) = values := by
  have hOne : ∀ {uid value}, vehicleUid uid = .ok value ↔ PersistableUid uid ∧ .unsigned uid.value = value := by
    intro uid value
    simp only [vehicleUid, bind_ok_iff, ensurePersistableUid_ok_iff, pure, Except.pure, Except.ok.injEq, exists_const]
  induction uids generalizing values with
  | nil => simp [pure, Except.pure]
  | cons uid uids ih =>
    simp only [List.mapM_cons, bind_ok_iff, hOne, ih, pure, Except.pure, Except.ok.injEq, List.forall_mem_cons,
      List.map_cons]
    constructor
    · rintro ⟨-, ⟨hUid, rfl⟩, -, ⟨hUids, rfl⟩, rfl⟩
      exact ⟨⟨hUid, hUids⟩, rfl⟩
    · rintro ⟨⟨hUid, hUids⟩, rfl⟩
      exact ⟨_, ⟨hUid, rfl⟩, _, ⟨hUids, rfl⟩, rfl⟩

/-- A document is made of a request that can be persisted and a base that can be read. -/
theorem vehicleDocument_ok_iff {json : JsonText} {request : VehicleSaveRequest} {file : FileState}
    {document : Document} :
    vehicleDocument json request file = .ok document ↔ request.Persistable ∧
      ∃ base, loadBaseDocument json request.file request.preserveExistingFields file = .ok base ∧
        request.fields.foldl .assign (.ofJson base) = document := by
  simp only [vehicleDocument, bind_ok_iff, ensurePersistableUid_ok_iff, ensureNonEmpty_ok_iff, setOptionalUid_ok_iff,
    setOptionalString_eq, pure, Except.pure, Except.ok.injEq]
  constructor
  · rintro ⟨-, hUid, -, hTypeUid, -, hPid, base, hBase, -, ⟨hCarrier, rfl⟩, rfl⟩
    exact ⟨⟨hUid, hTypeUid, hPid, hCarrier⟩, base, hBase, rfl⟩
  · rintro ⟨⟨hUid, hTypeUid, hPid, hCarrier⟩, base, hBase, rfl⟩
    exact ⟨(), hUid, (), hTypeUid, (), hPid, base, hBase, _, ⟨hCarrier, rfl⟩, rfl⟩

theorem trainDocument_ok_iff {json : JsonText} {request : TrainSaveRequest} {file : FileState} {document : Document} :
    trainDocument json request file = .ok document ↔ request.Persistable ∧
      ∃ base, loadBaseDocument json request.file request.preserveExistingFields file = .ok base ∧
        request.fields.foldl .assign (.ofJson base) = document := by
  have hVehicles : (!request.vehicleUids.isEmpty) = true ↔ request.vehicleUids ≠ [] := by
    rw [Bool.not_eq_true', List.isEmpty_eq_false_iff]
  simp only [trainDocument, bind_ok_iff, ensurePersistableUid_ok_iff, ensureNonEmpty_ok_iff, ensure_ok_iff, hVehicles,
    setOptionalUid_ok_iff, mapM_vehicleUid_ok_iff, pure, Except.pure, Except.ok.injEq]
  constructor
  · rintro ⟨-, hUid, -, hPid, -, hCategory, -, hNonempty, base, hBase, -, ⟨hCarrier, rfl⟩, -, ⟨hUids, rfl⟩, rfl⟩
    exact ⟨⟨hUid, hPid, hCategory, hCarrier, hNonempty, hUids⟩, base, hBase, rfl⟩
  · rintro ⟨⟨hUid, hPid, hCategory, hCarrier, hNonempty, hUids⟩, base, hBase, rfl⟩
    exact ⟨(), hUid, (), hPid, (), hCategory, (), hNonempty, base, hBase, _, ⟨hCarrier, rfl⟩, _, ⟨hUids, rfl⟩, rfl⟩

theorem isObject_of_loadBaseDocument {json : JsonText} {path : String} {preserve : Bool} {file : FileState}
    {base : Json} (h : loadBaseDocument json path preserve file = .ok base) : base.isObject = true := by
  unfold loadBaseDocument at h
  split at h
  · cases h
    rfl
  · split at h
    · cases h
    · split at h
      · cases h
      · split at h
        · rename_i hObject
          cases h
          exact hObject
        · cases h

/-! ## Saving as overwriting -/

def opening (path label : String) (file : FileState) : Except String Unit :=
  file.folders >>= fun _ =>
    if file.writable then .ok () else .error ("Cannot create " ++ label ++ " JSON file: " ++ path)

def overwriting (json : JsonText) (path label : String) (document : Except String Document) (file : FileState) :
    Overwrite String Document ByteArray where
  prepared := document
  opened := opening path label file
  serialize document := (json.dump document).map (· ++ newline)
  cleared := .empty

theorem save_eq_run (json : JsonText) (path label : String) (document : Except String Document) (file : FileState) :
    save json path label document file =
      let (saved, content) := (overwriting json path label document file).run file.content
      (saved, { file with content }) := by
  obtain ⟨content, readable, writable, folders⟩ := file
  unfold save Overwrite.run overwriting opening
  cases document with
  | error e => rfl
  | ok document =>
    unfold writeDocument
    cases folders with
    | error e => rfl
    | ok u =>
      cases writable with
      | false => rfl
      | true => cases hDump : json.dump document <;> simp [hDump, bind, Except.bind, Except.map]

theorem opening_ok_iff {path label : String} {file : FileState} :
    opening path label file = .ok () ↔ file.opens = true := by
  unfold opening FileState.opens
  cases file.folders with
  | error e => simp [bind, Except.bind, Except.isOk, Except.toBool]
  | ok u => cases file.writable <;> simp [bind, Except.bind, Except.isOk, Except.toBool]

end EditorPersistenceService

/-! ## What a save owes -/

structure VehicleSaveRequest.IsReadBack (request : VehicleSaveRequest) (vehicle : Vehicle) : Prop where
  uid : vehicle.uid = request.uid
  typeUid : vehicle.typeUid = request.typeUid
  pid : vehicle.pid.toUTF8 = request.pid
  displayName : vehicle.displayName.toUTF8 = shownName request.displayName request.pid
  carrierId : vehicle.carrierId = request.carrierId
  inventoryNumber : vehicle.inventoryNumber.map String.toUTF8 = filledIn request.inventoryNumber
  notes : vehicle.notes.map String.toUTF8 = filledIn request.notes

structure TrainSaveRequest.IsReadBack (request : TrainSaveRequest) (train : Train) : Prop where
  uid : train.uid = request.uid
  pid : train.pid.toUTF8 = request.pid
  displayName : train.displayName.toUTF8 = shownName request.displayName request.pid
  trainCategory : train.trainCategory.toUTF8 = request.trainCategory
  carrierId : train.carrierId = request.carrierId
  vehicleUids : train.vehicleUids = request.vehicleUids

/-- The fields under other keys are in the new file what they were in the old. -/
def KeepsOthers (json : JsonText) (keys : List String) (before after : Option ByteArray) : Prop :=
  ∀ text ∈ before, ∀ document, json.parse text = .ok document →
    ∃ text' ∈ after, ∃ document', json.parse text' = .ok document' ∧
      ∀ key ∉ keys, document'.member key = document.member key

structure VehicleSaved (json : JsonText) (request : VehicleSaveRequest) (before after : FileState) : Prop where
  isReadBack : ∃ vehicle, JsonLoader.loadVehicle json.parse request.file after = .ok vehicle ∧
    request.IsReadBack vehicle
  keepsOthers : request.preserveExistingFields = true →
    KeepsOthers json ["uid", "type_uid", "pID", "displayName", "carrierId", "inventoryNumber", "notes"] before.content
      after.content

structure TrainSaved (json : JsonText) (request : TrainSaveRequest) (before after : FileState) : Prop where
  isReadBack : ∃ train, JsonLoader.loadTrain json.parse request.file after = .ok train ∧ request.IsReadBack train
  keepsOthers : request.preserveExistingFields = true →
    KeepsOthers json ["uid", "pID", "displayName", "trainCategory", "carrierId", "vehicle_uids"] before.content
      after.content

/-- The save returns and is read back, or it throws and the file holds what it held. -/
def VehicleFaithful (json : JsonText) (request : VehicleSaveRequest) (file : FileState) : Prop :=
  match EditorPersistenceService.saveVehicle json request file with
  | (.ok _, after) => VehicleSaved json request file after
  | (.error _, after) => after.content = file.content

def TrainFaithful (json : JsonText) (request : TrainSaveRequest) (file : FileState) : Prop :=
  match EditorPersistenceService.saveTrain json request file with
  | (.ok _, after) => TrainSaved json request file after
  | (.error _, after) => after.content = file.content

/-! ## When the saves are faithful -/

def VehicleSaveRequest.texts (request : VehicleSaveRequest) : List ByteArray :=
  [request.pid, request.displayName] ++ request.inventoryNumber.toList ++ request.notes.toList

def TrainSaveRequest.texts (request : TrainSaveRequest) : List ByteArray :=
  [request.pid, request.displayName, request.trainCategory]

/-- Where the file is opened, the texts are in UTF-8, the file can be read and the loader takes the fields that were
kept; or the file was empty before. -/
def VehicleSaveRequest.Safe (json : JsonText) (request : VehicleSaveRequest) (file : FileState) : Prop :=
  request.Persistable → file.opens = true → ∀ base,
    EditorPersistenceService.loadBaseDocument json request.file request.preserveExistingFields file = .ok base →
    if ∀ text ∈ request.texts, text.IsValidUTF8 then file.readable = true ∧ JsonLoader.restLoads base = true
    else file.content = some .empty

def TrainSaveRequest.Safe (json : JsonText) (request : TrainSaveRequest) (file : FileState) : Prop :=
  request.Persistable → file.opens = true →
    (∃ base, EditorPersistenceService.loadBaseDocument json request.file request.preserveExistingFields file =
      .ok base) →
    if ∀ text ∈ request.texts, text.IsValidUTF8 then file.readable = true else file.content = some .empty

namespace EditorPersistenceService

section Written

variable {json : JsonText} {file : FileState} {base : Json} {fields : List (String × Option Value)}

theorem json?_isSome_text {text : ByteArray} : (Value.text text).json?.isSome = true ↔ text.IsValidUTF8 := by
  rw [Value.json?, Option.isSome_map, String.fromUTF8?]
  split
  · simpa
  · simpa

theorem exists_string {text : ByteArray} (h : (Value.text text).json?.isSome = true) :
    ∃ s : String, (Value.text text).json? = some (.string s) ∧ s.toUTF8 = text := by
  have hValid := json?_isSome_text.mp h
  refine ⟨String.fromUTF8 text hValid, ?_, rfl⟩
  rw [Value.json?, String.fromUTF8?, dif_pos hValid, Option.map_some]

theorem exists_optionalString {text : Option ByteArray}
    (h : ∀ value ∈ text.map Value.text, value.json?.isSome = true) :
    ∃ s : Option String, (text.map Value.text).bind Value.json? = s.map .string ∧ s.map String.toUTF8 = text := by
  cases text with
  | none => exact ⟨none, rfl, rfl⟩
  | some text =>
    obtain ⟨s, hJson, hBytes⟩ := exists_string (h _ rfl)
    exact ⟨some s, hJson, congrArg some hBytes⟩

theorem isValidUTF8_of_isEmpty {text : ByteArray} (h : text.isEmpty = true) : text.IsValidUTF8 := by
  have hEmpty : text = .empty := ByteArray.size_eq_zero_iff.mp (beq_iff_eq.mp h)
  exact hEmpty ▸ ByteArray.isValidUTF8_empty

theorem forall_filledIn {text : Option ByteArray} :
    (∀ value ∈ (filledIn text).map Value.text, value.json?.isSome = true) ↔ ∀ t ∈ text, t.IsValidUTF8 := by
  cases text with
  | none => simp [filledIn]
  | some text =>
    cases hEmpty : text.isEmpty with
    | true => simp [filledIn, hEmpty, isValidUTF8_of_isEmpty hEmpty]
    | false => simp [filledIn, hEmpty, json?_isSome_text]

theorem isValidUTF8_shownName {displayName pid : ByteArray} (hPid : pid.IsValidUTF8) :
    (shownName displayName pid).IsValidUTF8 ↔ displayName.IsValidUTF8 := by
  unfold shownName
  cases hEmpty : displayName.isEmpty with
  | true => simp [hPid, isValidUTF8_of_isEmpty hEmpty]
  | false => simp

theorem isSome_uidValue (uid : Option UID) : ∀ value ∈ uid.map uidValue, value.json?.isSome = true := by
  cases uid <;> simp [uidValue, Value.json?]

theorem isUtf8_vehicle {request : VehicleSaveRequest} (hBase : base.isObject = true) :
    (request.fields.foldl Document.assign (.ofJson base)).isUtf8 = true ↔
      ∀ text ∈ request.texts, text.IsValidUTF8 := by
  rw [Document.isUtf8_foldl_assign request.nodup_fields (Document.isUtf8_ofJson hBase)]
  simp only [VehicleSaveRequest.fields, VehicleSaveRequest.texts, List.forall_mem_cons, List.forall_mem_append,
    forall_filledIn, Option.mem_some_iff, forall_eq', json?_isSome_text, Option.mem_toList, List.not_mem_nil,
    false_imp_iff, implies_true, and_true]
  constructor
  · rintro ⟨-, -, hPid, hName, -, hInventory, hNotes⟩
    exact ⟨⟨⟨hPid, (isValidUTF8_shownName hPid).mp hName⟩, hInventory⟩, hNotes⟩
  · rintro ⟨⟨⟨hPid, hName⟩, hInventory⟩, hNotes⟩
    exact ⟨rfl, rfl, hPid, (isValidUTF8_shownName hPid).mpr hName, isSome_uidValue _, hInventory, hNotes⟩

theorem isUtf8_train {request : TrainSaveRequest} (hBase : base.isObject = true) :
    (request.fields.foldl Document.assign (.ofJson base)).isUtf8 = true ↔
      ∀ text ∈ request.texts, text.IsValidUTF8 := by
  rw [Document.isUtf8_foldl_assign request.nodup_fields (Document.isUtf8_ofJson hBase)]
  simp only [TrainSaveRequest.fields, TrainSaveRequest.texts, List.forall_mem_cons, Option.mem_some_iff, forall_eq',
    json?_isSome_text, List.not_mem_nil, false_imp_iff, implies_true, and_true]
  constructor
  · rintro ⟨-, hPid, hName, hCategory, -, -⟩
    exact ⟨hPid, (isValidUTF8_shownName hPid).mp hName, hCategory⟩
  · rintro ⟨hPid, hName, hCategory⟩
    exact ⟨rfl, hPid, (isValidUTF8_shownName hPid).mpr hName, hCategory, isSome_uidValue _, rfl⟩

/-- A document is read back with the fields assigned and the others of the base. -/
theorem member_foldl_assign {fields : List (String × Option Value)} (hNodup : (fields.map Prod.fst).Nodup)
    (document : Document) : ∀ field ∈ fields,
      (fields.foldl Document.assign document).member field.1 = field.2.bind Value.json? := by
  intro field hField
  rw [Document.member, Document.find_foldl_assign_of_mem hNodup hField]
  cases field.2 <;> rfl

theorem member_foldl_assign_of_notMem {fields : List (String × Option Value)} (hBase : base.isObject = true)
    {key : String} (hKey : key ∉ fields.map Prod.fst) :
    (fields.foldl Document.assign (.ofJson base)).member key = base.member key := by
  rw [Document.member, Document.find_foldl_assign_of_notMem hKey, ← Document.member_ofJson hBase]
  rfl

/-- With the old file kept, what is started from is what the old file holds. -/
theorem eq_of_loadBaseDocument {path : String} (h : loadBaseDocument json path true file = .ok base)
    {text : ByteArray} (hText : text ∈ file.content) {document : Json} (hParse : json.parse text = .ok document) :
    document = base := by
  unfold loadBaseDocument FileState.input at h
  rw [Option.mem_def.mp hText] at h
  cases hReadable : file.readable with
  | false => simp [hReadable] at h
  | true =>
    simp only [hReadable, Bool.not_true, Option.isNone_some, Bool.or_self, Bool.false_eq_true, if_false, if_true,
      hParse] at h
    split at h
    · exact Except.ok.inj h
    · cases h

theorem keepsOthers_written {fields : List (String × Option Value)} {path : String} {preserve : Bool}
    (hBase : loadBaseDocument json path preserve file = .ok base) {text : ByteArray} {members : List (String × Json)}
    (hParse : json.parse text = .ok (.object members))
    (hMembers : ∀ key, (Json.object members).member key =
      (fields.foldl Document.assign (.ofJson base)).member key) (hPreserve : preserve = true) :
    KeepsOthers json (fields.map Prod.fst) file.content (some text) := by
  subst hPreserve
  intro old hOld document hDocument
  refine ⟨text, rfl, .object members, hParse, fun key hKey => ?_⟩
  rw [hMembers, member_foldl_assign_of_notMem (isObject_of_loadBaseDocument hBase) hKey,
    eq_of_loadBaseDocument hBase hOld hDocument]

/-- What the loader makes of the new file is what it makes of the document in it, where it can read the file. -/
theorem exists_loaded_iff {α : Type} {parse : Json → Except String α} {wanted : α → Prop} {path : String}
    {text : ByteArray} {document : Json} (hObject : document.isObject = true)
    (hParse : json.parse text = .ok document) :
    (∃ a, (JsonLoader.parseJsonFile json.parse path { file with content := some text } >>= parse) = .ok a ∧
      wanted a) ↔ file.readable = true ∧ ∃ a, parse document = .ok a ∧ wanted a := by
  unfold JsonLoader.parseJsonFile FileState.input
  cases hReadable : file.readable with
  | false => simp [bind, Except.bind]
  | true => simp [hParse, hObject, bind, Except.bind]

theorem bind_uidValue (uid : Option UID) :
    (uid.map uidValue).bind Value.json? = uid.map fun uid => .unsigned uid.value := by
  cases uid <;> rfl

theorem exists_edited {request : VehicleSaveRequest} (hRequest : request.Persistable) (path : String) {j : Json}
    (hUtf8 : ∀ field ∈ request.fields, ∀ value ∈ field.2, value.json?.isSome = true)
    (hMembers : ∀ field ∈ request.fields, j.member field.1 = field.2.bind Value.json?) :
    ∃ fields, JsonLoader.ReadsEdited path j fields ∧
      ∀ vehicle, JsonLoader.edited vehicle = fields → request.IsReadBack vehicle := by
  simp only [VehicleSaveRequest.fields, List.forall_mem_cons, Option.mem_some_iff, forall_eq', List.not_mem_nil,
    false_imp_iff, implies_true, and_true, Option.bind_some] at hUtf8 hMembers
  obtain ⟨-, -, hPid, hName, -, hInventory, hNotes⟩ := hUtf8
  obtain ⟨pid, hPidJson, hPidBytes⟩ := exists_string hPid
  obtain ⟨name, hNameJson, hNameBytes⟩ := exists_string hName
  obtain ⟨inventory, hInventoryJson, hInventoryBytes⟩ := exists_optionalString hInventory
  obtain ⟨notes, hNotesJson, hNotesBytes⟩ := exists_optionalString hNotes
  rw [hPidJson, hNameJson, hInventoryJson, hNotesJson] at hMembers
  obtain ⟨hUidMember, hTypeMember, hPidMember, hNameMember, hCarrierMember, hInventoryMember, hNotesMember⟩ := hMembers
  rw [bind_uidValue] at hCarrierMember
  refine ⟨⟨request.uid, request.typeUid, pid, name, request.carrierId, inventory, notes⟩, ?_, fun vehicle h => ?_⟩
  · exact {
      uid := JsonLoader.requireUid_of_member hUidMember hRequest.uid
      typeUid := JsonLoader.requireUid_of_member hTypeMember hRequest.typeUid
      pid := JsonLoader.requireString_of_member hPidMember
      displayName := JsonLoader.requireString_of_member hNameMember
      carrierId := JsonLoader.optionalUid_of_member hCarrierMember hRequest.carrierId
      inventoryNumber := JsonLoader.optionalString_of_member hInventoryMember
      notes := JsonLoader.optionalString_of_member hNotesMember }
  · simp only [JsonLoader.edited, JsonLoader.EditedFields.mk.injEq] at h
    obtain ⟨hUid, hTypeUid, rfl, rfl, hCarrier, rfl, rfl⟩ := h
    exact ⟨hUid, hTypeUid, hPidBytes, hNameBytes, hCarrier, hInventoryBytes, hNotesBytes⟩

theorem exists_train {request : TrainSaveRequest} (hRequest : request.Persistable) (path : String) {j : Json}
    (hUtf8 : ∀ field ∈ request.fields, ∀ value ∈ field.2, value.json?.isSome = true)
    (hMembers : ∀ field ∈ request.fields, j.member field.1 = field.2.bind Value.json?) :
    ∃ train, JsonLoader.parseTrain path j = .ok train ∧ request.IsReadBack train := by
  simp only [TrainSaveRequest.fields, List.forall_mem_cons, Option.mem_some_iff, forall_eq', List.not_mem_nil,
    false_imp_iff, implies_true, and_true, Option.bind_some] at hUtf8 hMembers
  obtain ⟨-, hPid, hName, hCategory, -, -⟩ := hUtf8
  obtain ⟨pid, hPidJson, hPidBytes⟩ := exists_string hPid
  obtain ⟨name, hNameJson, hNameBytes⟩ := exists_string hName
  obtain ⟨category, hCategoryJson, hCategoryBytes⟩ := exists_string hCategory
  rw [hPidJson, hNameJson, hCategoryJson, bind_uidValue] at hMembers
  obtain ⟨hUidMember, hPidMember, hNameMember, hCategoryMember, hCarrierMember, hUidsMember⟩ := hMembers
  have hParse : JsonLoader.parseTrain path j =
      .ok ⟨request.uid, pid, name, category, request.carrierId, request.vehicleUids, path⟩ := by
    unfold JsonLoader.parseTrain
    rw [JsonLoader.requireUid_of_member hUidMember hRequest.uid, JsonLoader.requireString_of_member hPidMember,
      JsonLoader.requireString_of_member hNameMember, JsonLoader.requireString_of_member hCategoryMember,
      JsonLoader.optionalUid_of_member hCarrierMember hRequest.carrierId,
      JsonLoader.parseVehicleUids_of_member hUidsMember hRequest.vehicleUids]
    rfl
  exact ⟨_, hParse, rfl, hPidBytes, hNameBytes, hCategoryBytes, rfl, rfl⟩

theorem restLoads_congr {j j' : Json} {keys : List String}
    (hKeys : keys = ["uid", "type_uid", "pID", "displayName", "carrierId", "inventoryNumber", "notes"])
    (h : ∀ key ∉ keys, j.member key = j'.member key) : JsonLoader.restLoads j = JsonLoader.restLoads j' := by
  subst hKeys
  simp (disch := decide) only [JsonLoader.restLoads, Json.fieldIfThere, h]

/-- A document that was written is read back where the file can be read and the loader takes the other fields. -/
theorem vehicleSaved_iff {request : VehicleSaveRequest} (hRequest : request.Persistable)
    (hBase : loadBaseDocument json request.file request.preserveExistingFields file = .ok base)
    (hWrites : json.WritesBack (request.fields.foldl .assign (.ofJson base))) {text : ByteArray}
    (hDump : json.dump (request.fields.foldl .assign (.ofJson base)) = .ok text) :
    VehicleSaved json request file { file with content := some (text ++ newline) } ↔
      file.readable = true ∧ JsonLoader.restLoads base = true := by
  have hObject := isObject_of_loadBaseDocument hBase
  have hUtf8 := hWrites.isOk_dump.symm.trans (Json.isOk_iff.mpr ⟨text, hDump⟩)
  rw [Document.isUtf8_foldl_assign request.nodup_fields (Document.isUtf8_ofJson hObject)] at hUtf8
  obtain ⟨members, hParse, hMembers⟩ := hWrites.parse_dump hDump
  have hRest : JsonLoader.restLoads (.object members) = JsonLoader.restLoads base :=
    restLoads_congr rfl fun key hKey => (hMembers key).trans (member_foldl_assign_of_notMem hObject hKey)
  obtain ⟨fields, hReads, hReadBack⟩ := exists_edited hRequest request.file hUtf8 fun field hField =>
    (hMembers field.1).trans (member_foldl_assign request.nodup_fields _ field hField)
  have hKeeps := fun hPreserve => keepsOthers_written hBase hParse hMembers hPreserve
  rw [← hRest, ← hReads.parseVehicle_iff]
  constructor
  · rintro ⟨hLoaded, -⟩
    obtain ⟨hReadable, vehicle, hVehicle, -⟩ := (exists_loaded_iff rfl hParse).mp hLoaded
    exact ⟨hReadable, vehicle, hVehicle, (JsonLoader.readsEdited_of_ok hVehicle).unique hReads⟩
  · rintro ⟨hReadable, vehicle, hVehicle, hEdited⟩
    exact ⟨(exists_loaded_iff rfl hParse).mpr ⟨hReadable, vehicle, hVehicle, hReadBack vehicle hEdited⟩, hKeeps⟩

theorem trainSaved_iff {request : TrainSaveRequest} (hRequest : request.Persistable)
    (hBase : loadBaseDocument json request.file request.preserveExistingFields file = .ok base)
    (hWrites : json.WritesBack (request.fields.foldl .assign (.ofJson base))) {text : ByteArray}
    (hDump : json.dump (request.fields.foldl .assign (.ofJson base)) = .ok text) :
    TrainSaved json request file { file with content := some (text ++ newline) } ↔ file.readable = true := by
  have hObject := isObject_of_loadBaseDocument hBase
  have hUtf8 := hWrites.isOk_dump.symm.trans (Json.isOk_iff.mpr ⟨text, hDump⟩)
  rw [Document.isUtf8_foldl_assign request.nodup_fields (Document.isUtf8_ofJson hObject)] at hUtf8
  obtain ⟨members, hParse, hMembers⟩ := hWrites.parse_dump hDump
  have hTrain := exists_train hRequest request.file hUtf8 fun field hField =>
    (hMembers field.1).trans (member_foldl_assign request.nodup_fields _ field hField)
  constructor
  · rintro ⟨hLoaded, -⟩
    exact ((exists_loaded_iff rfl hParse).mp hLoaded).1
  · intro hReadable
    exact ⟨(exists_loaded_iff rfl hParse).mpr ⟨hReadable, hTrain⟩,
      fun hPreserve => keepsOthers_written hBase hParse hMembers hPreserve⟩

end Written

theorem saved_iff_atomic {json : JsonText} {path label : String} {document : Except String Document}
    {file : FileState} {wanted : FileState → Prop} :
    (match save json path label document file with
      | (.ok _, after) => wanted after
      | (.error _, after) => after.content = file.content) ↔
    Overwrite.Atomic (fun content => wanted { file with content }) file.content
      ((overwriting json path label document file).run file.content) := by
  rw [save_eq_run]
  cases hRun : (overwriting json path label document file).run file.content with
  | mk saved content => cases saved <;> rfl

/-- What becomes of a document once the file is open, told by its texts. -/
theorem serialized_iff {json : JsonText} {path label : String} {prepared : Except String Document} {file : FileState}
    {document : Document} (hWrites : json.WritesBack document) (wanted : ByteArray → Prop) {condition : Prop}
    (hWanted : ∀ {text}, json.dump document = .ok text → (wanted (text ++ newline) ↔ condition)) :
    ((∀ text, (overwriting json path label prepared file).serialize document = .ok text → wanted text) ∧
      ((∃ e, (overwriting json path label prepared file).serialize document = .error e) →
        file.content = some .empty)) ↔
    if document.isUtf8 = true then condition else file.content = some .empty := by
  have hIsOk := hWrites.isOk_dump
  unfold overwriting
  cases hDump : json.dump document with
  | error e =>
    rw [hDump] at hIsOk
    simp [← hIsOk, hDump, Except.map, Except.isOk, Except.toBool]
  | ok text =>
    rw [hDump] at hIsOk
    simp [← hIsOk, hDump, hWanted hDump, Except.map, Except.isOk, Except.toBool]

/-- A save of what is assigned to a base, for a request that can be persisted. -/
theorem save_iff {json : JsonText} {path label : String} {prepared : Except String Document} {file : FileState}
    {persistable utf8 : Prop} [Decidable utf8] {loaded : Except String Json} {assigned : Json → Document}
    {wanted : FileState → Prop} {condition : Json → Prop}
    (hPrepared : ∀ {document}, prepared = .ok document ↔
      persistable ∧ ∃ base, loaded = .ok base ∧ assigned base = document)
    (hWrites : ∀ base, loaded = .ok base → json.WritesBack (assigned base))
    (hUtf8 : ∀ {base}, loaded = .ok base → ((assigned base).isUtf8 = true ↔ utf8))
    (hWanted : persistable → ∀ {base}, loaded = .ok base → ∀ {text}, json.dump (assigned base) = .ok text →
      (wanted { file with content := some (text ++ newline) } ↔ condition base)) :
    (match save json path label prepared file with
      | (.ok _, after) => wanted after
      | (.error _, after) => after.content = file.content) ↔
    (persistable → file.opens = true → ∀ base, loaded = .ok base →
      if utf8 then condition base else file.content = some .empty) := by
  have hSerialized : ∀ base, persistable → loaded = .ok base → (_ ↔ _) := fun base hPersistable hBase =>
    @serialized_iff json path label prepared file _ (hWrites base hBase)
      (fun text => wanted { file with content := some text }) _ (hWanted hPersistable hBase)
  rw [saved_iff_atomic, Overwrite.atomic_run_iff]
  constructor
  · intro h hPersistable hOpens base hBase
    have hDocument := hPrepared.mpr ⟨hPersistable, base, hBase, rfl⟩
    have hWritten := (hSerialized base hPersistable hBase).mp (h _ hDocument (opening_ok_iff.mpr hOpens))
    simpa only [hUtf8 hBase] using hWritten
  · intro h document hDocument hOpens
    obtain ⟨hPersistable, base, hBase, rfl⟩ := hPrepared.mp hDocument
    refine (hSerialized base hPersistable hBase).mpr ?_
    simpa only [hUtf8 hBase] using h hPersistable (opening_ok_iff.mp hOpens) base hBase

end EditorPersistenceService

open EditorPersistenceService

theorem vehicleFaithful_iff {json : JsonText} {request : VehicleSaveRequest} {file : FileState}
    (hWrites : ∀ base, loadBaseDocument json request.file request.preserveExistingFields file = .ok base →
      json.WritesBack (request.fields.foldl .assign (.ofJson base))) :
    VehicleFaithful json request file ↔ request.Safe json file := by
  unfold VehicleSaveRequest.Safe
  rw [← save_iff vehicleDocument_ok_iff hWrites (fun hBase => isUtf8_vehicle (isObject_of_loadBaseDocument hBase))
    (fun hRequest _ hBase _ hDump => vehicleSaved_iff hRequest hBase (hWrites _ hBase) hDump), VehicleFaithful,
    saveVehicle]
  cases save json request.file "vehicle" (vehicleDocument json request file) file with
  | mk saved after => cases saved <;> rfl

theorem trainFaithful_iff {json : JsonText} {request : TrainSaveRequest} {file : FileState}
    (hWrites : ∀ base, loadBaseDocument json request.file request.preserveExistingFields file = .ok base →
      json.WritesBack (request.fields.foldl .assign (.ofJson base))) :
    TrainFaithful json request file ↔ request.Safe json file := by
  unfold TrainSaveRequest.Safe
  simp only [forall_exists_index]
  rw [← save_iff trainDocument_ok_iff hWrites (fun hBase => isUtf8_train (isObject_of_loadBaseDocument hBase))
    (fun hRequest _ hBase _ hDump => trainSaved_iff hRequest hBase (hWrites _ hBase) hDump), TrainFaithful, saveTrain]
  cases save json request.file "train" (trainDocument json request file) file with
  | mk saved after => cases saved <;> rfl

/-! ## Saves of both kinds -/

inductive SaveRequest
  | vehicle (request : VehicleSaveRequest)
  | train (request : TrainSaveRequest)

namespace SaveRequest

def base (json : JsonText) (file : FileState) : SaveRequest → Except String Json
  | vehicle request => loadBaseDocument json request.file request.preserveExistingFields file
  | train request => loadBaseDocument json request.file request.preserveExistingFields file

def fields : SaveRequest → List (String × Option Value)
  | vehicle request => request.fields
  | train request => request.fields

def Faithful (json : JsonText) (file : FileState) : SaveRequest → Prop
  | vehicle request => VehicleFaithful json request file
  | train request => TrainFaithful json request file

def Safe (json : JsonText) (file : FileState) : SaveRequest → Prop
  | vehicle request => request.Safe json file
  | train request => request.Safe json file

end SaveRequest

/-- With a library that writes and reads back the document of the request, a save is faithful exactly when it is
safe. -/
theorem saves_faithful_iff (json : JsonText) (request : SaveRequest) (file : FileState)
    (hWrites : ∀ base, request.base json file = .ok base →
      json.WritesBack (request.fields.foldl .assign (.ofJson base))) :
    request.Faithful json file ↔ request.Safe json file := by
  cases request with
  | vehicle request => exact vehicleFaithful_iff hWrites
  | train request => exact trainFaithful_iff hWrites

def plainVehicle : VehicleSaveRequest := { file := "v1.json", uid := ⟨1⟩, typeUid := ⟨2⟩, pid := "V1".toUTF8 }

def plainText : ByteArray :=
  "\x7b\n  \"displayName\": \"V1\",\n  \"pID\": \"V1\",\n  \"type_uid\": 2,\n  \"uid\": 1\n\x7d".toUTF8

def plainMembers : List (String × Json) :=
  [("displayName", .string "V1"), ("pID", .string "V1"), ("type_uid", .unsigned 2), ("uid", .unsigned 1)]

def plainJson : JsonText where
  parse text :=
    if text.data = (plainText ++ newline).data then .ok (.object plainMembers)
    else .error "[json.exception.parse_error.101] parse error"
  dump document :=
    if document.isUtf8 then .ok plainText
    else .error "[json.exception.type_error.316] invalid UTF-8 byte at index 0: 0xFF"

theorem isOk_plainJson (document : Document) : (plainJson.dump document).isOk = document.isUtf8 := by
  unfold plainJson
  cases hUtf8 : document.isUtf8 <;> simp [hUtf8, Except.isOk, Except.toBool]

theorem json?_toUTF8 (s : String) : (Value.text s.toUTF8).json? = some (.string s) := by
  have hValid : s.toUTF8.IsValidUTF8 := s.isValidUTF8
  rw [Value.json?, String.fromUTF8?, dif_pos hValid, Option.map_some]
  rfl

theorem plainJson_writesBack :
    plainJson.WritesBack (plainVehicle.fields.foldl .assign (.ofJson (.object []))) := by
  refine ⟨isOk_plainJson _, fun {text} hDump => ⟨plainMembers, ?_, fun key => ?_⟩⟩
  · simp only [plainJson] at hDump
    split at hDump
    · cases hDump
      simp [plainJson]
    · cases hDump
  · by_cases hKey : key ∈ plainVehicle.fields.map Prod.fst
    · obtain ⟨field, hField, rfl⟩ := List.mem_map.mp hKey
      rw [member_foldl_assign plainVehicle.nodup_fields _ field hField]
      simp only [VehicleSaveRequest.fields, List.mem_cons, List.not_mem_nil, or_false] at hField
      obtain rfl | rfl | rfl | rfl | rfl | rfl | rfl := hField
      · rfl
      · rfl
      · exact (json?_toUTF8 "V1").symm
      · exact (json?_toUTF8 "V1").symm
      · rfl
      · rfl
      · rfl
    · rw [member_foldl_assign_of_notMem rfl hKey]
      simp only [VehicleSaveRequest.fields, List.map_cons, List.map_nil, List.mem_cons, List.not_mem_nil, or_false,
        not_or] at hKey
      simp [Json.member, plainMembers, Ne.symm hKey.1, Ne.symm hKey.2.1, Ne.symm hKey.2.2.1, Ne.symm hKey.2.2.2.1]

def plainFile : FileState := { content := some (plainText ++ newline) }

theorem saves_faithful_plain : (SaveRequest.vehicle plainVehicle).Faithful plainJson plainFile := by
  refine (saves_faithful_iff plainJson (.vehicle plainVehicle) plainFile fun base hBase => ?_).mpr ?_
  · cases hBase
    exact plainJson_writesBack
  · intro hRequest hOpens base hBase
    cases hBase
    have hPid : ("V1".toUTF8).IsValidUTF8 := "V1".isValidUTF8
    rw [if_pos]
    · exact ⟨rfl, rfl⟩
    · intro text hText
      simp only [VehicleSaveRequest.texts, plainVehicle, Option.toList_none, List.append_nil, List.mem_cons,
        List.not_mem_nil, or_false] at hText
      obtain rfl | rfl := hText
      · exact hPid
      · exact ByteArray.isValidUTF8_empty

def misencodedVehicle : VehicleSaveRequest := { plainVehicle with pid := ⟨#[0xFF]⟩ }

theorem not_isValidUTF8_misencoded : ¬ (⟨#[0xFF]⟩ : ByteArray).IsValidUTF8 := by
  intro h
  have hFirst := h.isUTF8FirstByte_getElem_zero (by decide)
  revert hFirst
  decide

theorem saveVehicle_misencoded : saveVehicle plainJson misencodedVehicle plainFile =
    (.error "[json.exception.type_error.316] invalid UTF-8 byte at index 0: 0xFF", { content := some .empty }) := by
  have hUtf8 : (misencodedVehicle.fields.foldl Document.assign (.ofJson (.object []))).isUtf8 = false := by
    rw [Bool.eq_false_iff]
    intro h
    exact not_isValidUTF8_misencoded ((isUtf8_vehicle rfl).mp h _ (.head _))
  have hDocument : vehicleDocument plainJson misencodedVehicle plainFile =
      .ok (misencodedVehicle.fields.foldl Document.assign (.ofJson (.object []))) :=
    vehicleDocument_ok_iff.mpr
      ⟨⟨⟨by decide, by decide⟩, ⟨by decide, by decide⟩, rfl, fun uid hUid => by cases hUid⟩, _, rfl, rfl⟩
  unfold saveVehicle save
  rw [hDocument]
  simp [writeDocument, plainFile, plainJson, hUtf8, Except.map]

/-- The save throws, and the vehicle that was in the file is gone. -/
theorem misencoded_lost :
    saveVehicle plainJson misencodedVehicle plainFile =
      (.error "[json.exception.type_error.316] invalid UTF-8 byte at index 0: 0xFF", { content := some .empty }) ∧
    ¬ (SaveRequest.vehicle misencodedVehicle).Faithful plainJson plainFile := by
  refine ⟨saveVehicle_misencoded, ?_⟩
  show ¬ VehicleFaithful plainJson misencodedVehicle plainFile
  rw [VehicleFaithful, saveVehicle_misencoded]
  intro h
  have hSize := congrArg (Option.map ByteArray.size) h
  revert hSize
  decide

end Symulator.Tools
