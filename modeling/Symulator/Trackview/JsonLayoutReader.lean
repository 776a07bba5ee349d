import Symulator.Library.JsonSchema
import Symulator.Trackview.LayoutRenders

/-! # Reading a layout

The layout is read from a document, whose contract is a schema. The reader takes more than the schema allows; what
the schema allows it reads without loss, and the validator finds nothing wrong with it but names of things that are
not there.
-/

namespace Symulator.Trackview

open Symulator.Library

set_option autoImplicit false

universe u

/-- What the reader has of a layout beyond its geometry. -/
structure StyledLayout (α : Type u) extends TrackLayout α where
  styleHint : String

namespace JsonLayoutReader

/-! ## The reader -/

/-- The exceptions of the parser are told from those of the reader. -/
inductive ReadError
  | json (what : String)
  | runtime (what : String)

def json {β : Type u} (x : Except String β) : Except ReadError β :=
  match x with
  | .error what => .error (.json what)
  | .ok b => .ok b

def readSide (side : String) : Except ReadError TrackSide :=
  if side = "A" then .ok .a
  else if side = "B" then .ok .b
  else .error (.runtime "layout_reader: signal side must be A or B")

def readFacing (facing : String) : Except ReadError FacingDirection :=
  if facing = "towards_A" then .ok .towardsA
  else if facing = "towards_B" then .ok .towardsB
  else .error (.runtime "layout_reader: signal facing must be towards_A or towards_B")

def readId (value : Json) (field : String) : Except ReadError InfrastructureId := do
  let uid ← json (value.atKey field Json.getUint64)
  return ⟨UInt64.ofNat uid⟩

section Reader

variable {α : Type} (toDouble : Rat → α)

/-- A number of the document, as a double holds it. A number too large for a double does not parse. -/
def readDouble (value : Json) (field : String) : Except ReadError α := do
  let q ← json (value.atKey field Json.getDouble)
  return toDouble q

def readPoint (value : Json) : Except ReadError (Point α) := do
  let x ← readDouble toDouble value "x"
  let y ← readDouble toDouble value "y"
  return ⟨x, y⟩

def readTrackSection (element : Json) : Except ReadError (TrackLayoutElement α) := do
  let topologyId ← readId element "topology_uid"
  let points ← json (element.atKey "path" .ok)
  let path ← points.elements.mapM (readPoint toDouble)
  return .track { topologyId, path }

def readPort (ports : Json) (field : String) : Except ReadError (Point α) := do
  let point ← json (ports.atKey field .ok)
  readPoint toDouble point

def readSwitch (element : Json) : Except ReadError (TrackLayoutElement α) := do
  let ports ← json (element.atKey "ports" .ok)
  let topologyId ← readId element "topology_uid"
  let trunk ← readPort toDouble ports "trunk"
  let straight ← readPort toDouble ports "straight"
  let divergent ← readPort toDouble ports "divergent"
  return .switch { topologyId, ports := { trunk, straight, divergent } }

def readAttachment (attachment : Json) : Except ReadError (TrackAttachment α) := do
  let trackId ← readId attachment "topology_uid"
  let side ← json (attachment.atKey "side" Json.getString)
  let referenceSide ← readSide side
  let offset ← readDouble toDouble attachment "offset"
  let lateral ← json (attachment.valueOr "lateral" 0 Json.getDouble)
  return { trackId, referenceSide, offset, lateral := toDouble lateral }

def readSignal (element : Json) : Except ReadError (TrackLayoutElement α) := do
  let attachment ← json (element.atKey "attachment" .ok)
  let objectId ← readId element "object_uid"
  let attachment ← readAttachment toDouble attachment
  let side ← json (element.atKey "facing" Json.getString)
  let facing ← readFacing side
  return .signal { objectId, attachment, facing }

def readElement (element : Json) : Except ReadError (TrackLayoutElement α) := do
  let kind ← json (element.atKey "kind" Json.getString)
  if kind = "track_section" then readTrackSection toDouble element
  else if kind = "switch" then readSwitch toDouble element
  else if kind = "signal" then readSignal toDouble element
  else .error (.runtime ("layout_reader: unsupported element kind '" ++ kind ++ "'"))

def readLabel (label : Json) : Except ReadError (LabelGeometry α) := do
  let text ← json (label.atKey "text" Json.getString)
  let anchor ← json (label.atKey "anchor" .ok)
  let anchor ← readPoint toDouble anchor
  return { text, anchor }

def readCanvas (root : Json) : Except ReadError (Canvas α) := do
  let canvas ← json (root.atKey "canvas" .ok)
  let width ← readDouble toDouble canvas "width"
  let height ← readDouble toDouble canvas "height"
  return { width, height }

/-- The rest of the document, once its version and kind are known. -/
def readLayout (schemaVersion : Int) (root : Json) : Except ReadError (StyledLayout α) := do
  let layoutId ← json (root.atKey "layout_id" Json.getString)
  let stationSid ← json (root.atKey "station_sid" Json.getString)
  let styleHint ← json (root.valueOr "style_hint" "ebiscreen" Json.getString)
  let canvas ← readCanvas toDouble root
  let elements ← json (root.atKey "elements" .ok)
  let elements ← elements.elements.mapM (readElement toDouble)
  let labels ← json (root.valueOr "labels" (.array []) .ok)
  let labels ← labels.elements.mapM (readLabel toDouble)
  return { schemaVersion, layoutId, stationSid, styleHint, canvas, elements, labels }

def readRoot (root : Json) : Except ReadError (StyledLayout α) := do
  let schemaVersion ← json (root.atKey "schema_version" Json.getInt32)
  if schemaVersion ≠ 1 then
    .error (.runtime ("layout_reader: unsupported schema_version " ++ toString schemaVersion))
  else
    let kind ← json (root.atKey "kind" Json.getString)
    if kind ≠ "track_schematic" then .error (.runtime "layout_reader: kind must be track_schematic")
    else readLayout toDouble schemaVersion root

/-- The document is what the file at the path parses to. -/
def read (path : String) (root : Json) : Except String (StyledLayout α) :=
  match readRoot toDouble root with
  | .error (.json what) => .error ("layout_reader: invalid layout in '" ++ path ++ "': " ++ what)
  | .error (.runtime what) => .error what
  | .ok layout => .ok layout

end Reader

/-! ## The schema -/

section Schema

open JsonSchema

def uidSchema : JsonSchema := integer 1 9007199254740991

def pointSchema : JsonSchema := object ["x", "y"] [("x", number fun _ => true), ("y", number fun _ => true)]

def trackSectionSchema : JsonSchema :=
  object ["topology_uid", "kind", "path"]
    [("topology_uid", uidSchema), ("kind", enum ["track_section"]), ("path", array 2 pointSchema)]

def portsSchema : JsonSchema :=
  object ["trunk", "straight", "divergent"]
    [("trunk", pointSchema), ("straight", pointSchema), ("divergent", pointSchema)]

def switchSchema : JsonSchema :=
  object ["topology_uid", "kind", "ports"]
    [("topology_uid", uidSchema), ("kind", enum ["switch"]), ("ports", portsSchema)]

def attachmentSchema : JsonSchema :=
  object ["topology_uid", "side", "offset"]
    [("topology_uid", uidSchema), ("side", enum ["A", "B"]), ("offset", number fun q => 0 ≤ q && q ≤ 1),
      ("lateral", number fun _ => true)]

def signalSchema : JsonSchema :=
  object ["object_uid", "kind", "attachment", "facing"]
    [("object_uid", uidSchema), ("kind", enum ["signal"]), ("attachment", attachmentSchema),
      ("facing", enum ["towards_A", "towards_B"])]

def labelSchema : JsonSchema := object ["text", "anchor"] [("text", nonEmptyString), ("anchor", pointSchema)]

def canvasSchema : JsonSchema :=
  object ["width", "height"] [("width", number fun q => 0 < q), ("height", number fun q => 0 < q)]

def trackLayoutSchema : JsonSchema :=
  object ["schema_version", "layout_id", "station_sid", "kind", "canvas", "elements"]
    [("$comment", string), ("schema_version", constNumber 1), ("layout_id", nonEmptyString),
      ("station_sid", nonEmptyString), ("kind", enum ["track_schematic"]), ("style_hint", nonEmptyString),
      ("canvas", canvasSchema), ("elements", array 0 (oneOf [trackSectionSchema, switchSchema, signalSchema])),
      ("labels", array 0 labelSchema)]

end Schema

/-! ## What a valid document is read to -/

section Valid

variable {α : Type} (toDouble : Rat → α)

def SaysNumber (value : Json) (field : String) (a : α) : Prop :=
  ∃ v q, value.member field = some v ∧ v.number? = some q ∧ a = toDouble q

def SaysPoint (value : Json) (point : Point α) : Prop :=
  SaysNumber toDouble value "x" point.x ∧ SaysNumber toDouble value "y" point.y

def SaysPort (value : Json) (field : String) (point : Point α) : Prop :=
  ∃ v, value.member field = some v ∧ SaysPoint toDouble v point

/-- The identifier is the number, which is not wrapped. -/
def SaysId (value : Json) (field : String) (id : InfrastructureId) : Prop :=
  ∃ v, value.member field = some v ∧ v.number? = some (id.value.toNat : Rat) ∧ 1 ≤ id.value.toNat

def SaysWord (value : Json) (field word : String) : Prop := value.member field = some (.string word)

def sideWord : TrackSide → String
  | .a => "A"
  | .b => "B"

def facingWord : FacingDirection → String
  | .towardsA => "towards_A"
  | .towardsB => "towards_B"

/-- The element is what the document says it is. -/
def Describes (doc : Json) : TrackLayoutElement α → Prop
  | .track geometry =>
    SaysWord doc "kind" "track_section" ∧ SaysId doc "topology_uid" geometry.topologyId ∧
      ∃ points, doc.member "path" = some (.array points) ∧ List.Forall₂ (SaysPoint toDouble) points geometry.path
  | .switch geometry =>
    SaysWord doc "kind" "switch" ∧ SaysId doc "topology_uid" geometry.topologyId ∧
      ∃ ports, doc.member "ports" = some ports ∧ SaysPort toDouble ports "trunk" geometry.ports.trunk ∧
        SaysPort toDouble ports "straight" geometry.ports.straight ∧
        SaysPort toDouble ports "divergent" geometry.ports.divergent
  | .signal geometry =>
    SaysWord doc "kind" "signal" ∧ SaysId doc "object_uid" geometry.objectId ∧
      SaysWord doc "facing" (facingWord geometry.facing) ∧
      ∃ attachment, doc.member "attachment" = some attachment ∧
        SaysId attachment "topology_uid" geometry.attachment.trackId ∧
        SaysWord attachment "side" (sideWord geometry.attachment.referenceSide) ∧
        SaysNumber toDouble attachment "offset" geometry.attachment.offset ∧
        (SaysNumber toDouble attachment "lateral" geometry.attachment.lateral ∨
          attachment.member "lateral" = none ∧ geometry.attachment.lateral = toDouble 0)

def DescribesLabel (doc : Json) (label : LabelGeometry α) : Prop :=
  SaysWord doc "text" label.text ∧ SaysPort toDouble doc "anchor" label.anchor

/-- A number that fits a double is rounded to one, and not past 0 or 1. -/
structure Rounds [Zero α] [One α] [LT α] [Floating α] (fits : Rat → Prop) : Prop where
  zero : fits 0
  finite : ∀ {q}, fits q → Floating.isFinite (toDouble q) = true
  nonneg : ∀ {q}, 0 ≤ q → ¬ toDouble q < 0
  le_one : ∀ {q}, q ≤ 1 → ¬ 1 < toDouble q

/-- The numbers of the element are such as the validator asks for. -/
def WellFormed [Zero α] [One α] [LT α] [Floating α] : TrackLayoutElement α → Prop
  | .track geometry => 2 ≤ geometry.path.length ∧ ∀ point ∈ geometry.path, LayoutValidator.isFinite point = true
  | .switch geometry =>
    LayoutValidator.isFinite geometry.ports.trunk = true ∧ LayoutValidator.isFinite geometry.ports.straight = true ∧
      LayoutValidator.isFinite geometry.ports.divergent = true
  | .signal geometry =>
    Floating.isFinite geometry.attachment.offset = true ∧ ¬ geometry.attachment.offset < 0 ∧
      ¬ 1 < geometry.attachment.offset ∧ Floating.isFinite geometry.attachment.lateral = true

variable {toDouble} {value : Json}

theorem ok_bind {β γ : Type u} (b : β) (f : β → Except ReadError γ) : (Except.ok b >>= f) = f b := rfl

theorem json_there {field : String} {v : Json} (h : value.member field = some v) :
    json (value.atKey field Except.ok) = .ok v := by
  rw [Json.atKey_of_member h rfl]
  rfl

theorem json_word {field word : String} (h : SaysWord value field word) :
    json (value.atKey field Json.getString) = .ok word := by
  have hGet : (Json.string word).getString = .ok word := rfl
  rw [Json.atKey_of_member h hGet]
  rfl

theorem exists_number {field : String} {v : Json} {test : Rat → Bool} (hMember : value.member field = some v)
    (h : JsonSchema.number test v = true) : ∃ q, readDouble toDouble value field = .ok (toDouble q) ∧ test q = true ∧
      SaysNumber toDouble value field (toDouble q) := by
  obtain ⟨q, hNumber, hTest⟩ := JsonSchema.number_spec h
  refine ⟨q, ?_, hTest, v, q, hMember, hNumber, rfl⟩
  rw [readDouble, Json.atKey_of_member hMember (Json.getDouble_of_number hNumber)]
  rfl

theorem exists_id {field : String} {v : Json} (hMember : value.member field = some v) (h : uidSchema v = true) :
    ∃ id, readId value field = .ok id ∧ SaysId value field id := by
  obtain ⟨n, hNumber, hLow, hHigh⟩ := JsonSchema.integer_spec (by decide) h
  have hFits : n < 2 ^ 64 := by omega
  have hSame : (UInt64.ofNat n).toNat = n := UInt64.toNat_ofNat_of_lt' hFits
  refine ⟨⟨UInt64.ofNat n⟩, ?_, v, hMember, ?_, ?_⟩
  · rw [readId, Json.atKey_of_member hMember (Json.getUint64_of_number hNumber hFits)]
    rfl
  · rw [hSame]
    exact hNumber
  · rw [hSame]
    omega

theorem exists_word {field : String} {v : Json} {words : List String} (hMember : value.member field = some v)
    (h : JsonSchema.enum words v = true) : ∃ word ∈ words, SaysWord value field word := by
  obtain ⟨word, rfl, hIn⟩ := JsonSchema.enum_spec h
  exact ⟨word, hIn, hMember⟩

theorem exists_point (h : pointSchema value = true) :
    ∃ point, readPoint toDouble value = .ok point ∧ SaysPoint toDouble value point := by
  obtain ⟨vx, hx, hNumberX⟩ := JsonSchema.required_of_object "x" h (by decide) rfl
  obtain ⟨vy, hy, hNumberY⟩ := JsonSchema.required_of_object "y" h (by decide) rfl
  obtain ⟨x, hReadX, -, hSaysX⟩ := exists_number hx hNumberX
  obtain ⟨y, hReadY, -, hSaysY⟩ := exists_number hy hNumberY
  refine ⟨⟨toDouble x, toDouble y⟩, ?_, hSaysX, hSaysY⟩
  rw [readPoint, hReadX, hReadY]
  rfl

theorem exists_port {field : String} {v : Json} (hMember : value.member field = some v) (h : pointSchema v = true) :
    ∃ point, readPort toDouble value field = .ok point ∧ SaysPort toDouble value field point := by
  obtain ⟨point, hRead, hSays⟩ := @exists_point _ toDouble v h
  refine ⟨point, ?_, v, hMember, hSays⟩
  rw [readPort, json_there hMember]
  exact hRead

theorem exists_canvas {v : Json} (hMember : value.member "canvas" = some v) (h : canvasSchema v = true) :
    ∃ canvas, readCanvas toDouble value = .ok canvas ∧ SaysNumber toDouble v "width" canvas.width ∧
      SaysNumber toDouble v "height" canvas.height := by
  obtain ⟨vWidth, hWidth, hWidthValid⟩ := JsonSchema.required_of_object "width" h (by decide) rfl
  obtain ⟨vHeight, hHeight, hHeightValid⟩ := JsonSchema.required_of_object "height" h (by decide) rfl
  obtain ⟨width, hReadWidth, -, hSaysWidth⟩ := @exists_number _ toDouble _ _ _ _ hWidth hWidthValid
  obtain ⟨height, hReadHeight, -, hSaysHeight⟩ := @exists_number _ toDouble _ _ _ _ hHeight hHeightValid
  refine ⟨⟨toDouble width, toDouble height⟩, ?_, hSaysWidth, hSaysHeight⟩
  rw [readCanvas, json_there hMember, ok_bind, hReadWidth, ok_bind, hReadHeight]
  rfl

theorem exists_side {word : String} (h : word ∈ ["A", "B"]) :
    ∃ side, readSide word = .ok side ∧ sideWord side = word := by
  rcases List.mem_pair.mp h with rfl | rfl
  · exact ⟨.a, rfl, rfl⟩
  · exact ⟨.b, rfl, rfl⟩

theorem exists_facing {word : String} (h : word ∈ ["towards_A", "towards_B"]) :
    ∃ facing, readFacing word = .ok facing ∧ facingWord facing = word := by
  rcases List.mem_pair.mp h with rfl | rfl
  · exact ⟨.towardsA, rfl, rfl⟩
  · exact ⟨.towardsB, rfl, rfl⟩

/-- The lateral displacement may be left out. -/
theorem exists_lateral (h : attachmentSchema value = true) :
    ∃ q, json (value.valueOr "lateral" 0 Json.getDouble) = .ok q ∧
      (SaysNumber toDouble value "lateral" (toDouble q) ∨ value.member "lateral" = none ∧ toDouble q = toDouble 0) := by
  cases hMember : value.member "lateral" with
  | none =>
    refine ⟨0, ?_, Or.inr ⟨rfl, rfl⟩⟩
    rw [Json.valueOr_of_member (JsonSchema.isObject_of_object h) (by simp [hMember]) fun _ => rfl]
    rfl
  | some v =>
    obtain ⟨q, hNumber, -⟩ := JsonSchema.number_spec (JsonSchema.optional_of_object h rfl hMember)
    have hGet : ∀ w, value.member "lateral" = some w → w.getDouble = .ok q := by
      intro w hw
      cases hMember.symm.trans hw
      exact Json.getDouble_of_number hNumber
    refine ⟨q, ?_, Or.inl ⟨v, q, hMember, hNumber, rfl⟩⟩
    rw [Json.valueOr_of_member (JsonSchema.isObject_of_object h) hGet (by simp [hMember])]
    rfl

/-- What each of the values is read to, the list of them is read to. -/
theorem exists_forall₂ {β : Type} {read : Json → Except ReadError β} {R : Json → β → Prop} {docs : List Json}
    (h : ∀ doc ∈ docs, ∃ b, read doc = .ok b ∧ R doc b) : ∃ bs, docs.mapM read = .ok bs ∧ List.Forall₂ R docs bs := by
  induction docs with
  | nil => exact ⟨[], rfl, .nil⟩
  | cons doc docs ih =>
    obtain ⟨b, hRead, hR⟩ := h doc List.mem_cons_self
    obtain ⟨bs, hRest, hAll⟩ := ih fun doc hDoc => h doc (List.mem_cons_of_mem _ hDoc)
    refine ⟨b :: bs, ?_, .cons hR hAll⟩
    rw [List.mapM_cons, hRead, hRest]
    rfl

theorem exists_of_mem {β : Type} {R : Json → β → Prop} {docs : List Json} {bs : List β} (h : List.Forall₂ R docs bs)
    {b : β} (hMem : b ∈ bs) : ∃ doc ∈ docs, R doc b := by
  induction h with
  | nil => cases hMem
  | cons hR hRest ih =>
    rcases List.mem_cons.mp hMem with rfl | hMem
    · exact ⟨_, List.mem_cons_self, hR⟩
    · obtain ⟨doc, hDoc, hSays⟩ := ih hMem
      exact ⟨doc, List.mem_cons_of_mem _ hDoc, hSays⟩

variable [Zero α] [One α] [LT α] [Floating α] {fits : Rat → Prop} (hRounds : Rounds toDouble fits)
  (hNumbers : value.NumbersIn fits)
include hRounds hNumbers

theorem isFinite_of_says {field : String} {a : α} (h : SaysNumber toDouble value field a) :
    Floating.isFinite a = true := by
  obtain ⟨v, q, hMember, hNumber, rfl⟩ := h
  exact hRounds.finite ((hNumbers.member hMember).number hNumber)

theorem isFinite_of_saysPoint {point : Point α} (h : SaysPoint toDouble value point) :
    LayoutValidator.isFinite point = true := by
  rw [LayoutValidator.isFinite, isFinite_of_says hRounds hNumbers h.1, isFinite_of_says hRounds hNumbers h.2]
  rfl

theorem isFinite_of_saysPort {field : String} {point : Point α} (h : SaysPort toDouble value field point) :
    LayoutValidator.isFinite point = true := by
  obtain ⟨v, hMember, hSays⟩ := h
  exact isFinite_of_saysPoint hRounds (hNumbers.member hMember) hSays

theorem exists_trackSection (h : trackSectionSchema value = true) :
    ∃ element, readElement toDouble value = .ok element ∧ Describes toDouble value element ∧ WellFormed element := by
  obtain ⟨kind, hKind, hKindValid⟩ := JsonSchema.required_of_object "kind" h (by decide) rfl
  obtain ⟨word, hWord, hSaysKind⟩ := exists_word hKind hKindValid
  cases List.mem_singleton.mp hWord
  obtain ⟨uid, hUid, hUidValid⟩ := JsonSchema.required_of_object "topology_uid" h (by decide) rfl
  obtain ⟨id, hId, hSaysId⟩ := exists_id hUid hUidValid
  obtain ⟨points, hPoints, hPointsValid⟩ := JsonSchema.required_of_object "path" h (by decide) rfl
  obtain ⟨points, rfl, hTwo, hEach⟩ := JsonSchema.array_spec hPointsValid
  obtain ⟨path, hPath, hSays⟩ := exists_forall₂ fun doc hDoc => @exists_point _ toDouble doc (hEach doc hDoc)
  refine ⟨.track ⟨id, path⟩, ?_, ⟨hSaysKind, hSaysId, points, hPoints, hSays⟩, hSays.length_eq ▸ hTwo, ?_⟩
  · rw [readElement, json_word hSaysKind, ok_bind, if_pos rfl, readTrackSection, hId, ok_bind,
      json_there hPoints, ok_bind, Json.elements_array, hPath]
    rfl
  · intro point hPoint
    obtain ⟨doc, hDoc, hSaysPoint⟩ := exists_of_mem hSays hPoint
    exact isFinite_of_saysPoint hRounds ((hNumbers.member hPoints).element hDoc) hSaysPoint

theorem exists_switch (h : switchSchema value = true) :
    ∃ element, readElement toDouble value = .ok element ∧ Describes toDouble value element ∧ WellFormed element := by
  obtain ⟨kind, hKind, hKindValid⟩ := JsonSchema.required_of_object "kind" h (by decide) rfl
  obtain ⟨word, hWord, hSaysKind⟩ := exists_word hKind hKindValid
  cases List.mem_singleton.mp hWord
  obtain ⟨uid, hUid, hUidValid⟩ := JsonSchema.required_of_object "topology_uid" h (by decide) rfl
  obtain ⟨id, hId, hSaysId⟩ := exists_id hUid hUidValid
  obtain ⟨ports, hPorts, hPortsValid⟩ := JsonSchema.required_of_object "ports" h (by decide) rfl
  obtain ⟨vt, hMemberT, hValidT⟩ := JsonSchema.required_of_object "trunk" hPortsValid (by decide) rfl
  obtain ⟨vs, hMemberS, hValidS⟩ := JsonSchema.required_of_object "straight" hPortsValid (by decide) rfl
  obtain ⟨vd, hMemberD, hValidD⟩ := JsonSchema.required_of_object "divergent" hPortsValid (by decide) rfl
  obtain ⟨trunk, hTrunk, hSaysT⟩ := @exists_port _ toDouble _ _ _ hMemberT hValidT
  obtain ⟨straight, hStraight, hSaysS⟩ := @exists_port _ toDouble _ _ _ hMemberS hValidS
  obtain ⟨divergent, hDivergent, hSaysD⟩ := @exists_port _ toDouble _ _ _ hMemberD hValidD
  have hNumbersIn : ports.NumbersIn fits := hNumbers.member hPorts
  refine ⟨.switch ⟨id, ⟨trunk, straight, divergent⟩⟩, ?_,
    ⟨hSaysKind, hSaysId, ports, hPorts, hSaysT, hSaysS, hSaysD⟩, isFinite_of_saysPort hRounds hNumbersIn hSaysT,
    isFinite_of_saysPort hRounds hNumbersIn hSaysS, isFinite_of_saysPort hRounds hNumbersIn hSaysD⟩
  rw [readElement, json_word hSaysKind, ok_bind, if_neg (by decide), if_pos rfl, readSwitch,
    json_there hPorts, ok_bind, hId,
    ok_bind, hTrunk, ok_bind, hStraight, ok_bind, hDivergent]
  rfl

theorem exists_attachment (h : attachmentSchema value = true) :
    ∃ attachment, readAttachment toDouble value = .ok attachment ∧ SaysId value "topology_uid" attachment.trackId ∧
      SaysWord value "side" (sideWord attachment.referenceSide) ∧ SaysNumber toDouble value "offset" attachment.offset ∧
      (SaysNumber toDouble value "lateral" attachment.lateral ∨
        value.member "lateral" = none ∧ attachment.lateral = toDouble 0) ∧
      Floating.isFinite attachment.offset = true ∧ ¬ attachment.offset < 0 ∧ ¬ 1 < attachment.offset ∧
      Floating.isFinite attachment.lateral = true := by
  obtain ⟨uid, hUid, hUidValid⟩ := JsonSchema.required_of_object "topology_uid" h (by decide) rfl
  obtain ⟨trackId, hId, hSaysId⟩ := exists_id hUid hUidValid
  obtain ⟨vSide, hSide, hSideValid⟩ := JsonSchema.required_of_object "side" h (by decide) rfl
  obtain ⟨word, hWord, hSaysSide⟩ := exists_word hSide hSideValid
  obtain ⟨side, hReadSide, rfl⟩ := exists_side hWord
  obtain ⟨vOffset, hOffset, hOffsetValid⟩ := JsonSchema.required_of_object "offset" h (by decide) rfl
  obtain ⟨offset, hReadOffset, hRange, hSaysOffset⟩ := @exists_number _ toDouble _ _ _ _ hOffset hOffsetValid
  simp only [Bool.and_eq_true, decide_eq_true_eq] at hRange
  obtain ⟨lateral, hReadLateral, hLateral⟩ := @exists_lateral _ toDouble _ h
  have hFinite : Floating.isFinite (toDouble lateral) = true := by
    rcases hLateral with hSays | ⟨-, hZero⟩
    · exact isFinite_of_says hRounds hNumbers hSays
    · rw [hZero]
      exact hRounds.finite hRounds.zero
  refine ⟨⟨trackId, side, toDouble offset, toDouble lateral⟩, ?_, hSaysId, hSaysSide, hSaysOffset, hLateral,
    isFinite_of_says hRounds hNumbers hSaysOffset, hRounds.nonneg hRange.1, hRounds.le_one hRange.2, hFinite⟩
  rw [readAttachment, hId, ok_bind, json_word hSaysSide, ok_bind, hReadSide, ok_bind, hReadOffset,
    ok_bind, hReadLateral]
  rfl

theorem exists_signal (h : signalSchema value = true) :
    ∃ element, readElement toDouble value = .ok element ∧ Describes toDouble value element ∧ WellFormed element := by
  obtain ⟨kind, hKind, hKindValid⟩ := JsonSchema.required_of_object "kind" h (by decide) rfl
  obtain ⟨word, hWord, hSaysKind⟩ := exists_word hKind hKindValid
  cases List.mem_singleton.mp hWord
  obtain ⟨uid, hUid, hUidValid⟩ := JsonSchema.required_of_object "object_uid" h (by decide) rfl
  obtain ⟨objectId, hId, hSaysId⟩ := exists_id hUid hUidValid
  obtain ⟨vAttachment, hAttachment, hAttachmentValid⟩ := JsonSchema.required_of_object "attachment" h (by decide) rfl
  obtain ⟨attachment, hReadAttachment, hTrackId, hSide, hOffset, hLateral, hFinite⟩ :=
    exists_attachment hRounds (hNumbers.member hAttachment) hAttachmentValid
  obtain ⟨vFacing, hFacing, hFacingValid⟩ := JsonSchema.required_of_object "facing" h (by decide) rfl
  obtain ⟨word, hWord', hSaysFacing⟩ := exists_word hFacing hFacingValid
  obtain ⟨facing, hReadFacing, rfl⟩ := exists_facing hWord'
  refine ⟨.signal ⟨objectId, attachment, facing⟩, ?_,
    ⟨hSaysKind, hSaysId, hSaysFacing, vAttachment, hAttachment, hTrackId, hSide, hOffset, hLateral⟩, hFinite⟩
  rw [readElement, json_word hSaysKind, ok_bind, if_neg (by decide), if_neg (by decide), if_pos rfl, readSignal,
    json_there hAttachment, ok_bind, hId, ok_bind, hReadAttachment, ok_bind, json_word hSaysFacing, ok_bind,
    hReadFacing]
  rfl

theorem exists_element (h : JsonSchema.oneOf [trackSectionSchema, switchSchema, signalSchema] value = true) :
    ∃ element, readElement toDouble value = .ok element ∧ Describes toDouble value element ∧ WellFormed element := by
  obtain ⟨schema, hSchema, hValid⟩ := JsonSchema.oneOf_spec h
  simp only [List.mem_cons, List.not_mem_nil, or_false] at hSchema
  obtain rfl | rfl | rfl := hSchema
  · exact exists_trackSection hRounds hNumbers hValid
  · exact exists_switch hRounds hNumbers hValid
  · exact exists_signal hRounds hNumbers hValid

theorem exists_label (h : labelSchema value = true) :
    ∃ label, readLabel toDouble value = .ok label ∧ DescribesLabel toDouble value label ∧ label.text ≠ "" ∧
      LayoutValidator.isFinite label.anchor = true := by
  obtain ⟨vText, hText, hTextValid⟩ := JsonSchema.required_of_object "text" h (by decide) rfl
  obtain ⟨text, rfl, hNotEmpty⟩ := JsonSchema.nonEmptyString_spec hTextValid
  have hSaysText : SaysWord value "text" text := hText
  obtain ⟨vAnchor, hAnchor, hAnchorValid⟩ := JsonSchema.required_of_object "anchor" h (by decide) rfl
  obtain ⟨anchor, hReadAnchor, hSaysAnchor⟩ := @exists_point _ toDouble _ hAnchorValid
  refine ⟨⟨text, anchor⟩, ?_, ⟨hSaysText, vAnchor, hAnchor, hSaysAnchor⟩, hNotEmpty,
    isFinite_of_saysPoint hRounds (hNumbers.member hAnchor) hSaysAnchor⟩
  rw [readLabel, json_word hSaysText, ok_bind, json_there hAnchor, ok_bind, hReadAnchor]
  rfl

end Valid

/-! ## Valid documents -/

/-- The labels of a document without any are none. -/
def labelDocs (root : Json) : List Json := (root.member "labels").elim [] Json.elements

/-- The layout is what the document says, and its numbers and texts are such as the validator asks for. -/
structure Holds {α : Type} [Zero α] [One α] [LT α] [Floating α] (toDouble : Rat → α) (root : Json)
    (layout : StyledLayout α) : Prop where
  version : layout.schemaVersion = 1
  layoutId : SaysWord root "layout_id" layout.layoutId ∧ layout.layoutId ≠ ""
  stationSid : SaysWord root "station_sid" layout.stationSid ∧ layout.stationSid ≠ ""
  styleHint : SaysWord root "style_hint" layout.styleHint ∨
    root.member "style_hint" = none ∧ layout.styleHint = "ebiscreen"
  canvas : ∃ v, root.member "canvas" = some v ∧ SaysNumber toDouble v "width" layout.canvas.width ∧
    SaysNumber toDouble v "height" layout.canvas.height
  elements : ∃ docs, root.member "elements" = some (.array docs) ∧
    List.Forall₂ (fun doc element => Describes toDouble doc element ∧ WellFormed element) docs layout.elements
  labels : List.Forall₂ (fun doc label => DescribesLabel toDouble doc label ∧ label.text ≠ "" ∧
    LayoutValidator.isFinite label.anchor = true) (labelDocs root) layout.labels

section Root

variable {α : Type} [Zero α] [One α] [LT α] [Floating α] {toDouble : Rat → α} {fits : Rat → Prop} {root : Json}

theorem getInt32_of_one {v : Json} (h : v.number? = some 1) : v.getInt32 = .ok 1 := by
  cases v with
  | unsigned n =>
    have hOne : n = 1 := by
      have hCast : (n : Rat) = ((1 : Nat) : Rat) := Option.some.inj h
      exact_mod_cast hCast
    subst hOne
    rfl
  | integer i =>
    have hOne : i = 1 := by
      have hCast : (i : Rat) = ((1 : Int) : Rat) := Option.some.inj h
      exact_mod_cast hCast
    subst hOne
    rfl
  | float q =>
    cases Option.some.inj h
    rfl
  | null | boolean | string | array | object => cases h

theorem exists_styleHint (h : trackLayoutSchema root = true) :
    ∃ styleHint, json (root.valueOr "style_hint" "ebiscreen" Json.getString) = .ok styleHint ∧
      (SaysWord root "style_hint" styleHint ∨ root.member "style_hint" = none ∧ styleHint = "ebiscreen") := by
  cases hMember : root.member "style_hint" with
  | none =>
    refine ⟨"ebiscreen", ?_, Or.inr ⟨rfl, rfl⟩⟩
    rw [Json.valueOr_of_member (JsonSchema.isObject_of_object h) (by simp [hMember]) fun _ => rfl]
    rfl
  | some v =>
    obtain ⟨styleHint, rfl, -⟩ := JsonSchema.nonEmptyString_spec (JsonSchema.optional_of_object h rfl hMember)
    have hGet : ∀ w, root.member "style_hint" = some w → w.getString = .ok styleHint := by
      intro w hw
      cases hMember.symm.trans hw
      rfl
    refine ⟨styleHint, ?_, Or.inl hMember⟩
    rw [Json.valueOr_of_member (JsonSchema.isObject_of_object h) hGet (by simp [hMember])]
    rfl

theorem exists_labels (hRounds : Rounds toDouble fits) (hNumbers : root.NumbersIn fits)
    (h : trackLayoutSchema root = true) : ∃ labels list,
    json (root.valueOr "labels" (.array []) Except.ok) = .ok labels ∧
    labels.elements.mapM (readLabel toDouble) = .ok list ∧
    List.Forall₂ (fun doc label => DescribesLabel toDouble doc label ∧ label.text ≠ "" ∧
      LayoutValidator.isFinite label.anchor = true) (labelDocs root) list := by
  cases hMember : root.member "labels" with
  | none =>
    refine ⟨.array [], [], ?_, rfl, ?_⟩
    · rw [Json.valueOr_of_member (JsonSchema.isObject_of_object h) (by simp [hMember]) fun _ => rfl]
      rfl
    · rw [labelDocs, hMember]
      exact .nil
  | some v =>
    obtain ⟨docs, rfl, -, hEach⟩ := JsonSchema.array_spec (JsonSchema.optional_of_object h rfl hMember)
    obtain ⟨list, hList, hSays⟩ := exists_forall₂ fun doc hDoc =>
      exists_label hRounds ((hNumbers.member hMember).element hDoc) (hEach doc hDoc)
    have hGet : ∀ w, root.member "labels" = some w → (Except.ok w : Except String Json) = .ok (.array docs) := by
      intro w hw
      cases hMember.symm.trans hw
      rfl
    refine ⟨.array docs, list, ?_, hList, ?_⟩
    · rw [Json.valueOr_of_member (JsonSchema.isObject_of_object h) hGet (by simp [hMember])]
      rfl
    · rw [labelDocs, hMember]
      exact hSays

/-- A valid document is read. -/
theorem exists_layout (hRounds : Rounds toDouble fits) (hNumbers : root.NumbersIn fits)
    (h : trackLayoutSchema root = true) :
    ∃ layout, readRoot toDouble root = .ok layout ∧ Holds toDouble root layout := by
  obtain ⟨vVersion, hVersion, hVersionValid⟩ := JsonSchema.required_of_object "schema_version" h (by decide) rfl
  obtain ⟨one, hNumber, hOne⟩ := JsonSchema.number_spec hVersionValid
  cases of_decide_eq_true hOne
  have hReadVersion : json (root.atKey "schema_version" Json.getInt32) = .ok 1 := by
    rw [Json.atKey_of_member hVersion (getInt32_of_one hNumber)]
    rfl
  obtain ⟨vKind, hKind, hKindValid⟩ := JsonSchema.required_of_object "kind" h (by decide) rfl
  obtain ⟨word, hWord, hSaysKind⟩ := exists_word hKind hKindValid
  cases List.mem_singleton.mp hWord
  obtain ⟨vLayout, hLayout, hLayoutValid⟩ := JsonSchema.required_of_object "layout_id" h (by decide) rfl
  obtain ⟨layoutId, rfl, hLayoutId⟩ := JsonSchema.nonEmptyString_spec hLayoutValid
  have hSaysLayout : SaysWord root "layout_id" layoutId := hLayout
  obtain ⟨vStation, hStation, hStationValid⟩ := JsonSchema.required_of_object "station_sid" h (by decide) rfl
  obtain ⟨stationSid, rfl, hStationSid⟩ := JsonSchema.nonEmptyString_spec hStationValid
  have hSaysStation : SaysWord root "station_sid" stationSid := hStation
  obtain ⟨styleHint, hStyle, hSaysStyle⟩ := exists_styleHint h
  obtain ⟨vCanvas, hCanvas, hCanvasValid⟩ := JsonSchema.required_of_object "canvas" h (by decide) rfl
  obtain ⟨canvas, hReadCanvas, hWidth, hHeight⟩ := @exists_canvas _ toDouble _ _ hCanvas hCanvasValid
  obtain ⟨vElements, hElements, hElementsValid⟩ := JsonSchema.required_of_object "elements" h (by decide) rfl
  obtain ⟨docs, rfl, -, hEach⟩ := JsonSchema.array_spec hElementsValid
  obtain ⟨elements, hReadElements, hSaysElements⟩ := exists_forall₂ fun doc hDoc =>
    exists_element hRounds ((hNumbers.member hElements).element hDoc) (hEach doc hDoc)
  obtain ⟨labels, list, hLabels, hReadLabels, hSaysLabels⟩ := exists_labels hRounds hNumbers h
  let layout : StyledLayout α :=
    { schemaVersion := 1, layoutId, stationSid, styleHint, canvas, elements, labels := list }
  refine ⟨layout, ?_, ⟨rfl, ⟨hSaysLayout, hLayoutId⟩, ⟨hSaysStation, hStationSid⟩, hSaysStyle,
    ⟨vCanvas, hCanvas, hWidth, hHeight⟩, ⟨docs, hElements, hSaysElements⟩, hSaysLabels⟩⟩
  rw [readRoot, hReadVersion, ok_bind, if_neg (by decide), json_word hSaysKind, ok_bind, if_neg (by decide), readLayout,
    json_word hSaysLayout, ok_bind, json_word hSaysStation, ok_bind, hStyle, ok_bind, hReadCanvas, ok_bind,
    json_there hElements, ok_bind, Json.elements_array, hReadElements, ok_bind, hLabels, ok_bind, hReadLabels]
  rfl

end Root

/-! ## What the validator finds -/

/-- The rules about names: things that are not there, are there twice, or do not belong together. -/
def identifierRules : List String :=
  ["LAY-101", "LAY-104", "LAY-201", "LAY-301", "LAY-302", "LAY-303", "LAY-306", "LAY-307"]

section Validator

variable {α : Type} [Zero α] [One α] [LT α] [Floating α] {catalog : InfrastructureCatalog} {d : LayoutDiagnostic}

theorem rule_of_report {found : Bool} {rule message : String} {id : Option InfrastructureId}
    (h : d ∈ LayoutValidator.report found rule id message) : found = true ∧ d.ruleId = rule := by
  cases found with
  | true =>
    cases List.mem_singleton.mp h
    exact ⟨rfl, rfl⟩
  | false => cases h

theorem rule_of_checkTrack {seen : LayoutValidator.Seen} {geometry : TrackSectionGeometry α}
    (hWell : WellFormed (.track geometry)) (h : d ∈ LayoutValidator.checkTrack catalog seen geometry) :
    d.ruleId ∈ identifierRules := by
  simp only [LayoutValidator.checkTrack, List.mem_append, List.mem_flatMap] at h
  rcases h with ((hUnknown | hShort) | ⟨point, hPoint, hInfinite⟩) | hTwice
  · rw [(rule_of_report hUnknown).2]
    decide
  · exact absurd (of_decide_eq_true (rule_of_report hShort).1) (Nat.not_lt.mpr hWell.1)
  · have hNot := of_decide_eq_true (rule_of_report hInfinite).1
    rw [hWell.2 point hPoint] at hNot
    cases hNot
  · rw [(rule_of_report hTwice).2]
    decide

theorem rule_of_checkSwitch {seen : LayoutValidator.Seen} {geometry : SwitchGeometry α}
    (hWell : WellFormed (.switch geometry)) (h : d ∈ LayoutValidator.checkSwitch catalog seen geometry) :
    d.ruleId ∈ identifierRules := by
  simp only [LayoutValidator.checkSwitch, List.mem_append] at h
  rcases h with (hUnknown | hInfinite) | hTwice
  · rw [(rule_of_report hUnknown).2]
    decide
  · have hNot := of_decide_eq_true (rule_of_report hInfinite).1
    obtain ⟨hTrunk, hStraight, hDivergent⟩ := hWell
    simp [hTrunk, hStraight, hDivergent] at hNot
  · rw [(rule_of_report hTwice).2]
    decide

variable [DecidableLT α] {trackGeometries : List InfrastructureId}

theorem rule_of_checkSignal {seen : LayoutValidator.Seen} {geometry : SignalGeometry α}
    (hWell : WellFormed (.signal geometry))
    (h : d ∈ LayoutValidator.checkSignal catalog trackGeometries seen geometry) : d.ruleId ∈ identifierRules := by
  obtain ⟨hOffset, hLow, hHigh, hLateral⟩ := hWell
  simp only [LayoutValidator.checkSignal, List.mem_append] at h
  rcases h with ((((hUnknown | hGoverns) | hRange) | hInfinite) | hTwice) | hUndrawn
  · rw [(rule_of_report hUnknown).2]
    decide
  · unfold LayoutValidator.checkGoverns at hGoverns
    split at hGoverns
    · rw [(rule_of_report hGoverns).2]
      decide
    · rw [(rule_of_report hGoverns).2]
      decide
  · have hNot := of_decide_eq_true (rule_of_report hRange).1
    simp [hOffset, hLow, hHigh] at hNot
  · have hNot := of_decide_eq_true (rule_of_report hInfinite).1
    rw [hLateral] at hNot
    cases hNot
  · rw [(rule_of_report hTwice).2]
    decide
  · rw [(rule_of_report hUndrawn).2]
    decide

theorem rule_of_checkElements {seen : LayoutValidator.Seen} {elements : List (TrackLayoutElement α)}
    (hWell : ∀ element ∈ elements, WellFormed element)
    (h : d ∈ LayoutValidator.checkElements catalog trackGeometries seen elements) : d.ruleId ∈ identifierRules := by
  induction elements generalizing seen with
  | nil => cases h
  | cons element elements ih =>
    obtain ⟨hFirst, hRest⟩ := List.forall_mem_cons.mp hWell
    rcases List.mem_append.mp h with hHere | hLater
    · cases element with
      | track geometry => exact rule_of_checkTrack hFirst hHere
      | switch geometry => exact rule_of_checkSwitch hFirst hHere
      | signal geometry => exact rule_of_checkSignal hFirst hHere
    · exact ih hRest hLater

variable {toDouble : Rat → α} {fits : Rat → Prop} {root : Json} {layout : StyledLayout α}

theorem rule_of_checkLayout (hRounds : Rounds toDouble fits) (hNumbers : root.NumbersIn fits)
    (hHolds : Holds toDouble root layout) (h : d ∈ LayoutValidator.checkLayout layout.toTrackLayout) :
    d.ruleId = "LAY-003" ∧ ¬ (0 < layout.canvas.width ∧ 0 < layout.canvas.height) := by
  simp only [LayoutValidator.checkLayout, List.mem_append] at h
  rcases h with (hVersion | hNameless) | hCanvas
  · exact absurd hHolds.version (of_decide_eq_true (rule_of_report hVersion).1)
  · have hNot := of_decide_eq_true (rule_of_report hNameless).1
    rcases hNot with hLayout | hStation
    · exact absurd hLayout hHolds.layoutId.2
    · exact absurd hStation hHolds.stationSid.2
  · obtain ⟨v, hCanvasThere, hWidth, hHeight⟩ := hHolds.canvas
    have hWithin : v.NumbersIn fits := hNumbers.member hCanvasThere
    have hNot := of_decide_eq_true (rule_of_report hCanvas).1
    refine ⟨(rule_of_report hCanvas).2, fun hPositive => ?_⟩
    simp [hPositive.1, hPositive.2, isFinite_of_says hRounds hWithin hWidth,
      isFinite_of_says hRounds hWithin hHeight] at hNot

/-- A document that is valid by the schema is read, whatever it holds, and the layout is what it says. The validator
finds nothing wrong with it but names, and a canvas one of whose sides is too small to be a double. -/
theorem schema_read (hRounds : Rounds toDouble fits) (hNumbers : root.NumbersIn fits)
    (hValid : trackLayoutSchema root = true) (path : String) :
    ∃ layout, read toDouble path root = .ok layout ∧ Holds toDouble root layout ∧ ∀ catalog,
      ∀ d ∈ LayoutValidator.validate catalog layout.toTrackLayout, d.ruleId ∈ identifierRules ∨
        d.ruleId = "LAY-003" ∧ ¬ (0 < layout.canvas.width ∧ 0 < layout.canvas.height) := by
  obtain ⟨layout, hRead, hHolds⟩ := exists_layout hRounds hNumbers hValid
  refine ⟨layout, by rw [read, hRead], hHolds, fun catalog d hd => ?_⟩
  rcases List.mem_append.mp hd with hGeometry | hLabel
  · rcases List.mem_append.mp hGeometry with hLayout | hElements
    · exact Or.inr (rule_of_checkLayout hRounds hNumbers hHolds hLayout)
    · obtain ⟨docs, -, hDocs⟩ := hHolds.elements
      refine Or.inl (rule_of_checkElements (fun element hElement => ?_) hElements)
      obtain ⟨doc, -, -, hWell⟩ := exists_of_mem hDocs hElement
      exact hWell
  · obtain ⟨label, hMem, hReport⟩ := List.mem_flatMap.mp hLabel
    obtain ⟨doc, -, -, hText, hAnchor⟩ := exists_of_mem hHolds.labels hMem
    have hNot := of_decide_eq_true (rule_of_report hReport).1
    simp [hText, hAnchor] at hNot

end Validator

/-! ### A simple layout -/

def simplePoint (x y : Nat) : Json := .object [("x", .unsigned x), ("y", .unsigned y)]

def simpleLayout : Json :=
  .object
    [("schema_version", .unsigned 1), ("layout_id", .string "simple-ebiscreen"), ("station_sid", .string "TEST"),
      ("kind", .string "track_schematic"), ("style_hint", .string "ebiscreen"),
      ("canvas", .object [("width", .unsigned 40), ("height", .unsigned 20)]),
      ("elements", .array
        [.object
          [("topology_uid", .unsigned 1001), ("kind", .string "track_section"),
            ("path", .array [simplePoint 2 10, simplePoint 20 10])],
        .object
          [("topology_uid", .unsigned 2001), ("kind", .string "switch"),
            ("ports", .object
              [("trunk", simplePoint 20 10), ("straight", simplePoint 30 10), ("divergent", simplePoint 30 15)])],
        .object
          [("object_uid", .unsigned 3001), ("kind", .string "signal"),
            ("attachment", .object
              [("topology_uid", .unsigned 1001), ("side", .string "A"), ("offset", .float (1 / 4)),
                ("lateral", .integer (-2))]),
            ("facing", .string "towards_B")]]),
      ("labels", .array [.object [("text", .string "TEST"), ("anchor", simplePoint 16 2)]])]

theorem rounds_cast : Rounds (fun q : Rat => (q : ℝ)) fun _ => True where
  zero := trivial
  finite _ := rfl
  nonneg h := not_lt.mpr (Rat.cast_nonneg.mpr h)
  le_one h := not_lt.mpr (by exact_mod_cast h)

theorem schema_read_simple : ∃ layout, read (fun q : Rat => (q : ℝ)) "simple_layout.json" simpleLayout = .ok layout ∧
    Holds (fun q : Rat => (q : ℝ)) simpleLayout layout ∧ ∀ catalog,
      ∀ d ∈ LayoutValidator.validate catalog layout.toTrackLayout, d.ruleId ∈ identifierRules ∨
        d.ruleId = "LAY-003" ∧ ¬ (0 < layout.canvas.width ∧ 0 < layout.canvas.height) := by
  have hValid : trackLayoutSchema simpleLayout = true := by decide +kernel
  exact schema_read rounds_cast (fun _ _ _ _ => trivial) hValid "simple_layout.json"

end JsonLayoutReader

end Symulator.Trackview
