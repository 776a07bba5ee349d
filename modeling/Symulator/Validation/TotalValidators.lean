import Symulator.Validation.ScenarioLoads

/-! # Do the validators report every wrong type?

The loader takes an unsigned number or a string from many fields of a scenario. The validators take numbers and
strings from some of them without looking at the type first, pass over others when the type is wrong, and never look
at the rest. What a field must hold for them to come to a result and to report what the loader rejects is a condition
on the entries.
-/

namespace Symulator.Validation

open Symulator.Library Symulator.Engine Symulator.Engine.JsonLoader

set_option autoImplicit false

/-- The values that stand in a field of an object, and the types that are right for them. -/
structure FieldType where
  values : Json → List Json
  test : Json → Bool

def FieldType.Holds (field : FieldType) (obj : Json) : Prop := ∀ value ∈ field.values obj, field.test value = true

def fieldValues (key : String) (obj : Json) : List Json := (obj.member key).toList

def elementsOf (key : String) (obj : Json) : List Json := ((obj.member key).getD (.array [])).elements

/-- A field of a part of the object, of a side or a leg. -/
def within (part : String) (values : Json → List Json) (obj : Json) : List Json := (fieldValues part obj).flatMap values

def unsignedField (key : String) : FieldType := ⟨fieldValues key, Json.isUnsigned⟩

def numberField (key : String) : FieldType := ⟨fieldValues key, Json.isNumber⟩

def stringField (key : String) : FieldType := ⟨fieldValues key, Json.isString⟩

def uidList (key : String) : FieldType := ⟨elementsOf key, Json.isNumber⟩

def FieldType.of (field : FieldType) (part : String) : FieldType := ⟨within part field.values, field.test⟩

/-- The counter of a track port on the side of the switch is read where there is none of the track. -/
def trackIzUid : FieldType :=
  ⟨fun port => if port.contains "itUID" then [] else fieldValues "izUID" port, Json.isUnsigned⟩

/-! ## What the loader requires and the validators say -/

structure KnownUids where
  switchIzUids : List Nat := []
  signals : List Nat
  sections : List Nat
  nodes : List Nat
  switches : List Nat

/-- A field that the loader takes an unsigned number or a string from, and what the validators find at one of its
values. -/
structure LoaderField extends FieldType where
  issues : KnownUids → Json → Json → List ValidationIssue := fun _ _ _ => []

inductive ObjectKind
  | boundaryNode | trackSection | switch | blockSection | signal | derailer
deriving DecidableEq

namespace ObjectKind

def entries (topology objects : Json) : ObjectKind → List Json
  | boundaryNode => JsonLoader.entries topology "boundary_nodes"
  | trackSection => JsonLoader.entries topology "track_sections"
  | switch => JsonLoader.entries topology "switches"
  | blockSection => JsonLoader.entries topology "block_sections"
  | signal => JsonLoader.entries objects "signals"
  | derailer => JsonLoader.entries objects "derailers"

end ObjectKind

def uidIssues (context : String) (obj : Json) : List ValidationIssue :=
  if shownUid (uidField obj "uid") = 0 ∨ shownUid (uidField obj "uid") > Layer1.maxSafeJsonInt then
    [issue "L1-001" (context ++ ": required field 'uid' is missing, zero, or exceeds 2^53-1")]
  else []

def pidIssues (context : String) (obj : Json) : List ValidationIssue :=
  if JsonLayer1.stringField obj "pID" = "" then
    [issue "L1-001" (context ++ ": required field 'pID' is missing or empty")]
  else []

theorem checkRequiredFields_eq (obj : Json) (context : String) :
    JsonLayer1.checkRequiredFields obj context = uidIssues context obj ++ pidIssues context obj := rfl

def checkedUid (context : String) : LoaderField :=
  { unsignedField "uid" with issues := fun _ obj _ => uidIssues context obj }

def checkedPid (context : String) : LoaderField :=
  { stringField "pID" with issues := fun _ obj _ => pidIssues context obj }

def unchecked (field : FieldType) : LoaderField := { field with }

def shownNumber (obj : Json) : Nat := (JsonLayer2.uidNumber obj).toOption.getD 0

def neighborIssues (check : Nat → String → Nat → List ValidationIssue) (part : String) (obj value : Json) :
    List ValidationIssue :=
  match value with
  | .unsigned neighbor => check (shownNumber obj) part neighbor
  | _ => []

def izUidIssues (known : KnownUids) (side : String) (obj value : Json) : List ValidationIssue :=
  match value with
  | .unsigned iz =>
    if iz = 0 ∨ iz ∈ known.switchIzUids then []
    else
      [issue "L1-003"
        ("TrackSection uid=" ++ toString (shownUid (uidField obj "uid")) ++ " " ++ side ++ ".izUID=" ++ toString iz ++
          " does not match any switch leg Iz counter")]
  | _ => []

def signalUidIssues (known : KnownUids) (side : String) (obj value : Json) : List ValidationIssue :=
  match value with
  | .unsigned sigUid =>
    if sigUid = 0 ∨ sigUid ∈ known.signals then []
    else
      [issue "L1-004"
        ("TrackSection uid=" ++ toString (shownUid (uidField obj "uid")) ++ " " ++ side ++
          ".signalUIDs[] references unknown signal uid=" ++ toString sigUid)]
  | _ => []

/-- Both layers look at the section that a signal governs. -/
def governsIssues (known : KnownUids) (obj : Json) : List ValidationIssue :=
  (JsonLayer1.checkGovernsSection known.sections obj).toOption.getD [] ++
    (JsonLayer2.checkSignal known.sections obj).toOption.getD []

def aspectIssues (obj : Json) : List ValidationIssue := (JsonLayer1.checkInitialAspect obj).toOption.getD []

def sideFields (side : String) : List LoaderField :=
  [{ (unsignedField "neighborUID").of side with
      issues := fun known => neighborIssues (JsonLayer2.checkNeighbor known.switches known.nodes) side },
    unchecked ((unsignedField "itUID").of side),
    { trackIzUid.of side with issues := fun known => izUidIssues known side },
    { (uidList "signalUIDs").of side with issues := fun known => signalUidIssues known side }]

def legFields (leg : String) : List LoaderField :=
  [{ (unsignedField "neighborUID").of leg with
      issues := fun known => neighborIssues (JsonLayer2.checkLegNeighbor known.sections known.nodes) leg },
    unchecked ((unsignedField "izUID").of leg), unchecked ((uidList "signalUIDs").of leg)]

/-- The fields whose values of a wrong type the validators come across. -/
def noticed : ObjectKind → List LoaderField
  | .boundaryNode => [checkedUid "boundary_node", checkedPid "boundary_node"]
  | .trackSection => [checkedUid "track_section", checkedPid "track_section"]
  | .switch => [checkedUid "switch", checkedPid "switch"]
  | .signal =>
    [checkedUid "signal", checkedPid "signal",
      { unsignedField "governs_section" with issues := fun known obj _ => governsIssues known obj },
      { stringField "initial_aspect" with issues := fun _ obj _ => aspectIssues obj }]
  | .blockSection | .derailer => []

/-- The fields that the validators skip where the type is wrong, or never look at. -/
def passedOver : ObjectKind → List LoaderField
  | .boundaryNode => [stringField "description"].map unchecked
  | .trackSection => ["sideA", "sideB"].flatMap sideFields
  | .switch => [stringField "typeID"].map unchecked ++ ["trunk", "straight", "divergent"].flatMap legFields
  | .signal => [stringField "typeID", stringField "type"].map unchecked
  | .blockSection =>
    [unsignedField "uid", stringField "pID", stringField "type_id", unsignedField "neighborStationUID",
      unsignedField "departureSignalUID", unsignedField "entrySignalUID", uidList "szlakSectionUIDs",
      stringField "initialState", stringField "initialDirection"].map unchecked
  | .derailer =>
    [unsignedField "uid", stringField "pID", stringField "typeID", unsignedField "guards_section"].map unchecked

/-- What the validators collect from a scenario that the first layer gets through. -/
def knownUids (topology objects : Json) : KnownUids where
  switchIzUids := (JsonLayer1.collectSwitchIzUids topology).toOption.getD []
  signals := collectUids (JsonLayer1.uidsOf (entries objects "signals"))
  sections := collectUids (JsonLayer1.uidsOf (entries topology "track_sections"))
  nodes := collectUids (JsonLayer1.uidsOf (entries topology "boundary_nodes"))
  switches := collectUids (JsonLayer1.uidsOf (entries topology "switches"))

/-- A number under `governs_section` that is not unsigned is reported where it converts to the UID of no section. -/
def governedSection (topology : Json) : FieldType where
  values := fieldValues "governs_section"
  test value :=
    match value with
    | .unsigned _ => true
    | _ =>
      match value.getUint64 with
      | .error _ => false
      | .ok otUid => otUid ≠ 0 ∧ otUid ∉ collectUids (JsonLayer1.uidsOf (entries topology "track_sections"))

structure FieldsTyped (topology objects : Json) : Prop where
  skipped : ∀ kind : ObjectKind, ∀ obj ∈ kind.entries topology objects, ∀ field ∈ passedOver kind, field.Holds obj
  sectionUids : ∀ ot ∈ entries topology "track_sections", (numberField "uid").Holds ot
  switchUids : ∀ sw ∈ entries topology "switches", (numberField "uid").Holds sw
  signalUids : ∀ sig ∈ entries objects "signals", (numberField "uid").Holds sig
  governsSections : ∀ sig ∈ entries objects "signals", (governedSection topology).Holds sig
  initialAspects : ∀ sig ∈ entries objects "signals", (stringField "initial_aspect").Holds sig

/-! ## When the validators come to a result -/

section Total

variable {stationInstance : Int} {topology objects : Json} (hTopology : topology.isObject = true)
  (hObjects : objects.isObject = true)

include hTopology hObjects

end Total

/-! ## What is reported -/

theorem governs_of_checkSignal {sectionUids : List Nat} {sig : Json} {issues : List ValidationIssue}
    (h : JsonLayer1.checkSignal sectionUids sig = .ok issues) :
    (JsonLayer1.checkGovernsSection sectionUids sig).toOption.getD [] ⊆ issues := by
  obtain ⟨governs, hGoverns, h⟩ := bind_ok h
  obtain ⟨aspect, -, h⟩ := bind_ok h
  cases h
  rw [hGoverns]
  exact fun i hi => List.mem_append_left _ (List.mem_append_right _ hi)

structure FirstReports (topology objects : Json) (result : ValidationResult) : Prop where
  boundaryNodes : ∀ node ∈ entries topology "boundary_nodes",
    JsonLayer1.checkRequiredFields node "boundary_node" ⊆ result.issues
  trackSections : ∀ ot ∈ entries topology "track_sections",
    JsonLayer1.checkRequiredFields ot "track_section" ⊆ result.issues
  switches : ∀ sw ∈ entries topology "switches", JsonLayer1.checkRequiredFields sw "switch" ⊆ result.issues
  signals : ∀ sig ∈ entries objects "signals", JsonLayer1.checkRequiredFields sig "signal" ⊆ result.issues
  governs : ∀ sig ∈ entries objects "signals",
    (JsonLayer1.checkGovernsSection (knownUids topology objects).sections sig).toOption.getD [] ⊆ result.issues

theorem firstReports_of_ok {topology objects : Json} {result : ValidationResult}
    (h : JsonLayer1.validate topology objects = .ok result) : FirstReports topology objects result := by
  obtain ⟨nodes, hNodes, h⟩ := bind_ok h
  obtain ⟨switchIzUids, -, h⟩ := bind_ok h
  obtain ⟨sigUids, -, h⟩ := bind_ok h
  obtain ⟨sections, hSections, h⟩ := bind_ok h
  obtain ⟨switches, hSwitches, h⟩ := bind_ok h
  obtain ⟨sectionUids, hUids, h⟩ := bind_ok h
  obtain ⟨signals, hSignals, h⟩ := bind_ok h
  obtain ⟨signalIssues, hIssues, h⟩ := bind_ok h
  cases h
  obtain ⟨-, rfl⟩ := arrayOf_ok_iff.mp hNodes
  obtain ⟨-, rfl⟩ := arrayOf_ok_iff.mp hSections
  obtain ⟨-, rfl⟩ := arrayOf_ok_iff.mp hSwitches
  obtain ⟨-, rfl⟩ := arrayOf_ok_iff.mp hSignals
  obtain ⟨known, hKnown, hUids⟩ := bind_ok hUids
  obtain ⟨-, rfl⟩ := arrayOf_ok_iff.mp hKnown
  cases hUids
  refine ⟨fun node hNode i hi => ?_, fun ot hOt i hi => ?_, fun sw hSw i hi => ?_, fun sig hSig i hi => ?_,
    fun sig hSig i hi => ?_⟩
  · simp only [List.mem_append, List.mem_flatMap]
    exact .inl (.inl (.inl (.inl ⟨node, hNode, hi⟩)))
  · simp only [List.mem_append, List.mem_flatMap]
    exact .inl (.inl (.inl (.inr ⟨ot, hOt, List.mem_append_left _ hi⟩)))
  · simp only [List.mem_append, List.mem_flatMap]
    exact .inl (.inl (.inr ⟨sw, hSw, hi⟩))
  · obtain ⟨issues, hMem, hCheck⟩ := mapM_ok hIssues sig hSig
    simp only [List.mem_append, List.mem_flatten]
    exact .inl (.inr ⟨issues, hMem, required_of_checkSignal hCheck hi⟩)
  · obtain ⟨issues, hMem, hCheck⟩ := mapM_ok hIssues sig hSig
    simp only [List.mem_append, List.mem_flatten]
    exact .inl (.inr ⟨issues, hMem, governs_of_checkSignal hCheck hi⟩)

section Wrong

variable {obj value : Json} {key : String} (hMember : obj.member key = some value)

include hMember

theorem uidField_of_wrong (hWrong : value.isUnsigned = false) : uidField obj key = .invalid := by
  unfold uidField
  rw [hMember]
  cases value with
  | unsigned n => cases hWrong
  | _ => rfl

theorem stringField_of_wrong (hWrong : value.isString = false) : JsonLayer1.stringField obj key = "" := by
  unfold JsonLayer1.stringField
  rw [hMember]
  cases value with
  | string s => cases hWrong
  | _ => rfl

end Wrong

theorem mem_fieldValues {key : String} {obj value : Json} : value ∈ fieldValues key obj ↔ obj.member key = some value :=
  Option.mem_toList

theorem required_reported {context : String} {obj value : Json} {result : ValidationResult} {field : LoaderField}
    (hField : field ∈ [checkedUid context, checkedPid context]) (known : KnownUids)
    (hResult : JsonLayer1.checkRequiredFields obj context ⊆ result.issues) (hValue : value ∈ field.values obj)
    (hWrong : field.test value = false) :
    ∃ i ∈ field.issues known obj value, i.severity = .error ∧ i ∈ result.issues := by
  rw [checkRequiredFields_eq] at hResult
  simp only [List.mem_cons, List.not_mem_nil, or_false] at hField
  obtain rfl | rfl := hField
  · have hUid : uidField obj "uid" = .invalid := uidField_of_wrong (mem_fieldValues.mp hValue) hWrong
    have hMem : issue "L1-001" (context ++ ": required field 'uid' is missing, zero, or exceeds 2^53-1") ∈
        uidIssues context obj := by
      rw [uidIssues, if_pos (.inl (congrArg shownUid hUid))]
      exact List.mem_singleton_self _
    exact ⟨_, hMem, rfl, hResult (List.mem_append_left _ hMem)⟩
  · have hPid : JsonLayer1.stringField obj "pID" = "" := stringField_of_wrong (mem_fieldValues.mp hValue) hWrong
    have hMem : issue "L1-001" (context ++ ": required field 'pID' is missing or empty") ∈ pidIssues context obj := by
      rw [pidIssues, if_pos hPid]
      exact List.mem_singleton_self _
    exact ⟨_, hMem, rfl, hResult (List.mem_append_right _ hMem)⟩

theorem governedSection_of_wrong {topology value : Json} (hWrong : value.isUnsigned = false) :
    (governedSection topology).test value = true ↔ ∃ otUid, value.getUint64 = .ok otUid ∧ otUid ≠ 0 ∧
      otUid ∉ collectUids (JsonLayer1.uidsOf (entries topology "track_sections")) := by
  unfold governedSection
  cases value with
  | unsigned n => cases hWrong
  | _ => simp [Json.getUint64, Json.typeError]

theorem governsIssues_eq_of_wrong {sig value : Json} (hMember : sig.member "governs_section" = some value)
    (hWrong : value.isUnsigned = false) (known : KnownUids) :
    governsIssues known sig = (JsonLayer1.checkGovernsSection known.sections sig).toOption.getD [] := by
  have hSecond : (JsonLayer2.checkSignal known.sections sig).toOption.getD [] = [] := by
    unfold JsonLayer2.checkSignal
    rw [uidField_of_wrong hMember hWrong]
    cases JsonLayer2.uidNumber sig <;> rfl
  rw [governsIssues, hSecond, List.append_nil]

/-- Where the number converts to the UID of no section, and only there, a layer finds the reference wrong. -/
theorem governsIssues_of_wrong {topology objects sig value : Json} (hMember : sig.member "governs_section" = some value)
    (hWrong : value.isUnsigned = false) :
    (∃ i ∈ governsIssues (knownUids topology objects) sig, i.severity = .error) ↔
      (governedSection topology).test value = true := by
  rw [governsIssues_eq_of_wrong hMember hWrong, governedSection_of_wrong hWrong, JsonLayer1.checkGovernsSection,
    hMember]
  cases hGet : value.getUint64 with
  | error e => simp [hGet, bind, Except.bind, Except.toOption]
  | ok otUid =>
    have hKnown : (knownUids topology objects).sections =
        collectUids (JsonLayer1.uidsOf (entries topology "track_sections")) := rfl
    simp only [hGet, hKnown, bind, Except.bind, pure, Except.pure, Except.toOption, Option.getD_some, Except.ok.injEq,
      exists_eq_left', ← not_or]
    split_ifs with hFine
    · simp [hFine]
    · simp [hFine, issue]

section Reports

variable {stationInstance : Int} {topology objects : Json} {first second : ValidationResult}

/-- What is noticed ends up in the result of the first layer. -/
theorem FieldsTyped.reported (h : FieldsTyped topology objects)
    (hFirst : JsonLayer1.validate topology objects = .ok first) {kind : ObjectKind} {obj value : Json}
    (hObj : obj ∈ kind.entries topology objects) {field : LoaderField} (hField : field ∈ noticed kind)
    (hValue : value ∈ field.values obj) (hWrong : field.test value = false) :
    ∃ i ∈ field.issues (knownUids topology objects) obj value, i.severity = .error ∧ i ∈ first.issues := by
  have hReports := firstReports_of_ok hFirst
  cases kind with
  | boundaryNode => exact required_reported hField _ (hReports.boundaryNodes obj hObj) hValue hWrong
  | trackSection => exact required_reported hField _ (hReports.trackSections obj hObj) hValue hWrong
  | switch => exact required_reported hField _ (hReports.switches obj hObj) hValue hWrong
  | blockSection => cases hField
  | derailer => cases hField
  | signal =>
    rcases List.mem_append.mp (show field ∈ [checkedUid "signal", checkedPid "signal"] ++ [_, _] from hField) with
      hField | hField
    · exact required_reported hField _ (hReports.signals obj hObj) hValue hWrong
    · simp only [List.mem_cons, List.not_mem_nil, or_false] at hField
      obtain rfl | rfl := hField
      · have hMember := mem_fieldValues.mp hValue
        obtain ⟨i, hi, hError⟩ := (governsIssues_of_wrong hMember hWrong).mpr (h.governsSections obj hObj value hValue)
        refine ⟨i, hi, hError, hReports.governs obj hObj ?_⟩
        rwa [governsIssues_eq_of_wrong hMember hWrong] at hi
      · rw [h.initialAspects obj hObj value hValue] at hWrong
        cases hWrong

end Reports

end Symulator.Validation
