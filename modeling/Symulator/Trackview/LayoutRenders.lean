import Symulator.Library.Runs
import Symulator.Trackview.PathAttachment

/-! # Rendering validated layouts

The validator lists what is wrong with a layout, the builder makes the model that is drawn. A layout that validates
still fails to build where a signal stands on a path that the resolver finds no segment of.
-/

namespace Symulator.Trackview

open Symulator.Library

set_option autoImplicit false

universe u

/-! ## The validator -/

inductive DiagnosticSeverity
  | error | warning
deriving DecidableEq

structure LayoutDiagnostic where
  severity : DiagnosticSeverity := .error
  ruleId : String
  infrastructureId : Option InfrastructureId
  message : String
deriving DecidableEq

namespace LayoutValidator

variable {α : Type u} [Zero α] [One α] [LT α] [DecidableLT α] [Floating α]

def isFinite (point : Point α) : Bool := Floating.isFinite point.x && Floating.isFinite point.y

/-- A diagnostic, if there is reason for it. -/
def report (found : Bool) (rule : String) (id : Option InfrastructureId) (message : String) : List LayoutDiagnostic :=
  if found then [{ ruleId := rule, infrastructureId := id, message }] else []

/-- The identifiers whose geometry came before. -/
structure Seen where
  topology : List InfrastructureId := []
  objects : List InfrastructureId := []

def Seen.after (seen : Seen) : TrackLayoutElement α → Seen
  | .track item => { seen with topology := item.topologyId :: seen.topology }
  | .switch item => { seen with topology := item.topologyId :: seen.topology }
  | .signal item => { seen with objects := item.objectId :: seen.objects }

def checkLayout (layout : TrackLayout α) : List LayoutDiagnostic :=
  report (layout.schemaVersion ≠ 1) "LAY-001" none "Unsupported layout schema version" ++
    report (layout.layoutId = "" ∨ layout.stationSid = "") "LAY-002" none
      "Layout and station identifiers must not be empty" ++
    report (¬ 0 < layout.canvas.width ∨ ¬ 0 < layout.canvas.height ∨ Floating.isFinite layout.canvas.width = false ∨
      Floating.isFinite layout.canvas.height = false) "LAY-003" none "Canvas dimensions must be finite and positive"

variable (catalog : InfrastructureCatalog) (trackGeometries : List InfrastructureId)

def checkTrack (seen : Seen) (item : TrackSectionGeometry α) : List LayoutDiagnostic :=
  report (catalog.containsTrack item.topologyId = false) "LAY-101" item.topologyId "Unknown track section identifier" ++
    report (item.path.length < 2) "LAY-102" item.topologyId "Track path requires at least two points" ++
    item.path.flatMap (fun point =>
      report (isFinite point = false) "LAY-103" item.topologyId "Track path contains a non-finite coordinate") ++
    report (item.topologyId ∈ seen.topology) "LAY-104" item.topologyId "Duplicate topology geometry"

def checkSwitch (seen : Seen) (item : SwitchGeometry α) : List LayoutDiagnostic :=
  report (catalog.containsSwitch item.topologyId = false) "LAY-201" item.topologyId "Unknown switch identifier" ++
    report (isFinite item.ports.trunk = false ∨ isFinite item.ports.straight = false ∨
      isFinite item.ports.divergent = false) "LAY-202" item.topologyId "Switch contains a non-finite port coordinate" ++
    report (item.topologyId ∈ seen.topology) "LAY-104" item.topologyId "Duplicate topology geometry"

/-- Whether the signal governs the track is asked only where the catalogue has both. -/
def checkGoverns (item : SignalGeometry α) : List LayoutDiagnostic :=
  if catalog.containsTrack item.attachment.trackId = false then
    report true "LAY-302" item.attachment.trackId "Signal is attached to an unknown track section"
  else
    report (catalog.containsSignal item.objectId = true ∧
      catalog.signalGovernsTrack item.objectId item.attachment.trackId = false) "LAY-303" item.objectId
      "Signal is attached to a track it does not govern"

def checkSignal (seen : Seen) (item : SignalGeometry α) : List LayoutDiagnostic :=
  report (catalog.containsSignal item.objectId = false) "LAY-301" item.objectId "Unknown signal identifier" ++
    checkGoverns catalog item ++
    report (Floating.isFinite item.attachment.offset = false ∨ item.attachment.offset < 0 ∨ 1 < item.attachment.offset)
      "LAY-304" item.objectId "Signal attachment offset must be in range 0..1" ++
    report (Floating.isFinite item.attachment.lateral = false) "LAY-305" item.objectId
      "Signal lateral offset must be finite" ++
    report (item.objectId ∈ seen.objects) "LAY-306" item.objectId "Duplicate signal geometry" ++
    report (item.attachment.trackId ∉ trackGeometries) "LAY-307" item.objectId
      "Signal attachment requires track geometry in this layout"

def checkElement (seen : Seen) : TrackLayoutElement α → List LayoutDiagnostic
  | .track item => checkTrack catalog seen item
  | .switch item => checkSwitch catalog seen item
  | .signal item => checkSignal catalog trackGeometries seen item

def checkElements : Seen → List (TrackLayoutElement α) → List LayoutDiagnostic
  | _, [] => []
  | seen, element :: elements =>
    checkElement catalog trackGeometries seen element ++ checkElements (seen.after element) elements

def checkLabel (label : LabelGeometry α) : List LayoutDiagnostic :=
  report (label.text = "" ∨ isFinite label.anchor = false) "LAY-401" none
    "Labels require non-empty text and finite coordinates"

def validate (layout : TrackLayout α) : List LayoutDiagnostic :=
  checkLayout layout ++
    checkElements catalog (layout.tracks.map TrackSectionGeometry.topologyId) {} layout.elements ++
    layout.labels.flatMap checkLabel

theorem report_eq_nil {found : Bool} {rule message : String} {id : Option InfrastructureId} :
    report found rule id message = [] ↔ found = false := by
  cases found <;> simp [report]

variable {catalog trackGeometries}

theorem checkElement_of_mem {seen : Seen} {elements : List (TrackLayoutElement α)}
    (h : checkElements catalog trackGeometries seen elements = []) {element : TrackLayoutElement α}
    (hMem : element ∈ elements) : ∃ seen, checkElement catalog trackGeometries seen element = [] := by
  induction elements generalizing seen with
  | nil => cases hMem
  | cons first elements ih =>
    obtain ⟨hFirst, hRest⟩ := List.append_eq_nil_iff.mp h
    rcases List.mem_cons.mp hMem with rfl | hMem
    · exact ⟨seen, hFirst⟩
    · exact ih hRest hMem

end LayoutValidator

/-! ## The builder -/

/-- What an element adds to the model. -/
inductive RenderItem (α : Type u)
  | track (item : RenderTrack α)
  | switch (item : RenderSwitch α)
  | signal (item : RenderSignal α)

def RenderModel.push {α : Type u} (model : RenderModel α) : RenderItem α → RenderModel α
  | .track item => { model with tracks := model.tracks ++ [item] }
  | .switch item => { model with switches := model.switches ++ [item] }
  | .signal item => { model with signalItems := model.signalItems ++ [item] }

namespace RenderModelBuilder

variable {α : Type u}

/-- The path of a track is that of its first geometry. -/
def trackPaths (layout : TrackLayout α) : KeyedMap InfrastructureId (TrackSectionGeometry α) :=
  layout.tracks.foldl KeyedMap.emplace .empty

theorem find_trackPaths (layout : TrackLayout α) (id : InfrastructureId) :
    (trackPaths layout).find id = layout.tracks.find? fun geometry => decide (geometry.topologyId = id) := by
  rw [trackPaths, KeyedMap.find_foldl_emplace, KeyedMap.find_empty, Option.none_or]
  rfl

def missingState (what : String) (id : InfrastructureId) : Thrown :=
  .runtimeError ("render_model_builder: missing " ++ what ++ " state " ++ toString id.value)

section Build

variable (resolve : Path α → TrackAttachment α → Except Thrown (Point α)) (state : TrackviewState)

def renderElement (paths : KeyedMap InfrastructureId (TrackSectionGeometry α)) :
    TrackLayoutElement α → Except Thrown (RenderItem α)
  | .track item =>
    match state.trackState item.topologyId with
    | none => .error (missingState "track" item.topologyId)
    | some runtime => .ok (.track ⟨item.topologyId, item.path, runtime⟩)
  | .switch item =>
    match state.switchState item.topologyId with
    | none => .error (missingState "switch" item.topologyId)
    | some runtime => .ok (.switch ⟨item.topologyId, item.ports, runtime⟩)
  | .signal item =>
    match state.signalState item.objectId with
    | none => .error (missingState "signal" item.objectId)
    | some runtime =>
      match paths.find item.attachment.trackId with
      | none => .error (.runtimeError "render_model_builder: signal track geometry is missing")
      | some track => do
        let position ← resolve track.path item.attachment
        return .signal ⟨item.objectId, position, item.facing, runtime⟩

def build (layout : TrackLayout α) : Except Thrown (RenderModel α) :=
  layout.elements.foldlM
    (fun model element =>
      renderElement resolve state (trackPaths layout) element >>= fun item => pure (model.push item))
    { canvas := layout.canvas, labels := layout.labels }

end Build

/-- The model has one item for each element of its kind, in their order, on the canvas and with the labels of the
layout. -/
structure Renders (layout : TrackLayout α) (model : RenderModel α) : Prop where
  canvas : model.canvas = layout.canvas
  labels : model.labels = layout.labels
  tracks : model.tracks.map (fun item => (item.id, item.path)) =
    layout.tracks.map fun geometry => (geometry.topologyId, geometry.path)
  switches : model.switches.map (fun item => (item.id, item.ports)) =
    layout.switches.map fun geometry => (geometry.topologyId, geometry.ports)
  signals : model.signalItems.map (fun item => (item.id, item.facing)) =
    layout.signals.map fun geometry => (geometry.objectId, geometry.facing)

variable {resolve : Path α → TrackAttachment α → Except Thrown (Point α)} {state : TrackviewState}

/-- An item is made of an element of its kind, and shows it. -/
theorem renderElement_cases {paths : KeyedMap InfrastructureId (TrackSectionGeometry α)}
    {element : TrackLayoutElement α} {item : RenderItem α} (h : renderElement resolve state paths element = .ok item) :
    (∃ geometry runtime, element = .track geometry ∧ item = .track ⟨geometry.topologyId, geometry.path, runtime⟩) ∨
    (∃ geometry runtime, element = .switch geometry ∧ item = .switch ⟨geometry.topologyId, geometry.ports, runtime⟩) ∨
    ∃ geometry runtime track position, element = .signal geometry ∧
      paths.find geometry.attachment.trackId = some track ∧ resolve track.path geometry.attachment = .ok position ∧
      item = .signal ⟨geometry.objectId, position, geometry.facing, runtime⟩ := by
  cases element with
  | track geometry =>
    simp only [renderElement] at h
    split at h
    · cases h
    · cases h
      exact Or.inl ⟨geometry, _, rfl, rfl⟩
  | switch geometry =>
    simp only [renderElement] at h
    split at h
    · cases h
    · cases h
      exact Or.inr (Or.inl ⟨geometry, _, rfl, rfl⟩)
  | signal geometry =>
    simp only [renderElement] at h
    split at h
    · cases h
    · split at h
      · cases h
      · rename_i track hPath
        obtain ⟨position, hPosition, h⟩ := bind_ok h
        cases h
        exact Or.inr (Or.inr ⟨geometry, _, track, position, rfl, hPath, hPosition, rfl⟩)

theorem foldl_push {elements : List (TrackLayoutElement α)} {items : List (RenderItem α)}
    {paths : KeyedMap InfrastructureId (TrackSectionGeometry α)}
    (h : elements.mapM (renderElement resolve state paths) = .ok items) (model : RenderModel α) :
    (items.foldl RenderModel.push model).canvas = model.canvas ∧
    (items.foldl RenderModel.push model).labels = model.labels ∧
    (items.foldl RenderModel.push model).tracks.map (fun item => (item.id, item.path)) =
      model.tracks.map (fun item => (item.id, item.path)) ++
        (elements.filterMap (·.track?)).map (fun geometry => (geometry.topologyId, geometry.path)) ∧
    (items.foldl RenderModel.push model).switches.map (fun item => (item.id, item.ports)) =
      model.switches.map (fun item => (item.id, item.ports)) ++
        (elements.filterMap (·.switch?)).map (fun geometry => (geometry.topologyId, geometry.ports)) ∧
    (items.foldl RenderModel.push model).signalItems.map (fun item => (item.id, item.facing)) =
      model.signalItems.map (fun item => (item.id, item.facing)) ++
        (elements.filterMap (·.signal?)).map (fun geometry => (geometry.objectId, geometry.facing)) := by
  induction elements generalizing items model with
  | nil =>
    cases h
    simp
  | cons element elements ih =>
    rw [List.mapM_cons] at h
    obtain ⟨item, hItem, h⟩ := bind_ok h
    obtain ⟨rest, hRest, h⟩ := bind_ok h
    cases h
    obtain ⟨hCanvas, hLabels, hTracks, hSwitches, hSignals⟩ := ih hRest (model.push item)
    rw [List.foldl_cons, hCanvas, hLabels, hTracks, hSwitches, hSignals]
    obtain ⟨geometry, runtime, rfl, rfl⟩ | ⟨geometry, runtime, rfl, rfl⟩ |
      ⟨geometry, runtime, track, position, rfl, -, -, rfl⟩ := renderElement_cases hItem
    · simp [RenderModel.push, TrackLayoutElement.track?, TrackLayoutElement.switch?, TrackLayoutElement.signal?]
    · simp [RenderModel.push, TrackLayoutElement.track?, TrackLayoutElement.switch?, TrackLayoutElement.signal?]
    · simp [RenderModel.push, TrackLayoutElement.track?, TrackLayoutElement.switch?, TrackLayoutElement.signal?]

/-- A model is built, and shows the layout, if and only if every element can be rendered. -/
theorem build_isOk_iff (layout : TrackLayout α) :
    (∃ model, build resolve state layout = .ok model ∧ Renders layout model) ↔
      ∀ element ∈ layout.elements, ∃ item, renderElement resolve state (trackPaths layout) element = .ok item := by
  rw [← exists_mapM_iff, build, foldlM_make]
  constructor
  · rintro ⟨model, h, -⟩
    obtain ⟨items, hItems, -⟩ := bind_ok h
    exact ⟨items, hItems⟩
  · rintro ⟨items, hItems⟩
    obtain ⟨hCanvas, hLabels, hTracks, hSwitches, hSignals⟩ :=
      foldl_push hItems { canvas := layout.canvas, labels := layout.labels }
    exact ⟨_, by rw [hItems]; rfl, hCanvas, hLabels, hTracks, hSwitches, hSignals⟩

end RenderModelBuilder

/-! ## Validated layouts -/

open RenderModelBuilder

section Validated

variable {α : Type u} [Zero α] [One α] [LT α] [DecidableLT α] [Floating α]
  {catalog : InfrastructureCatalog} {layout : TrackLayout α} (hValid : LayoutValidator.validate catalog layout = [])

include hValid

theorem checkElement_of_validate {element : TrackLayoutElement α} (hMem : element ∈ layout.elements) :
    ∃ seen, LayoutValidator.checkElement catalog (layout.tracks.map TrackSectionGeometry.topologyId) seen
      element = [] := by
  obtain ⟨hElements, -⟩ := List.append_eq_nil_iff.mp hValid
  exact LayoutValidator.checkElement_of_mem (List.append_eq_nil_iff.mp hElements).2 hMem

theorem track_of_validate {geometry : TrackSectionGeometry α} (hMem : .track geometry ∈ layout.elements) :
    catalog.containsTrack geometry.topologyId = true ∧ ¬ geometry.path.length < 2 := by
  obtain ⟨seen, h⟩ := checkElement_of_validate hValid hMem
  simp only [LayoutValidator.checkElement, LayoutValidator.checkTrack, List.append_eq_nil_iff,
    LayoutValidator.report_eq_nil, decide_eq_false_iff_not, Bool.not_eq_false] at h
  exact ⟨h.1.1.1, h.1.1.2⟩

theorem switch_of_validate {geometry : SwitchGeometry α} (hMem : .switch geometry ∈ layout.elements) :
    catalog.containsSwitch geometry.topologyId = true := by
  obtain ⟨seen, h⟩ := checkElement_of_validate hValid hMem
  simp only [LayoutValidator.checkElement, LayoutValidator.checkSwitch, List.append_eq_nil_iff,
    LayoutValidator.report_eq_nil, decide_eq_false_iff_not, Bool.not_eq_false] at h
  exact h.1.1

/-- What the validator has made sure of for a signal: it is known, its values are valid, and its track is drawn. -/
theorem signal_of_validate {geometry : SignalGeometry α} (hMem : .signal geometry ∈ layout.elements) :
    catalog.containsSignal geometry.objectId = true ∧
      ¬ (Floating.isFinite geometry.attachment.offset = false ∨ geometry.attachment.offset < 0 ∨
        1 < geometry.attachment.offset ∨ Floating.isFinite geometry.attachment.lateral = false) ∧
      ∃ track, (trackPaths layout).find geometry.attachment.trackId = some track ∧ ¬ track.path.length < 2 := by
  obtain ⟨seen, h⟩ := checkElement_of_validate hValid hMem
  simp only [LayoutValidator.checkElement, LayoutValidator.checkSignal, List.append_eq_nil_iff,
    LayoutValidator.report_eq_nil, decide_eq_false_iff_not, Bool.not_eq_false, not_not] at h
  obtain ⟨⟨⟨⟨⟨hKnown, -⟩, hOffset⟩, hLateral⟩, -⟩, hDrawn⟩ := h
  refine ⟨hKnown, ?_, ?_⟩
  · rintro (hInfinite | hLow | hHigh | hInfinite)
    · exact hOffset (Or.inl hInfinite)
    · exact hOffset (Or.inr (Or.inl hLow))
    · exact hOffset (Or.inr (Or.inr hHigh))
    · rw [hLateral] at hInfinite
      cases hInfinite
  · obtain ⟨drawn, hDrawn, hId⟩ := List.mem_map.mp hDrawn
    have hSome : (layout.tracks.find? fun g => decide (g.topologyId = geometry.attachment.trackId)).isSome = true :=
      List.find?_isSome.mpr ⟨drawn, hDrawn, decide_eq_true hId⟩
    obtain ⟨track, hFind⟩ := Option.isSome_iff_exists.mp hSome
    obtain ⟨element, hElement, hTrack⟩ := List.mem_filterMap.mp (List.mem_of_find?_eq_some hFind)
    refine ⟨track, (find_trackPaths layout _).trans hFind, ?_⟩
    cases element with
    | track other =>
      cases hTrack
      exact (track_of_validate hValid hElement).2
    | switch other => cases hTrack
    | signal other => cases hTrack

end Validated

section Renders

variable {α : Type u} [Zero α] [One α] [Add α] [Sub α] [Mul α] [Div α] [LE α] [LT α] [DecidableLE α] [DecidableLT α]
  [Floating α]

/-- The path that each signal stands on takes its attachment. -/
def SignalsAttachable (layout : TrackLayout α) : Prop :=
  ∀ signal ∈ layout.signals, ∀ track ∈ (trackPaths layout).find signal.attachment.trackId,
    PathAttachmentResolver.Attachable track.path signal.attachment

/-- A validated layout is rendered in full if and only if all its signals can be attached. -/
theorem validated_renders_iff (catalog : InfrastructureCatalog) (layout : TrackLayout α) (state : TrackviewState)
    (hState : state.Covers catalog) (hValid : LayoutValidator.validate catalog layout = []) :
    (∃ model, build PathAttachmentResolver.resolve state layout = .ok model ∧ Renders layout model) ↔
      SignalsAttachable layout := by
  rw [build_isOk_iff]
  constructor
  · intro h signal hSignal track hTrack
    obtain ⟨element, hElement, hKind⟩ := List.mem_filterMap.mp hSignal
    obtain ⟨item, hItem⟩ := h element hElement
    obtain ⟨geometry, runtime, rfl, -⟩ | ⟨geometry, runtime, rfl, -⟩ |
      ⟨geometry, runtime, track', position, rfl, hPath, hPosition, -⟩ := renderElement_cases hItem
    · cases hKind
    · cases hKind
    · cases hKind
      obtain ⟨-, hValues, track'', hFind, hPoints⟩ := signal_of_validate hValid hElement
      rw [hPath] at hTrack hFind
      cases hTrack
      cases hFind
      exact (PathAttachmentResolver.resolve_isOk_iff hPoints hValues).mp ⟨position, hPosition⟩
  · intro h element hElement
    cases element with
    | track geometry =>
      have hSome := hState.tracks _ (track_of_validate hValid hElement).1
      obtain ⟨runtime, hRuntime⟩ := Option.isSome_iff_exists.mp hSome
      exact ⟨.track ⟨geometry.topologyId, geometry.path, runtime⟩, by simp only [renderElement, hRuntime]⟩
    | switch geometry =>
      have hSome := hState.switches _ (switch_of_validate hValid hElement)
      obtain ⟨runtime, hRuntime⟩ := Option.isSome_iff_exists.mp hSome
      exact ⟨.switch ⟨geometry.topologyId, geometry.ports, runtime⟩, by simp only [renderElement, hRuntime]⟩
    | signal geometry =>
      obtain ⟨hKnown, hValues, track, hFind, hPoints⟩ := signal_of_validate hValid hElement
      obtain ⟨runtime, hRuntime⟩ := Option.isSome_iff_exists.mp (hState.signals _ hKnown)
      have hSignal : geometry ∈ layout.signals := List.mem_filterMap.mpr ⟨_, hElement, rfl⟩
      obtain ⟨position, hPosition⟩ :=
        (PathAttachmentResolver.resolve_isOk_iff hPoints hValues).mpr (h geometry hSignal track hFind)
      refine ⟨.signal ⟨geometry.objectId, position, geometry.facing, runtime⟩, ?_⟩
      simp only [renderElement, hRuntime, hFind, hPosition]
      rfl

end Renders

/-- Over exact arithmetic that is so if and only if no signal stands on a track of length zero. -/
theorem signalsAttachable_iff {catalog : InfrastructureCatalog} {layout : TrackLayout ℝ}
    (hValid : LayoutValidator.validate catalog layout = []) :
    SignalsAttachable layout ↔ ∀ signal ∈ layout.signals, ∀ track ∈ (trackPaths layout).find signal.attachment.trackId,
      0 < PathAttachmentResolver.totalLength track.path := by
  refine forall₂_congr fun signal hSignal => forall₂_congr fun track hTrack => ?_
  obtain ⟨element, hElement, hKind⟩ := List.mem_filterMap.mp hSignal
  cases element with
  | track geometry => cases hKind
  | switch geometry => cases hKind
  | signal geometry =>
    cases hKind
    obtain ⟨-, hValues, drawn, hFind, hPoints⟩ := signal_of_validate hValid hElement
    rw [hFind] at hTrack
    cases hTrack
    have hLow : 0 ≤ signal.attachment.offset := not_lt.mp fun h => hValues (Or.inr (Or.inl h))
    have hHigh : signal.attachment.offset ≤ 1 := not_lt.mp fun h => hValues (Or.inr (Or.inr (Or.inl h)))
    exact PathAttachmentResolver.attachable_iff (not_lt.mp hPoints) ⟨hLow, hHigh⟩

/-! ## A signal on a track -/

/-- A track with a signal at its first point. -/
noncomputable def signalOn (path : Path ℝ) : TrackLayout ℝ where
  layoutId := "layout"
  stationSid := "station"
  canvas := ⟨1, 1⟩
  elements :=
    [.track ⟨⟨1⟩, path⟩, .signal { objectId := ⟨2⟩, attachment := { trackId := ⟨1⟩, offset := 0, lateral := 0 } }]
  labels := []

def everything : InfrastructureCatalog where
  containsTrack _ := true
  containsSwitch _ := true
  containsSignal _ := true
  signalGovernsTrack _ _ := true

def allFree : TrackviewState where
  trackState _ := some {}
  switchState _ := some {}
  signalState _ := some {}

theorem covers_everything : allFree.Covers everything := ⟨fun _ _ => rfl, fun _ _ => rfl, fun _ _ => rfl⟩

theorem validate_signalOn {path : Path ℝ} (h : ¬ path.length < 2) :
    LayoutValidator.validate everything (signalOn path) = [] := by
  have hFinite : ∀ x : ℝ, Floating.isFinite x = true := fun _ => rfl
  have hOffset : ¬ 1 < (0 : ℝ) := by norm_num
  simp [LayoutValidator.validate, LayoutValidator.checkLayout, LayoutValidator.checkElements,
    LayoutValidator.checkElement, LayoutValidator.checkTrack, LayoutValidator.checkSignal,
    LayoutValidator.checkGoverns, LayoutValidator.report, LayoutValidator.isFinite,
      LayoutValidator.Seen.after, signalOn,
    everything, TrackLayout.tracks, TrackLayoutElement.track?, hFinite, hOffset, h]

/-- Two points make a track that can be drawn. -/
theorem validated_renders_iff_drawn :
    (∃ model, build PathAttachmentResolver.resolve allFree (signalOn [⟨0, 0⟩, ⟨1, 0⟩]) = .ok model ∧
      Renders (signalOn [⟨0, 0⟩, ⟨1, 0⟩]) model) ↔ SignalsAttachable (signalOn [⟨0, 0⟩, ⟨1, 0⟩]) :=
  validated_renders_iff everything (signalOn [⟨0, 0⟩, ⟨1, 0⟩]) allFree covers_everything
    (validate_signalOn (by simp))

/-- Where they are the same point the layout validates and is not rendered. -/
theorem pointTrack_rejected :
    allFree.Covers everything ∧ LayoutValidator.validate everything (signalOn [⟨0, 0⟩, ⟨0, 0⟩]) = [] ∧
      build PathAttachmentResolver.resolve allFree (signalOn [⟨0, 0⟩, ⟨0, 0⟩]) =
        .error (.invalidArgument "attachment_resolver: path has zero length") := by
  refine ⟨covers_everything, validate_signalOn (by simp), ?_⟩
  have hPaths : (trackPaths (signalOn [⟨0, 0⟩, ⟨0, 0⟩])).find ⟨1⟩ = some ⟨⟨1⟩, [⟨0, 0⟩, ⟨0, 0⟩]⟩ := by
    rw [find_trackPaths]
    rfl
  have hLength : PathAttachmentResolver.totalLength ([⟨0, 0⟩, ⟨0, 0⟩] : Path ℝ) ≤ 0 := by
    simp [PathAttachmentResolver.totalLength, PathAttachmentResolver.segmentLengths, Floating.hypot]
  have hResolve : PathAttachmentResolver.resolve ([⟨0, 0⟩, ⟨0, 0⟩] : Path ℝ) ⟨⟨1⟩, .a, 0, 0⟩ =
      .error (.invalidArgument "attachment_resolver: path has zero length") := by
    have hOffset : ¬ (Floating.isFinite (0 : ℝ) = false ∨ (0 : ℝ) < 0 ∨ 1 < (0 : ℝ) ∨
        Floating.isFinite (0 : ℝ) = false) := by
      norm_num [Floating.isFinite]
    rw [PathAttachmentResolver.resolve, if_neg (by simp), if_neg hOffset, if_pos hLength]
  have hSignal : renderElement PathAttachmentResolver.resolve allFree (trackPaths (signalOn [⟨0, 0⟩, ⟨0, 0⟩]))
      (.signal ⟨⟨2⟩, ⟨⟨1⟩, .a, 0, 0⟩, .towardsB⟩) =
        .error (.invalidArgument "attachment_resolver: path has zero length") := by
    simp only [renderElement, allFree, hPaths, hResolve]
    rfl
  have hElements : (signalOn [⟨0, 0⟩, ⟨0, 0⟩]).elements =
      [.track ⟨⟨1⟩, [⟨0, 0⟩, ⟨0, 0⟩]⟩, .signal ⟨⟨2⟩, ⟨⟨1⟩, .a, 0, 0⟩, .towardsB⟩] := rfl
  rw [build, hElements]
  simp only [List.foldlM_cons, hSignal]
  rfl

end Symulator.Trackview
