import Symulator.Server.ServerTicks
import Symulator.Trackview.LayoutRenders

/-! # Live schematics

The schematic is checked and drawn through adapters of the state, or of a published snapshot. What the layout is checked
against never changes, so a schematic that can be drawn of the loaded world can be drawn of every snapshot, with every
item in its place; only what the items show changes, and that is what the snapshot says.
-/

namespace Symulator.Trackview

open Symulator.Library Symulator.Engine Symulator.Srk RenderModelBuilder

set_option autoImplicit false

universe u

/-! ## The adapters -/

/-- What the adapters ask of a state. -/
structure StateView where
  findTrackSection : UID → Option TrackSection
  findSwitch : UID → Option Switch
  findSignal : UID → Option Signal

def ofState (s : EngineState) : StateView where
  findTrackSection := s.findTrackSection
  findSwitch := s.findSwitch
  findSignal := s.findSignal

def ofSnapshot (snap : EngineSnapshot) : StateView where
  findTrackSection := snap.trackSections.find
  findSwitch := snap.switches.find
  findSignal := snap.signals.find

def toEngineUid (id : InfrastructureId) : UID := ⟨id.value.toNat⟩

def mapOccupancy : TrackOccupancy → OccupancyState
  | .occupied => .occupied
  | .free => .free

/-- A switch that has been run through is drawn as moving. -/
def mapPosition : SwitchPosition → SwitchPositionState
  | .straight => .straight
  | .divergent => .divergent
  | .moving | .trailedDamaged => .moving

def mapIndication (aspect : SignalAspect) : SignalIndicationState :=
  if aspect = .s1Stop ∨ aspect = .ms1Stop then .stop else .proceed

def engineInfrastructureCatalogAdapter (source : StateView) : InfrastructureCatalog where
  containsTrack id := (source.findTrackSection (toEngineUid id)).isSome
  containsSwitch id := (source.findSwitch (toEngineUid id)).isSome
  containsSignal id := (source.findSignal (toEngineUid id)).isSome
  signalGovernsTrack signalId trackId :=
    (source.findSignal (toEngineUid signalId)).any fun sig => sig.governsSectionUid = toEngineUid trackId

def engineTrackRuntimeAdapter (source : StateView) : TrackviewState where
  trackState id := (source.findTrackSection (toEngineUid id)).map fun ts => { occupancy := mapOccupancy ts.occupancy }
  switchState id := (source.findSwitch (toEngineUid id)).map fun sw =>
    { occupancy := mapOccupancy sw.occupancy, position := mapPosition sw.position }
  signalState id := (source.findSignal (toEngineUid id)).map fun sig =>
    { indication := mapIndication sig.currentAspect }

theorem trackState_of_find {source : StateView} {id : InfrastructureId} {ts : TrackSection}
    (h : source.findTrackSection (toEngineUid id) = some ts) :
    (engineTrackRuntimeAdapter source).trackState id = some { occupancy := mapOccupancy ts.occupancy } :=
  congrArg (Option.map _) h

/-- The state has entries for what the catalogue of the same source lists. -/
theorem covers_adapters (source : StateView) :
    (engineTrackRuntimeAdapter source).Covers (engineInfrastructureCatalogAdapter source) where
  tracks _ h := Option.isSome_map.trans h
  switches _ h := Option.isSome_map.trans h
  signals _ h := Option.isSome_map.trans h

/-! ## Two views of one topology -/

section SameTopology

variable {s t : EngineState} (h : s.topology = t.topology)

include h

theorem catalog_topology :
    engineInfrastructureCatalogAdapter (ofState s) = engineInfrastructureCatalogAdapter (ofState t) := by
  have hTracks : (fun id => (s.findTrackSection (toEngineUid id)).isSome) =
      fun id => (t.findTrackSection (toEngineUid id)).isSome :=
        funext fun id => isSome_findTrackSection h (toEngineUid id)
  have hSwitches : (fun id => (s.findSwitch (toEngineUid id)).isSome) =
      fun id => (t.findSwitch (toEngineUid id)).isSome := funext fun id => isSome_findSwitch h (toEngineUid id)
  have hSignals : (fun id => (s.findSignal (toEngineUid id)).isSome) =
      fun id => (t.findSignal (toEngineUid id)).isSome := funext fun id => isSome_findSignal h (toEngineUid id)
  have hGoverns : (fun signalId trackId => (s.findSignal (toEngineUid signalId)).any fun sig =>
      decide (sig.governsSectionUid = toEngineUid trackId)) = fun signalId trackId =>
        (t.findSignal (toEngineUid signalId)).any fun sig => decide (sig.governsSectionUid = toEngineUid trackId) := by
    funext signalId trackId
    have hSignal := congrArg (Option.any fun sig => decide (sig.governs = toEngineUid trackId))
      (findSignal_topology h (toEngineUid signalId))
    simp only [Option.any_map] at hSignal
    exact hSignal
  simp only [engineInfrastructureCatalogAdapter, ofState, hTracks, hSwitches, hSignals, hGoverns]

end SameTopology

/-- The two states have entries for the same tracks, switches and signals. -/
structure SameEntries (state state' : TrackviewState) : Prop where
  tracks : ∀ id, (state.trackState id).isSome = (state'.trackState id).isSome
  switches : ∀ id, (state.switchState id).isSome = (state'.switchState id).isSome
  signals : ∀ id, (state.signalState id).isSome = (state'.signalState id).isSome

theorem sameEntries_topology {s t : EngineState} (h : s.topology = t.topology) :
    SameEntries (engineTrackRuntimeAdapter (ofState s)) (engineTrackRuntimeAdapter (ofState t)) where
  tracks _ := Option.isSome_map.trans ((isSome_findTrackSection h _).trans Option.isSome_map.symm)
  switches _ := Option.isSome_map.trans ((isSome_findSwitch h _).trans Option.isSome_map.symm)
  signals _ := Option.isSome_map.trans ((isSome_findSignal h _).trans Option.isSome_map.symm)

/-! ## Pictures -/

section Pictures

variable {α : Type u} {resolve : Path α → TrackAttachment α → Except Thrown (Point α)} {state state' : TrackviewState}
  {layout : TrackLayout α}

/-- An item without what it shows. -/
def RenderItem.place : RenderItem α → RenderItem α
  | .track item => .track { item with state := {} }
  | .switch item => .switch { item with state := {} }
  | .signal item => .signal { item with state := {} }

/-- The items in their places, without what they show. -/
def RenderModel.places (model : RenderModel α) : RenderModel α :=
  { model with
    tracks := model.tracks.map fun item => { item with state := {} }
    switches := model.switches.map fun item => { item with state := {} }
    signalItems := model.signalItems.map fun item => { item with state := {} } }

theorem places_push (model : RenderModel α) (item : RenderItem α) :
    (model.push item).places = model.places.push item.place := by
  cases item <;> simp [RenderModel.push, RenderModel.places, RenderItem.place]

theorem places_foldl (items : List (RenderItem α)) (model : RenderModel α) :
    (items.foldl RenderModel.push model).places = (items.map RenderItem.place).foldl RenderModel.push model.places := by
  induction items generalizing model with
  | nil => rfl
  | cons item items ih =>
    rw [List.foldl_cons, ih, places_push]
    rfl

/-- What can be drawn of one state can be drawn of the other, in the same place. -/
theorem renderElement_place (hSame : SameEntries state state')
    {paths : KeyedMap InfrastructureId (TrackSectionGeometry α)}
    {element : TrackLayoutElement α} {item : RenderItem α} (h : renderElement resolve state paths element = .ok item) :
    ∃ item', renderElement resolve state' paths element = .ok item' ∧ item'.place = item.place := by
  cases element with
  | track geometry =>
    simp only [renderElement] at h ⊢
    split at h
    · cases h
    · rename_i runtime hRuntime
      cases h
      obtain ⟨runtime', hRuntime'⟩ := Option.isSome_iff_exists.mp
        ((hSame.tracks geometry.topologyId).symm.trans (Option.isSome_of_eq_some hRuntime))
      rw [hRuntime']
      exact ⟨_, rfl, rfl⟩
  | switch geometry =>
    simp only [renderElement] at h ⊢
    split at h
    · cases h
    · rename_i runtime hRuntime
      cases h
      obtain ⟨runtime', hRuntime'⟩ := Option.isSome_iff_exists.mp
        ((hSame.switches geometry.topologyId).symm.trans (Option.isSome_of_eq_some hRuntime))
      rw [hRuntime']
      exact ⟨_, rfl, rfl⟩
  | signal geometry =>
    simp only [renderElement] at h ⊢
    split at h
    · cases h
    · rename_i runtime hRuntime
      obtain ⟨runtime', hRuntime'⟩ := Option.isSome_iff_exists.mp
        ((hSame.signals geometry.objectId).symm.trans (Option.isSome_of_eq_some hRuntime))
      rw [hRuntime']
      split at h
      · cases h
      · rename_i track hPath
        obtain ⟨position, hPosition, h⟩ := bind_ok h
        cases h
        rw [hPosition]
        exact ⟨_, rfl, rfl⟩

theorem mapM_places (hSame : SameEntries state state') {paths : KeyedMap InfrastructureId (TrackSectionGeometry α)}
    {elements : List (TrackLayoutElement α)} {items : List (RenderItem α)}
    (h : elements.mapM (renderElement resolve state paths) = .ok items) :
    ∃ items', elements.mapM (renderElement resolve state' paths) = .ok items' ∧
      items'.map RenderItem.place = items.map RenderItem.place := by
  induction elements generalizing items with
  | nil =>
    cases h
    exact ⟨[], rfl, rfl⟩
  | cons element elements ih =>
    rw [List.mapM_cons] at h
    obtain ⟨item, hItem, h⟩ := bind_ok h
    obtain ⟨rest, hRest, h⟩ := bind_ok h
    cases h
    obtain ⟨item', hItem', hPlace⟩ := renderElement_place hSame hItem
    obtain ⟨rest', hRest', hPlaces⟩ := ih hRest
    refine ⟨item' :: rest', ?_, by rw [List.map_cons, List.map_cons, hPlace, hPlaces]⟩
    rw [List.mapM_cons, hItem', hRest']
    rfl

theorem build_eq_ok {model : RenderModel α} : build resolve state layout = .ok model ↔
    ∃ items, layout.elements.mapM (renderElement resolve state (trackPaths layout)) = .ok items ∧
      items.foldl RenderModel.push { canvas := layout.canvas, labels := layout.labels } = model := by
  rw [build, foldlM_make, bind_ok_iff]
  constructor
  · rintro ⟨items, hItems, hModel⟩
    exact ⟨items, hItems, Except.ok.inj hModel⟩
  · rintro ⟨items, hItems, rfl⟩
    exact ⟨items, hItems, rfl⟩

theorem build_places (hSame : SameEntries state state') {model : RenderModel α}
    (h : build resolve state layout = .ok model) :
    ∃ model', build resolve state' layout = .ok model' ∧ model'.places = model.places := by
  obtain ⟨items, hItems, rfl⟩ := build_eq_ok.mp h
  obtain ⟨items', hItems', hPlaces⟩ := mapM_places hSame hItems
  exact ⟨_, build_eq_ok.mpr ⟨items', hItems', rfl⟩, by rw [places_foldl, places_foldl, hPlaces]⟩

/-- The item shows what the source says of its object. -/
def ShownOf (source : StateView) : RenderItem α → Prop
  | .track item => ∃ ts, source.findTrackSection (toEngineUid item.id) = some ts ∧
      (item.state.occupancy = .occupied ↔ ts.occupancy = .occupied)
  | .switch item => ∃ sw, source.findSwitch (toEngineUid item.id) = some sw ∧
      (item.state.occupancy = .occupied ↔ sw.occupancy = .occupied) ∧ item.state.position = mapPosition sw.position
  | .signal item => ∃ sig, source.findSignal (toEngineUid item.id) = some sig ∧
      (item.state.indication = .stop ↔ sig.currentAspect = .s1Stop ∨ sig.currentAspect = .ms1Stop)

/-- All that is drawn shows what the source says. -/
structure Depicts (source : StateView) (model : RenderModel α) : Prop where
  tracks : ∀ item ∈ model.tracks, ShownOf source (RenderItem.track item)
  switches : ∀ item ∈ model.switches, ShownOf source (RenderItem.switch item)
  signals : ∀ item ∈ model.signalItems, ShownOf source (RenderItem.signal item)

variable {source : StateView}

theorem mapOccupancy_eq_occupied (occupancy : TrackOccupancy) :
    mapOccupancy occupancy = .occupied ↔ occupancy = .occupied := by
  cases occupancy <;> simp [mapOccupancy]

theorem mapIndication_eq_stop (aspect : SignalAspect) :
    mapIndication aspect = .stop ↔ aspect = .s1Stop ∨ aspect = .ms1Stop := by
  simp [mapIndication, or_iff_not_imp_left]

theorem shownOf_renderElement {paths : KeyedMap InfrastructureId (TrackSectionGeometry α)}
    {element : TrackLayoutElement α}
    {item : RenderItem α} (h : renderElement resolve (engineTrackRuntimeAdapter source) paths element = .ok item) :
    ShownOf source item := by
  cases element with
  | track geometry =>
    simp only [renderElement] at h
    split at h
    · cases h
    · rename_i runtime hRuntime
      cases h
      obtain ⟨ts, hFind, rfl⟩ := Option.map_eq_some_iff.mp hRuntime
      exact ⟨ts, hFind, mapOccupancy_eq_occupied _⟩
  | switch geometry =>
    simp only [renderElement] at h
    split at h
    · cases h
    · rename_i runtime hRuntime
      cases h
      obtain ⟨sw, hFind, rfl⟩ := Option.map_eq_some_iff.mp hRuntime
      exact ⟨sw, hFind, mapOccupancy_eq_occupied _, rfl⟩
  | signal geometry =>
    simp only [renderElement] at h
    split at h
    · cases h
    · rename_i runtime hRuntime
      obtain ⟨sig, hFind, rfl⟩ := Option.map_eq_some_iff.mp hRuntime
      split at h
      · cases h
      · obtain ⟨position, -, h⟩ := bind_ok h
        cases h
        exact ⟨sig, hFind, mapIndication_eq_stop _⟩

theorem Depicts.push {model : RenderModel α} (h : Depicts source model) {item : RenderItem α}
    (hItem : ShownOf source item) : Depicts source (model.push item) := by
  cases item with
  | track item =>
    exact ⟨List.forall_mem_append.mpr ⟨h.tracks, List.forall_mem_singleton.mpr hItem⟩, h.switches, h.signals⟩
  | switch item =>
    exact ⟨h.tracks, List.forall_mem_append.mpr ⟨h.switches, List.forall_mem_singleton.mpr hItem⟩, h.signals⟩
  | signal item =>
    exact ⟨h.tracks, h.switches, List.forall_mem_append.mpr ⟨h.signals, List.forall_mem_singleton.mpr hItem⟩⟩

theorem Depicts.foldl {items : List (RenderItem α)} (hItems : ∀ item ∈ items, ShownOf source item)
    {model : RenderModel α} (h : Depicts source model) : Depicts source (items.foldl RenderModel.push model) := by
  induction items generalizing model with
  | nil => exact h
  | cons item items ih =>
    obtain ⟨hFirst, hRest⟩ := List.forall_mem_cons.mp hItems
    exact ih hRest (h.push hFirst)

theorem depicts_build {model : RenderModel α}
    (h : build resolve (engineTrackRuntimeAdapter source) layout = .ok model) : Depicts source model := by
  obtain ⟨items, hItems, rfl⟩ := build_eq_ok.mp h
  exact Depicts.foldl (forall_of_mapM (fun _ _ hItem => shownOf_renderElement hItem) hItems)
    ⟨List.forall_mem_nil _, List.forall_mem_nil _, List.forall_mem_nil _⟩

end Pictures

/-! ## Pictures of the server -/

section Server

variable {φ : Type} {dynamics : TrainDynamics φ} {codec : Server.ServerCodec} {coordinator : Server.DispatchCoordinator}
  {w : World φ} {s : Server.SessionServer φ} {actions : List (Server.ServerAction φ)} {snap : EngineSnapshot}

/-- What the server publishes has the topology that was loaded. -/
theorem exists_world_of_snapshot
    (h : run (Server.SessionServer.step dynamics codec) (Server.SessionServer.start coordinator w) actions = some s)
    (hSnap : s.snapshot = some snap) : ∃ w' : World φ, w'.state.topology = w.state.topology ∧
      ofSnapshot snap = ofState w'.state := by
  obtain ⟨done, w', -, -, hChained, rfl⟩ := (Server.SessionServer.ticking_run h).publishedIn hSnap
  obtain ⟨taken, hTaken⟩ := hChained.exists_run
  refine ⟨w', ?_, rfl⟩
  refine invariant (fun v : World φ => v.state.topology = w.state.topology) ?_ rfl hTaken
  intro v a v' hv hStep
  rw [World.topology_step hStep, hv]

variable {α : Type u} [Zero α] [One α] [LT α] [DecidableLT α] [Floating α]

/-- Whatever the server has been through, its snapshot has all that the catalogue lists and gives a schematic the
same diagnostics as the loaded world; it can be drawn of the one if and only if of the other; and then every item has
the same place in both pictures, and what is drawn of the snapshot is what the snapshot says. -/
theorem schematic_live
    (h : run (Server.SessionServer.step dynamics codec) (Server.SessionServer.start coordinator w) actions = some s)
    (hSnap : s.snapshot = some snap) (resolve : Path α → TrackAttachment α → Except Thrown (Point α))
    (layout : TrackLayout α) :
    (engineTrackRuntimeAdapter (ofSnapshot snap)).Covers (engineInfrastructureCatalogAdapter (ofSnapshot snap)) ∧
      LayoutValidator.validate (engineInfrastructureCatalogAdapter (ofSnapshot snap)) layout =
        LayoutValidator.validate (engineInfrastructureCatalogAdapter (ofState w.state)) layout ∧
      ((∃ model, build resolve (engineTrackRuntimeAdapter (ofSnapshot snap)) layout = .ok model) ↔
        ∃ model, build resolve (engineTrackRuntimeAdapter (ofState w.state)) layout = .ok model) ∧
      ∀ model model', build resolve (engineTrackRuntimeAdapter (ofState w.state)) layout = .ok model →
        build resolve (engineTrackRuntimeAdapter (ofSnapshot snap)) layout = .ok model' →
          model'.places = model.places ∧ Depicts (ofSnapshot snap) model' := by
  obtain ⟨w', hTopology, hView⟩ := exists_world_of_snapshot h hSnap
  rw [hView]
  have hThere := sameEntries_topology hTopology
  have hBack := sameEntries_topology hTopology.symm
  refine ⟨covers_adapters _, by rw [catalog_topology hTopology], ⟨?_, ?_⟩, ?_⟩
  · rintro ⟨model, hModel⟩
    obtain ⟨model', hModel', -⟩ := build_places hThere hModel
    exact ⟨model', hModel'⟩
  · rintro ⟨model, hModel⟩
    obtain ⟨model', hModel', -⟩ := build_places hBack hModel
    exact ⟨model', hModel'⟩
  · intro model model' hModel hModel'
    obtain ⟨same, hSame, hPlaces⟩ := build_places hBack hModel
    cases Except.ok.inj (hSame.symm.trans hModel')
    exact ⟨hPlaces, depicts_build hModel'⟩

/-- Section 1 of the fork, drawn as a line. -/
noncomputable def sectionLine : TrackLayout ℝ where
  layoutId := "layout"
  stationSid := "station"
  canvas := ⟨1, 1⟩
  elements := [.track ⟨⟨1⟩, [⟨0, 0⟩, ⟨1, 0⟩]⟩]
  labels := []

/-- The line can be drawn of what the first tick publishes. -/
theorem schematic_live_section : ∃ s snap model,
    run (Server.SessionServer.step World.idleTrains Server.SessionServer.stopServer)
      (Server.SessionServer.start {} (World.start .ml8 forkStation)) (List.replicate 3 (.engine 0)) = some s ∧
    s.snapshot = some snap ∧
      build PathAttachmentResolver.resolve (engineTrackRuntimeAdapter (ofSnapshot snap)) sectionLine = .ok model := by
  have hTaken : (run (Server.SessionServer.step World.idleTrains Server.SessionServer.stopServer)
      (Server.SessionServer.start {} (World.start .ml8 forkStation)) (List.replicate 3 (.engine 0))).any (fun s =>
        s.snapshot.isSome) = true := by decide +kernel
  have hSection : ((ofState (World.start .ml8 forkStation : World Unit).state).findTrackSection
      (toEngineUid ⟨1⟩)).isSome = true := by decide +kernel
  obtain ⟨s, hRun, hPublished⟩ := (Option.any_eq_true _ _).mp hTaken
  obtain ⟨snap, hSnap⟩ := Option.isSome_iff_exists.mp hPublished
  obtain ⟨ts, hFind⟩ := Option.isSome_iff_exists.mp hSection
  have hLoaded : ∃ model, build PathAttachmentResolver.resolve
      (engineTrackRuntimeAdapter (ofState (World.start .ml8 forkStation : World Unit).state)) sectionLine =
        .ok model := by
    have hEntry : (engineTrackRuntimeAdapter (ofState (World.start .ml8 forkStation : World Unit).state)).trackState
      ⟨1⟩ =
        some ⟨mapOccupancy ts.occupancy⟩ := trackState_of_find hFind
    refine ⟨_, build_eq_ok.mpr ⟨[.track ⟨⟨1⟩, [⟨0, 0⟩, ⟨1, 0⟩], ⟨mapOccupancy ts.occupancy⟩⟩], ?_, rfl⟩⟩
    simp only [sectionLine, List.mapM_cons, List.mapM_nil, renderElement, hEntry]
    rfl
  obtain ⟨model, hModel⟩ := (schematic_live hRun hSnap PathAttachmentResolver.resolve sectionLine).2.2.1.mpr hLoaded
  exact ⟨s, snap, model, hRun, hSnap, hModel⟩

end Server

end Symulator.Trackview
