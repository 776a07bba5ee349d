import Symulator.Validation.JsonValidators

/-! # Do validated scenarios load?

A scenario without errors need not load: sides, legs and fields the validators pass over may be missing or hold
a value of another type, an aspect may be on the list of the validator only, and block sections and derailers are
not looked at. What the loader needs beyond the validators is a condition on the entries.
-/

namespace Symulator.Validation

open Symulator.Library Symulator.Engine Symulator.Engine.JsonLoader

set_option autoImplicit false

def uidOf (j : Json) : Nat := shownUid (uidField j "uid")

/-- The map holds one object for each entry, the one the loader makes of it. -/
def OnePerEntry {α : Type} [Keyed UID α] (make : Json → Except String α) (values : List Json)
    (m : KeyedMap UID α) : Prop :=
  ∃ made, values.mapM make = .ok made ∧ m.values.Perm made

structure HoldsEach (path : String) (topology objects : Json) (s : EngineState) : Prop where
  boundaryNodes :
    OnePerEntry (boundaryNode (path ++ "/topology.json")) (entries topology "boundary_nodes") s.boundaryNodes
  trackSections :
    OnePerEntry (trackSection (path ++ "/topology.json")) (entries topology "track_sections") s.trackSections
  switches : OnePerEntry (switch (path ++ "/topology.json")) (entries topology "switches") s.switches
  blockSections :
    OnePerEntry (blockSection (path ++ "/topology.json")) (entries topology "block_sections") s.blockSections
  signals : OnePerEntry (signal (path ++ "/objects.json")) (entries objects "signals") s.signals
  derailers : OnePerEntry (derailer (path ++ "/objects.json")) (entries objects "derailers") s.derailers

/-- The entries are named, pass the test of their kind, and no two share a UID. -/
def KindLoads (test : Json → Bool) (values : List Json) : Prop :=
  (∀ j ∈ values, (isNamed j && test j) = true) ∧ (values.map uidOf).Nodup

/-- What the loader needs of the entries beyond what the validators look at. -/
structure Loadable (topology objects : Json) : Prop where
  boundaryNodes : ∀ j ∈ entries topology "boundary_nodes", boundaryNodeLoads j = true
  trackSections : ∀ j ∈ entries topology "track_sections", trackSectionLoads j = true
  switches : ∀ j ∈ entries topology "switches", switchLoads j = true
  blockSections : KindLoads blockSectionLoads (entries topology "block_sections")
  signals : ∀ j ∈ entries objects "signals", signalLoads j = true
  derailers : KindLoads derailerLoads (entries objects "derailers")

/-! ## What the first layer sees to -/

theorem isNamed_of_checked {obj : Json} {context : String}
    (h : ∀ i ∈ JsonLayer1.checkRequiredFields obj context, i.severity ≠ .error) :
    isNamed obj = true ∧ uidOf obj ≠ 0 := by
  obtain ⟨⟨hUid, -⟩, hPid⟩ := Layer1.checkRequiredFields_of_ok h
  refine ⟨Bool.and_eq_true_iff.mpr ⟨?_, ?_⟩, hUid⟩
  · unfold uidField at hUid
    unfold Json.hasField
    split at hUid
    · exact absurd rfl hUid
    · rename_i hMember
      rw [hMember]
      rfl
    · exact absurd rfl hUid
  · unfold JsonLayer1.stringField at hPid
    unfold Json.hasField
    split at hPid
    · rename_i hMember
      rw [hMember]
      rfl
    · exact absurd rfl hPid

theorem uidField_of_isNamed {j : Json} (h : isNamed j = true) : uidField j "uid" = .unsigned (uidOf j) := by
  obtain ⟨hUid, -⟩ := Bool.and_eq_true_iff.mp h
  unfold uidOf uidField
  unfold Json.hasField at hUid
  cases hMember : j.member "uid" with
  | none =>
    rw [hMember] at hUid
    cases hUid
  | some v =>
    rw [hMember] at hUid
    cases v with
    | unsigned n => rfl
    | _ => cases hUid

theorem collectUids_of_isNamed {values : List Json} (h : ∀ j ∈ values, isNamed j = true) :
    collectUids (JsonLayer1.uidsOf values) = values.map uidOf := by
  unfold collectUids JsonLayer1.uidsOf
  rw [List.filterMap_map, ← List.filterMap_eq_map]
  refine List.filterMap_congr fun j hj => ?_
  rw [Function.comp_apply, uidField_of_isNamed (h j hj)]
  rfl

/-- The objects of the four kinds the first layer looks at have UIDs and names, and no two share a UID. -/
structure Checked (topology objects : Json) : Prop where
  isTopology : topology.isObject = true
  isObjects : objects.isObject = true
  boundaryNodes : ∀ j ∈ entries topology "boundary_nodes", isNamed j = true
  trackSections : ∀ j ∈ entries topology "track_sections", isNamed j = true
  switches : ∀ j ∈ entries topology "switches", isNamed j = true
  signals : ∀ j ∈ entries objects "signals", isNamed j = true
  nodup : ((entries topology "boundary_nodes").map uidOf ++ (entries topology "track_sections").map uidOf ++
    (entries topology "switches").map uidOf ++ (entries objects "signals").map uidOf).Nodup

theorem required_of_checkSignal {sectionUids : List Nat} {sig : Json} {issues : List ValidationIssue}
    (h : JsonLayer1.checkSignal sectionUids sig = .ok issues) :
    JsonLayer1.checkRequiredFields sig "signal" ⊆ issues := by
  obtain ⟨governs, -, h⟩ := bind_ok h
  obtain ⟨aspect, -, h⟩ := bind_ok h
  cases h
  rw [List.append_assoc]
  exact List.subset_append_left _ _

theorem NoErrors.checked {stationInstance : Int} {topology objects : Json}
    (h : NoErrors stationInstance topology objects) : Checked topology objects := by
  obtain ⟨result, hResult, hOk⟩ := h.layer1
  obtain ⟨nodes, hNodes, hResult⟩ := bind_ok hResult
  obtain ⟨switchIzUids, -, hResult⟩ := bind_ok hResult
  obtain ⟨sigUids, -, hResult⟩ := bind_ok hResult
  obtain ⟨sections, hSections, hResult⟩ := bind_ok hResult
  obtain ⟨switches, hSwitches, hResult⟩ := bind_ok hResult
  obtain ⟨sectionUids, -, hResult⟩ := bind_ok hResult
  obtain ⟨signals, hSignals, hResult⟩ := bind_ok hResult
  obtain ⟨signalIssues, hIssues, hResult⟩ := bind_ok hResult
  cases hResult
  obtain ⟨hTopology, rfl⟩ := arrayOf_ok_iff.mp hNodes
  obtain ⟨-, rfl⟩ := arrayOf_ok_iff.mp hSections
  obtain ⟨-, rfl⟩ := arrayOf_ok_iff.mp hSwitches
  obtain ⟨hObjects, rfl⟩ := arrayOf_ok_iff.mp hSignals
  simp only [ValidationResult.ok, List.all_eq_true, decide_eq_true_eq, List.forall_mem_append,
    List.forall_mem_flatMap] at hOk
  obtain ⟨⟨⟨⟨hNodes, hSections⟩, hSwitches⟩, hSignals⟩, hDuplicates⟩ := hOk
  have hNode : ∀ j ∈ entries topology "boundary_nodes", isNamed j = true ∧ uidOf j ≠ 0 :=
    fun j hj => isNamed_of_checked (hNodes j hj)
  have hSection : ∀ j ∈ entries topology "track_sections", isNamed j = true ∧ uidOf j ≠ 0 :=
    fun j hj => isNamed_of_checked fun i hi => hSections j hj i (List.mem_append_left _ hi)
  have hSwitch : ∀ j ∈ entries topology "switches", isNamed j = true ∧ uidOf j ≠ 0 :=
    fun j hj => isNamed_of_checked (hSwitches j hj)
  have hSignal : ∀ j ∈ entries objects "signals", isNamed j = true ∧ uidOf j ≠ 0 := by
    intro j hj
    obtain ⟨issues, hMem, hCheck⟩ := mapM_ok hIssues j hj
    exact isNamed_of_checked fun i hi =>
      hSignals i (List.mem_flatten.mpr ⟨issues, hMem, required_of_checkSignal hCheck hi⟩)
  rw [collectUids_of_isNamed fun j hj => (hNode j hj).1, collectUids_of_isNamed fun j hj => (hSwitch j hj).1,
    JsonLayer1.uidsOf, JsonLayer1.uidsOf, List.map_map, List.map_map] at hDuplicates
  refine ⟨hTopology, hObjects, fun j hj => (hNode j hj).1, fun j hj => (hSection j hj).1,
    fun j hj => (hSwitch j hj).1, fun j hj => (hSignal j hj).1, Layer1.nodup_of_ok hDuplicates fun uid hUid => ?_⟩
  simp only [List.mem_append, List.mem_map] at hUid
  rcases hUid with ((⟨j, hj, rfl⟩ | ⟨j, hj, rfl⟩) | ⟨j, hj, rfl⟩) | ⟨j, hj, rfl⟩
  · exact (hNode j hj).2
  · exact (hSection j hj).2
  · exact (hSwitch j hj).2
  · exact (hSignal j hj).2

/-! ## One object for each entry -/

theorem uidOf_of_requireUidField {j : Json} {path : String} {uid : UID}
    (h : requireUidField j "uid" path = .ok uid) : uid.value = uidOf j := by
  rw [uidOf, requireUidField_ok h]
  rfl

section Uids

variable {path : String} {j : Json}

theorem uid_boundaryNode {n : BoundaryNode} (h : boundaryNode path j = .ok n) : n.uid.value = uidOf j := by
  obtain ⟨uid, hUid, h⟩ := bind_ok h
  repeat obtain ⟨_, -, h⟩ := bind_ok h
  cases h
  exact uidOf_of_requireUidField hUid

theorem uid_trackSection {ts : TrackSection} (h : trackSection path j = .ok ts) : ts.uid.value = uidOf j := by
  obtain ⟨uid, hUid, h⟩ := bind_ok h
  repeat obtain ⟨_, -, h⟩ := bind_ok h
  cases h
  exact uidOf_of_requireUidField hUid

theorem uid_switch {sw : Switch} (h : switch path j = .ok sw) : sw.uid.value = uidOf j := by
  obtain ⟨uid, hUid, h⟩ := bind_ok h
  repeat obtain ⟨_, -, h⟩ := bind_ok h
  cases h
  exact uidOf_of_requireUidField hUid

theorem uid_blockSection {bs : BlockSection} (h : blockSection path j = .ok bs) : bs.uid.value = uidOf j := by
  obtain ⟨uid, hUid, h⟩ := bind_ok h
  repeat obtain ⟨_, -, h⟩ := bind_ok h
  cases h
  exact uidOf_of_requireUidField hUid

theorem uid_signal {sig : Signal} (h : signal path j = .ok sig) : sig.uid.value = uidOf j := by
  obtain ⟨uid, hUid, h⟩ := bind_ok h
  repeat obtain ⟨_, -, h⟩ := bind_ok h
  cases h
  exact uidOf_of_requireUidField hUid

theorem uid_derailer {d : Derailer} (h : derailer path j = .ok d) : d.uid.value = uidOf j := by
  obtain ⟨uid, hUid, h⟩ := bind_ok h
  repeat obtain ⟨_, -, h⟩ := bind_ok h
  cases h
  exact uidOf_of_requireUidField hUid

end Uids

theorem uid_injective : Function.Injective UID.value := by
  rintro ⟨value⟩ ⟨value'⟩ h
  exact congrArg UID.mk h

/-- The entries of a kind are all there when each can be made and no two share a UID. -/
theorem onePerEntry_iff {α : Type} [Keyed UID α] {make : Json → Except String α} {values : List Json}
    (hUid : ∀ {j a}, make j = .ok a → (Keyed.key a : UID).value = uidOf j) :
    (∃ made, values.mapM make = .ok made ∧ OnePerEntry make values (made.foldl .emplace .empty)) ↔
      (∀ j ∈ values, (make j).isOk = true) ∧ (values.map uidOf).Nodup := by
  have hKeys : ∀ {made : List α}, values.mapM make = .ok made →
      ((made.map (Keyed.key : α → UID)).Nodup ↔ (values.map uidOf).Nodup) := by
    intro made hMade
    rw [← map_eq_of_mapM (fun j a => hUid) hMade, ← Function.comp_def, ← List.map_map]
    exact (List.nodup_map_iff uid_injective).symm
  constructor
  · rintro ⟨made, hMade, made', hMade', hPerm⟩
    rw [hMade] at hMade'
    cases hMade'
    refine ⟨fun j hj => ?_, (hKeys hMade).mp ((hPerm.map Keyed.key).nodup_iff.mp (KeyedMap.nodup _))⟩
    obtain ⟨a, -, hA⟩ := mapM_ok hMade j hj
    exact Json.isOk_iff.mpr ⟨a, hA⟩
  · rintro ⟨hOk, hNodup⟩
    have hAll : (values.mapM make).isOk = true := by
      rw [Json.isOk_mapM (fun _ => rfl), List.all_eq_true]
      exact hOk
    obtain ⟨made, hMade⟩ := Json.isOk_iff.mp hAll
    refine ⟨made, hMade, made, hMade, ?_⟩
    rw [KeyedMap.values_foldl_emplace]
    · exact List.Perm.refl _
    · exact (hKeys hMade).mpr hNodup

/-- Loading into an empty state keeps every entry when each can be made and no two of a kind share a UID. -/
theorem load_iff {path : String} {metaJson topology objects : Json} (hMeta : metaLoads metaJson = true)
    (hTopology : topology.isObject = true) (hObjects : objects.isObject = true) :
    (∃ s result, loadScenario {} ⟨path, metaJson, topology, some objects⟩ = .ok (s, result) ∧
      HoldsEach path topology objects s) ↔
    KindLoads boundaryNodeLoads (entries topology "boundary_nodes") ∧
    KindLoads trackSectionLoads (entries topology "track_sections") ∧
    KindLoads switchLoads (entries topology "switches") ∧
    KindLoads blockSectionLoads (entries topology "block_sections") ∧
    KindLoads signalLoads (entries objects "signals") ∧
    KindLoads derailerLoads (entries objects "derailers") := by
  simp only [KindLoads, ← isOk_boundaryNode (path ++ "/topology.json"), ← isOk_switch (path ++ "/topology.json"),
    ← isOk_trackSection (path ++ "/topology.json"), ← isOk_blockSection (path ++ "/topology.json"),
    ← isOk_signal (path ++ "/objects.json"), ← isOk_derailer (path ++ "/objects.json")]
  rw [← onePerEntry_iff uid_boundaryNode, ← onePerEntry_iff uid_trackSection, ← onePerEntry_iff uid_switch,
    ← onePerEntry_iff uid_blockSection, ← onePerEntry_iff uid_signal, ← onePerEntry_iff uid_derailer]
  constructor
  · rintro ⟨s, result, hLoad, hHolds⟩
    obtain ⟨-, -, -, o, hMade, rfl⟩ := loadScenario_ok_iff.mp hLoad
    exact ⟨⟨_, hMade.boundaryNodes, hHolds.boundaryNodes⟩, ⟨_, hMade.trackSections, hHolds.trackSections⟩,
      ⟨_, hMade.switches, hHolds.switches⟩, ⟨_, hMade.blockSections, hHolds.blockSections⟩,
      ⟨_, hMade.signals, hHolds.signals⟩, ⟨_, hMade.derailers, hHolds.derailers⟩⟩
  · rintro ⟨⟨nodes, hNodes, hNodesHeld⟩, ⟨sections, hSections, hSectionsHeld⟩, ⟨switches, hSwitches, hSwitchesHeld⟩,
      ⟨blocks, hBlocks, hBlocksHeld⟩, ⟨signals, hSignals, hSignalsHeld⟩, ⟨derailers, hDerailers, hDerailersHeld⟩⟩
    obtain ⟨result, hResult⟩ := Json.isOk_iff.mp ((isOk_scenarioMeta metaJson).trans hMeta)
    refine ⟨_, result, loadScenario_ok_iff.mpr ⟨hResult, hTopology, hObjects,
      ⟨nodes, sections, switches, blocks, signals, derailers⟩,
      ⟨hNodes, hSections, hSwitches, hBlocks, hSignals, hDerailers⟩, rfl⟩, ?_⟩
    exact ⟨hNodesHeld, hSectionsHeld, hSwitchesHeld, hBlocksHeld, hSignalsHeld, hDerailersHeld⟩

theorem kindLoads_iff {test : Json → Bool} {values : List Json} (hNamed : ∀ j ∈ values, isNamed j = true)
    (hNodup : (values.map uidOf).Nodup) : KindLoads test values ↔ ∀ j ∈ values, test j = true := by
  constructor
  · intro h j hj
    exact (Bool.and_eq_true_iff.mp (h.1 j hj)).2
  · intro h
    exact ⟨fun j hj => Bool.and_eq_true_iff.mpr ⟨hNamed j hj, h j hj⟩, hNodup⟩

/-- An object of station 1 with its UID and name, and the other members given. -/
def namedObject (kind : UIDKind) (number : BitVec 16) (pid : String) (members : List (String × Json)) : Json :=
  .object ([("uid", .unsigned (stationObject kind number)), ("pID", .string pid)] ++ members)

def leadingTo (kind : UIDKind) (number : BitVec 16) : Json :=
  .object [("neighborUID", .unsigned (stationObject kind number))]

def shortMeta : Json := .object [("station_sid", .string "ST"), ("control_system", .string "estw_ml8")]

/-- One section between two boundary nodes, with the block section it is the line section of. -/
def shortTopology : Json :=
  .object
    [("boundary_nodes", .array [namedObject .boundaryNode 1 "gr1" [], namedObject .boundaryNode 2 "gr2" []]),
      ("track_sections", .array [namedObject .trackSection 1 "it1"
        [("sideA", leadingTo .boundaryNode 1), ("sideB", leadingTo .boundaryNode 2)]]),
      ("block_sections", .array [namedObject .blockSection 1 "blk1"
        [("neighborStationUID", .unsigned 0), ("departureSignalUID", .unsigned (stationObject .signal 1)),
          ("entrySignalUID", .unsigned 0), ("szlakSectionUIDs", .array [.unsigned (stationObject .trackSection 1)])]])]

/-- The signal of the section, showing the aspect at first, and a derailer. -/
def shortObjects (aspect : String) : Json :=
  .object
    [("signals", .array [namedObject .signal 1 "A"
        [("type", .string "ENTRY"), ("governs_section", .unsigned (stationObject .trackSection 1)),
          ("initial_aspect", .string aspect)]]),
      ("derailers", .array [namedObject .derailer 1 "Wk1"
        [("guards_section", .unsigned (stationObject .trackSection 1))]])]

/-- A scenario without errors loads, one object for each entry, exactly when its entries are loadable. -/
theorem validated_loads_iff (stationInstance : Int) (path : String) (metaJson topology objects : Json)
    (hMeta : metaLoads metaJson = true) (hValid : NoErrors stationInstance topology objects) :
    (∃ s result, loadScenario {} ⟨path, metaJson, topology, some objects⟩ = .ok (s, result) ∧
      HoldsEach path topology objects s) ↔ Loadable topology objects := by
  have hChecked := hValid.checked
  obtain ⟨hThree, hSignals, -⟩ := List.nodup_append.mp hChecked.nodup
  obtain ⟨hTwo, hSwitches, -⟩ := List.nodup_append.mp hThree
  obtain ⟨hNodes, hSections, -⟩ := List.nodup_append.mp hTwo
  rw [load_iff hMeta hChecked.isTopology hChecked.isObjects, kindLoads_iff hChecked.boundaryNodes hNodes,
    kindLoads_iff hChecked.trackSections hSections, kindLoads_iff hChecked.switches hSwitches,
    kindLoads_iff hChecked.signals hSignals]
  constructor
  · rintro ⟨hNodes, hSections, hSwitches, hBlocks, hSignals, hDerailers⟩
    exact ⟨hNodes, hSections, hSwitches, hBlocks, hSignals, hDerailers⟩
  · intro h
    exact ⟨h.boundaryNodes, h.trackSections, h.switches, h.blockSections, h.signals, h.derailers⟩

theorem validated_loads_short : ∃ s result,
    loadScenario {} ⟨"ST", shortMeta, shortTopology, some (shortObjects "STOP")⟩ = .ok (s, result) ∧
      HoldsEach "ST" shortTopology (shortObjects "STOP") s := by
  refine (validated_loads_iff 1 "ST" shortMeta shortTopology (shortObjects "STOP") rfl
    ⟨⟨_, rfl, by decide⟩, ⟨_, rfl, by decide⟩⟩).mpr ?_
  have hBlocks : entries shortTopology "block_sections" = [_] := rfl
  have hDerailers : entries (shortObjects "STOP") "derailers" = [_] := rfl
  refine ⟨List.all_eq_true.mp rfl, List.all_eq_true.mp rfl, List.all_eq_true.mp rfl, ⟨List.all_eq_true.mp rfl, ?_⟩,
    List.all_eq_true.mp rfl, ⟨List.all_eq_true.mp rfl, ?_⟩⟩
  · rw [hBlocks]
    exact List.nodup_singleton _
  · rw [hDerailers]
    exact List.nodup_singleton _

/-- The first layer knows an aspect under which the loader refuses the signal. -/
theorem caution_refused : metaLoads shortMeta = true ∧ NoErrors 1 shortTopology (shortObjects "CAUTION") ∧
    ¬ ∃ s result, loadScenario {} ⟨"ST", shortMeta, shortTopology, some (shortObjects "CAUTION")⟩ =
      .ok (s, result) := by
  refine ⟨rfl, ⟨⟨_, rfl, by decide⟩, ⟨_, rfl, by decide⟩⟩, ?_⟩
  rintro ⟨s, result, h⟩
  have hFailed : (loadScenario {} ⟨"ST", shortMeta, shortTopology, some (shortObjects "CAUTION")⟩).isOk = false :=
    rfl
  rw [h] at hFailed
  cases hFailed

end Symulator.Validation
