import Symulator.Validation.Layer2Validator

/-! # Layer 1 validation

The fields every object of a scenario must have, the UIDs it may use once, and the counters, signals, sections
and aspects it may name. Where a number is read from a field that holds none the validator throws.
-/

namespace Symulator.Validation.Layer1

open Symulator.Library Symulator.Engine

set_option autoImplicit false

def maxSafeJsonInt : Nat := 2 ^ 53 - 1

def checkRequiredFields (uid : UidField) (pid context : String) : List ValidationIssue :=
  (if shownUid uid = 0 ∨ shownUid uid > maxSafeJsonInt then
      [issue "L1-001" (context ++ ": required field 'uid' is missing, zero, or exceeds 2^53-1")]
    else []) ++
    if pid = "" then [issue "L1-001" (context ++ ": required field 'pID' is missing or empty")] else []

/-- Zero stands for a UID that was not there to collect. -/
def checkDuplicateUids (seen : List Nat) : List Nat → List ValidationIssue
  | [] => []
  | uid :: uids =>
    if uid = 0 then checkDuplicateUids seen uids
    else if uid ∈ seen then
      issue "L1-002" ("Duplicate UID: " ++ toString uid) :: checkDuplicateUids seen uids
    else checkDuplicateUids (uid :: seen) uids

def getUnsigned (field : UidField) : Except String Nat :=
  match field with
  | .unsigned value => .ok value
  | .missing | .invalid => .error "type must be number"

def legIzUid (leg : SwitchLegDoc) : Except String (List Nat) :=
  if leg.izUid.isPresent then do
    let iz ← getUnsigned leg.izUid
    return if iz ≠ 0 then [iz] else []
  else return []

def collectSwitchIzUids (topology : TopologyDoc) : Except String (List Nat) := do
  let izUids ← (topology.switches.flatMap fun sw => [sw.trunk, sw.straight, sw.divergent]).mapM legIzUid
  return izUids.flatten

def checkIzUid (switchIzUids : List Nat) (uid : Nat) (side : String) (port : TrackPortDoc) :
    List ValidationIssue :=
  match unsignedValue port.izUid with
  | none => []
  | some iz =>
    if iz = 0 ∨ iz ∈ switchIzUids then []
    else
      [issue "L1-003"
        ("TrackSection uid=" ++ toString uid ++ " " ++ side ++ ".izUID=" ++ toString iz ++
          " does not match any switch leg Iz counter")]

def checkSignalUids (signalUids : List Nat) (uid : Nat) (side : String) (port : TrackPortDoc) :
    List ValidationIssue :=
  port.signalUids.flatMap fun signalUid =>
    if signalUid = 0 ∨ signalUid ∈ signalUids then []
    else
      [issue "L1-004"
        ("TrackSection uid=" ++ toString uid ++ " " ++ side ++ ".signalUIDs[] references unknown signal uid=" ++
          toString signalUid)]

def checkTrackSection (switchIzUids signalUids : List Nat) (ot : TrackSectionDoc) : List ValidationIssue :=
  checkRequiredFields ot.uid ot.pid "track_section" ++
    [("sideA", ot.sideA), ("sideB", ot.sideB)].flatMap fun (side, port) =>
      checkIzUid switchIzUids (shownUid ot.uid) side port ++ checkSignalUids signalUids (shownUid ot.uid) side port

def checkGovernsSection (sectionUids : List Nat) (sig : SignalDoc) : Except String (List ValidationIssue) :=
  if sig.governsSection.isPresent then do
    let otUid ← getUnsigned sig.governsSection
    return if otUid = 0 ∨ otUid ∈ sectionUids then []
      else
        [issue "L1-005"
          ("Signal uid=" ++ toString (shownUid sig.uid) ++ " governs_section=" ++ toString otUid ++
            " does not reference a known track_section")]
  else return []

def kValidAspects : List String :=
  ["STOP", "S1_STOP", "CAUTION", "PROCEED", "CLEAR", "CAUTION_THEN_STOP", "SHUNTING", "REPEAT", "S2_PROCEED",
    "S3_PROCEED_40", "MS1_STOP", "MS2_SHUNTING_ALLOWED"]

def checkInitialAspect (sig : SignalDoc) : List ValidationIssue :=
  match sig.initialAspect with
  | none => []
  | some aspect =>
    if aspect ∈ kValidAspects then []
    else
      [issue "L1-006"
        ("Signal uid=" ++ toString (shownUid sig.uid) ++ " has invalid initial_aspect '" ++ aspect ++ "'")]

def checkSignal (sectionUids : List Nat) (sig : SignalDoc) : Except String (List ValidationIssue) := do
  let governs ← checkGovernsSection sectionUids sig
  return checkRequiredFields sig.uid sig.pid "signal" ++ governs ++ checkInitialAspect sig

/-- The UIDs that may occur once; a section or a signal without one counts as zero. -/
def allUids (topology : TopologyDoc) (objects : ObjectsDoc) : List Nat :=
  collectUids (topology.boundaryNodes.map BoundaryNodeDoc.uid) ++
    topology.trackSections.map (fun ot => shownUid ot.uid) ++
    collectUids (topology.switches.map SwitchDoc.uid) ++
    objects.signals.map fun sig => shownUid sig.uid

def validate (topology : TopologyDoc) (objects : ObjectsDoc) : Except String ValidationResult := do
  let switchIzUids ← collectSwitchIzUids topology
  let signalUids := collectUids (objects.signals.map SignalDoc.uid)
  let sectionUids := collectUids (topology.trackSections.map TrackSectionDoc.uid)
  let signals ← objects.signals.mapM (checkSignal sectionUids)
  return {
    issues :=
      topology.boundaryNodes.flatMap (fun node => checkRequiredFields node.uid node.pid "boundary_node") ++
        topology.trackSections.flatMap (checkTrackSection switchIzUids signalUids) ++
        topology.switches.flatMap (fun sw => checkRequiredFields sw.uid sw.pid "switch") ++
        signals.flatten ++ checkDuplicateUids [] (allUids topology objects) }

def Accepted (dir : ScenarioDir) : Prop :=
  ∃ result, validate dir.topologyJson (dir.objectsJson.getD {}) = .ok result ∧ result.ok = true

/-! ## What acceptance says -/

theorem checkDuplicateUids_eq_nil_iff {seen uids : List Nat} : checkDuplicateUids seen uids = [] ↔
    (uids.filter (· ≠ 0)).Nodup ∧ ∀ uid ∈ uids, uid ≠ 0 → uid ∉ seen := by
  induction uids generalizing seen with
  | nil => simp [checkDuplicateUids]
  | cons uid uids ih =>
    by_cases hZero : uid = 0
    · simp [checkDuplicateUids, hZero, ih]
    · by_cases hSeen : uid ∈ seen
      · simp [checkDuplicateUids, hZero, hSeen]
      · rw [checkDuplicateUids, if_neg hZero, if_neg hSeen, ih, List.filter_cons_of_pos (by simpa using hZero),
          List.nodup_cons]
        constructor
        · rintro ⟨hNodup, hRest⟩
          refine ⟨⟨fun hMem => ?_, hNodup⟩, fun other hOther hNonzero => ?_⟩
          · exact hRest uid (List.mem_of_mem_filter hMem) hZero List.mem_cons_self
          · rcases List.mem_cons.mp hOther with rfl | hOther
            · exact hSeen
            · exact fun hMem => hRest other hOther hNonzero (List.mem_cons_of_mem _ hMem)
        · rintro ⟨⟨hFresh, hNodup⟩, hRest⟩
          refine ⟨hNodup, fun other hOther hNonzero hMem => ?_⟩
          rcases List.mem_cons.mp hMem with rfl | hMem
          · exact hFresh (List.mem_filter.mpr ⟨hOther, by simpa using hNonzero⟩)
          · exact hRest other (List.mem_cons_of_mem _ hOther) hNonzero hMem

theorem severity_of_mem_checkDuplicateUids {seen uids : List Nat} {i : ValidationIssue}
    (h : i ∈ checkDuplicateUids seen uids) : i.severity = .error := by
  induction uids generalizing seen with
  | nil => cases h
  | cons uid uids ih =>
    unfold checkDuplicateUids at h
    split at h
    · exact ih h
    · split at h
      · rcases List.mem_cons.mp h with rfl | h
        · rfl
        · exact ih h
      · exact ih h

theorem severity_of_mem_checkRequiredFields {uid : UidField} {pid context : String} {i : ValidationIssue}
    (h : i ∈ checkRequiredFields uid pid context) : i.severity = .error := by
  unfold checkRequiredFields at h
  rcases List.mem_append.mp h with h | h
  · split at h
    · rw [List.mem_singleton.mp h]
      rfl
    · cases h
  · split at h
    · rw [List.mem_singleton.mp h]
      rfl
    · cases h

theorem checkRequiredFields_eq_nil_iff {uid : UidField} {pid context : String} :
    checkRequiredFields uid pid context = [] ↔
      (shownUid uid ≠ 0 ∧ shownUid uid ≤ maxSafeJsonInt) ∧ pid ≠ "" := by
  unfold checkRequiredFields
  rw [List.append_eq_nil_iff, ite_eq_right_iff, ite_eq_right_iff, ← Nat.not_lt, ← not_or]
  simp

theorem eq_nil_of_errors {issues : List ValidationIssue} (hOk : ∀ i ∈ issues, i.severity ≠ .error)
    (hErrors : ∀ i ∈ issues, i.severity = .error) : issues = [] := by
  rw [List.eq_nil_iff_forall_not_mem]
  intro i hi
  exact hOk i hi (hErrors i hi)

theorem checkRequiredFields_of_ok {uid : UidField} {pid context : String}
    (h : ∀ i ∈ checkRequiredFields uid pid context, i.severity ≠ .error) :
    (shownUid uid ≠ 0 ∧ shownUid uid ≤ maxSafeJsonInt) ∧ pid ≠ "" :=
  checkRequiredFields_eq_nil_iff.mp (eq_nil_of_errors h fun _ hi => severity_of_mem_checkRequiredFields hi)

theorem nodup_of_ok {uids : List Nat} (h : ∀ i ∈ checkDuplicateUids [] uids, i.severity ≠ .error)
    (hNonzero : ∀ uid ∈ uids, uid ≠ 0) : uids.Nodup := by
  have hUnique := (checkDuplicateUids_eq_nil_iff.mp
    (eq_nil_of_errors h fun i hi => severity_of_mem_checkDuplicateUids hi)).1
  rwa [List.filter_eq_self.mpr fun uid hUid => by simpa using hNonzero uid hUid] at hUnique

theorem required_of_checkSignal {sectionUids : List Nat} {sig : SignalDoc} {issues : List ValidationIssue}
    (h : checkSignal sectionUids sig = .ok issues) : checkRequiredFields sig.uid sig.pid "signal" ⊆ issues := by
  obtain ⟨governs, -, h⟩ := bind_ok h
  cases h
  rw [List.append_assoc]
  exact List.subset_append_left _ _

theorem shownUid_of_mem_collectUids {α : Type} {uid : α → UidField} {docs : List α} {value : Nat}
    (h : value ∈ collectUids (docs.map uid)) : ∃ j ∈ docs, shownUid (uid j) = value := by
  obtain ⟨j, hj, hUid⟩ := mem_collectUids.mp h
  exact ⟨j, hj, by rw [hUid]; rfl⟩

/-- The UIDs of the boundary nodes, sections, switches and signals of an accepted scenario are all different. -/
theorem Accepted.nodup {dir : ScenarioDir} (h : Accepted dir) :
    (allUids dir.topologyJson (dir.objectsJson.getD {})).Nodup := by
  obtain ⟨result, hResult, hOk⟩ := h
  obtain ⟨switchIzUids, -, hResult⟩ := bind_ok hResult
  obtain ⟨signals, hSignals, hResult⟩ := bind_ok hResult
  cases hResult
  simp only [ValidationResult.ok, List.all_eq_true, decide_eq_true_eq, List.forall_mem_append,
    List.forall_mem_flatMap] at hOk
  obtain ⟨⟨⟨⟨hNodes, hSections⟩, hSwitches⟩, hSignalIssues⟩, hDuplicates⟩ := hOk
  refine nodup_of_ok hDuplicates fun uid hUid => ?_
  simp only [allUids, List.mem_append, List.mem_map] at hUid
  rcases hUid with ((hUid | ⟨ot, hOt, rfl⟩) | hUid) | ⟨sig, hSig, rfl⟩
  · obtain ⟨node, hNode, rfl⟩ := shownUid_of_mem_collectUids hUid
    exact (checkRequiredFields_of_ok (hNodes node hNode)).1.1
  · exact (checkRequiredFields_of_ok fun i hi => hSections ot hOt i (List.mem_append_left _ hi)).1.1
  · obtain ⟨sw, hSw, rfl⟩ := shownUid_of_mem_collectUids hUid
    exact (checkRequiredFields_of_ok (hSwitches sw hSw)).1.1
  · obtain ⟨issues, hIssues, hCheck⟩ := mapM_ok hSignals sig hSig
    exact (checkRequiredFields_of_ok fun i hi =>
      hSignalIssues i (List.mem_flatten.mpr ⟨issues, hIssues, required_of_checkSignal hCheck hi⟩)).1.1

end Symulator.Validation.Layer1
