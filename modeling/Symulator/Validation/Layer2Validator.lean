import Symulator.Engine.TopologyLoader

/-! # Layer 2 validation

Consistency of a scenario across its files: the scope of its UIDs, and the references between sections,
switches, boundary nodes and signals. A neighbour of a section is looked up by the kind in its UID.
-/

namespace Symulator.Validation

open Symulator.Library Symulator.Engine

set_option autoImplicit false

inductive Severity
  | warning | error
deriving DecidableEq, Repr

structure ValidationIssue where
  severity : Severity
  code : String
  message : String
  gid : Option String := none

structure ValidationResult where
  issues : List ValidationIssue := []

def ValidationResult.ok (result : ValidationResult) : Bool :=
  result.issues.all fun issue => issue.severity ≠ .error

/-- The value of a field that holds an unsigned number. -/
def unsignedValue : UidField → Option Nat
  | .unsigned value => some value
  | .missing | .invalid => none

def collectUids (uids : List UidField) : List Nat := uids.filterMap unsignedValue

def shownUid (uid : UidField) : Nat := (unsignedValue uid).getD 0

def kindByte (uid : Nat) : Nat := (uid >>> 32) &&& 0xFF

def issue (code message : String) : ValidationIssue := { severity := .error, code, message }

def checkScope (stationInstance : Int) (kind : String) (uids : List UidField) : List ValidationIssue :=
  (collectUids uids).flatMap fun uid =>
    let scope : Int := (uidScope ⟨uid⟩).toNat
    if scope ≠ stationInstance then
      [issue "L2-001"
        (kind ++ " uid=" ++ toString uid ++ " has SCOPE=" ++ toString scope ++
          " but expected station_instance=" ++ toString stationInstance)]
    else []

def checkSide (topology : TopologyDoc) (uid : UidField) (side : String) (port : TrackPortDoc) :
    List ValidationIssue :=
  match unsignedValue port.neighborUid with
  | none => []
  | some neighbor =>
    let reference := "track_section uid=" ++ toString (shownUid uid) ++ " " ++ side ++ ".neighborUID=" ++
      toString neighbor ++ " references unknown "
    if neighbor = 0 then []
    else if kindByte neighbor = 0x14 then
      if neighbor ∈ collectUids (topology.switches.map SwitchDoc.uid) then []
      else [issue "L2-002" (reference ++ "switch")]
    else if kindByte neighbor = 0x18 then
      if neighbor ∈ collectUids (topology.boundaryNodes.map BoundaryNodeDoc.uid) then []
      else [issue "L2-003" (reference ++ "boundary_node")]
    else []

def checkLeg (topology : TopologyDoc) (uid : UidField) (leg : String) (l : SwitchLegDoc) :
    List ValidationIssue :=
  match unsignedValue l.neighborUid with
  | none => []
  | some neighbor =>
    if neighbor = 0 then []
    else if neighbor ∈ collectUids (topology.trackSections.map TrackSectionDoc.uid) ∨
        neighbor ∈ collectUids (topology.boundaryNodes.map BoundaryNodeDoc.uid) then []
    else
      [issue "L2-004"
        ("switch uid=" ++ toString (shownUid uid) ++ " " ++ leg ++ ".neighborUID=" ++ toString neighbor ++
          " references unknown track_section or boundary_node")]

def checkGoverns (topology : TopologyDoc) (sig : SignalDoc) : List ValidationIssue :=
  match unsignedValue sig.governsSection with
  | none => []
  | some sectionUid =>
    if sectionUid = 0 ∨ sectionUid ∈ collectUids (topology.trackSections.map TrackSectionDoc.uid) then []
    else
      [issue "L2-005"
        ("signal uid=" ++ toString (shownUid sig.uid) ++ " governs_section=" ++ toString sectionUid ++
          " references unknown track_section")]

def validate (stationInstance : Int) (topology : TopologyDoc) (objects : ObjectsDoc) : ValidationResult where
  issues :=
    checkScope stationInstance "boundary_node" (topology.boundaryNodes.map BoundaryNodeDoc.uid) ++
      checkScope stationInstance "track_section" (topology.trackSections.map TrackSectionDoc.uid) ++
      checkScope stationInstance "switch" (topology.switches.map SwitchDoc.uid) ++
      checkScope stationInstance "signal" (objects.signals.map SignalDoc.uid) ++
      topology.trackSections.flatMap (fun ot =>
        checkSide topology ot.uid "sideA" ot.sideA ++ checkSide topology ot.uid "sideB" ot.sideB) ++
      topology.switches.flatMap (fun sw =>
        checkLeg topology sw.uid "trunk" sw.trunk ++ checkLeg topology sw.uid "straight" sw.straight ++
          checkLeg topology sw.uid "divergent" sw.divergent) ++
      objects.signals.flatMap (checkGoverns topology)

/-- Some station number makes the scenario pass without errors. -/
def Accepted (dir : ScenarioDir) : Prop :=
  ∃ stationInstance, (validate stationInstance dir.topologyJson (dir.objectsJson.getD {})).ok = true

/-! ## What acceptance says -/

/-- The layer reports errors only, so that a scenario is accepted when nothing at all is reported. -/
theorem severity_of_mem_issues {stationInstance : Int} {topology : TopologyDoc} {objects : ObjectsDoc}
    {i : ValidationIssue} (h : i ∈ (validate stationInstance topology objects).issues) :
    i.severity = .error := by
  simp only [validate, List.mem_append, List.mem_flatMap] at h
  rcases h with (((((h | h) | h) | h) | ⟨_, _, h | h⟩) | ⟨_, _, (h | h) | h⟩) | ⟨_, _, h⟩
  case inl.inl.inl.inl.inl.inl | inl.inl.inl.inl.inl.inr | inl.inl.inl.inl.inr | inl.inl.inl.inr =>
    obtain ⟨uid, _, h⟩ := List.mem_flatMap.mp h
    dsimp only at h
    split at h
    · rw [List.mem_singleton.mp h]
      rfl
    · cases h
  all_goals
    simp only [checkSide, checkLeg, checkGoverns] at h
    repeat' split at h
    all_goals first | (rw [List.mem_singleton.mp h]; rfl) | cases h

theorem ok_iff {stationInstance : Int} {topology : TopologyDoc} {objects : ObjectsDoc} :
    (validate stationInstance topology objects).ok = true ↔
      (validate stationInstance topology objects).issues = [] := by
  constructor
  · intro h
    rw [List.eq_nil_iff_forall_not_mem]
    intro i hi
    exact of_decide_eq_true (List.all_eq_true.mp h i hi) (severity_of_mem_issues hi)
  · intro h
    rw [ValidationResult.ok, h]
    rfl

/-- The leg leads nowhere, or to a section or a boundary node of the scenario. -/
def LegKnown (topology : TopologyDoc) (neighbor : Nat) : Prop :=
  neighbor = 0 ∨ neighbor ∈ collectUids (topology.trackSections.map TrackSectionDoc.uid) ∨
    neighbor ∈ collectUids (topology.boundaryNodes.map BoundaryNodeDoc.uid)

theorem checkLeg_eq_nil_iff {topology : TopologyDoc} {uid : UidField} {leg : String} {l : SwitchLegDoc}
    {neighbor : Nat} (hLeg : l.neighborUid = .unsigned neighbor) :
    checkLeg topology uid leg l = [] ↔ LegKnown topology neighbor := by
  simp only [checkLeg, hLeg, unsignedValue, LegKnown]
  by_cases hZero : neighbor = 0
  · simp [hZero]
  · simp [hZero, or_iff_not_imp_left]

theorem Accepted.legKnown {dir : ScenarioDir} (h : Accepted dir) {j : SwitchDoc}
    (hj : j ∈ dir.topologyJson.switches) {sw : Switch} (hLoads : j.Loads sw) {leg : SwitchLeg}
    (hLeg : leg ∈ [sw.trunk, sw.straight, sw.divergent]) :
    LegKnown dir.topologyJson leg.neighborUid.value := by
  obtain ⟨stationInstance, hOk⟩ := h
  have hIssues := ok_iff.mp hOk
  simp only [validate, List.append_eq_nil_iff, List.flatMap_eq_nil_iff] at hIssues
  obtain ⟨⟨-, hSwitches⟩, -⟩ := hIssues
  obtain ⟨⟨hTrunk, hStraight⟩, hDivergent⟩ := hSwitches j hj
  simp only [List.mem_cons, List.not_mem_nil, or_false] at hLeg
  rcases hLeg with rfl | rfl | rfl
  · exact (checkLeg_eq_nil_iff hLoads.trunk).mp hTrunk
  · exact (checkLeg_eq_nil_iff hLoads.straight).mp hStraight
  · exact (checkLeg_eq_nil_iff hLoads.divergent).mp hDivergent

/-! ## Accepted worlds -/

theorem unsignedValue_eq_some {field : UidField} {value : Nat} :
    unsignedValue field = some value ↔ field = .unsigned value := by
  cases field <;> simp [unsignedValue]

theorem mem_collectUids {α : Type} {uid : α → UidField} {docs : List α} {value : Nat} :
    value ∈ collectUids (docs.map uid) ↔ ∃ j ∈ docs, uid j = .unsigned value := by
  simp only [collectUids, List.mem_filterMap, List.mem_map, exists_exists_and_eq_and, unsignedValue_eq_some]

/-- In a world loaded from accepted scenarios a switch leg leads nowhere, to a section or to a boundary
node: never from switch to switch, unless two objects share a UID. -/
theorem leg_of_accepted {dirs : List ScenarioDir} {s : EngineState} {results : List ScenarioMeta}
    (h : loadWorld {} dirs = .ok (s, results)) (hAccepted : ∀ dir ∈ dirs, Accepted dir) {u : UID} {sw : Switch}
    (hFind : s.findSwitch u = some sw) {leg : SwitchLeg} (hLeg : leg ∈ [sw.trunk, sw.straight, sw.divergent]) :
    leg.neighborUid.value = 0 ∨ (s.findTrackSection leg.neighborUid).isSome = true ∨
      (s.findBoundaryNode leg.neighborUid).isSome = true := by
  obtain ⟨dir, hDir, j, hj, hLoads⟩ := exists_switchDoc_of_loadWorld h (KeyedMap.find_eq_some_iff.mp hFind).1
  rcases (hAccepted dir hDir).legKnown hj hLoads hLeg with hZero | hSection | hNode
  · exact Or.inl hZero
  · obtain ⟨ts, hTs, hUid⟩ := mem_collectUids.mp hSection
    exact Or.inr (Or.inl (isSome_findTrackSection_of_loadWorld h hDir hTs hUid))
  · obtain ⟨n, hN, hUid⟩ := mem_collectUids.mp hNode
    exact Or.inr (Or.inr (isSome_findBoundaryNode_of_loadWorld h hDir hN hUid))

end Symulator.Validation
