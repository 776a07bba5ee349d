import Symulator.Engine.SpawnResolver
import Symulator.Engine.TrainMoves
import Symulator.Trains.Onward

/-! # Spawning at a boundary

The section at a boundary node is searched for among all sections, in no particular order. A train that is spawned
on it comes from the boundary node, so that the other side of the section lies ahead.
-/

namespace Symulator.Trains

open Symulator.Library Symulator.Engine

set_option autoImplicit false

def stateView (s : EngineState) : EngineSnapshot where
  session := s.sessionId
  tick := s.currentTick
  boundaryNodes := s.boundaryNodes
  trackSections := s.trackSections
  switches := s.switches
  signals := s.signals
  derailers := s.derailers
  blockSections := s.blockSections
  routes := s.routes
  alarms := s.alarms
  levelCrossings := s.levelCrossings

def Adjoins (boundaryUid : UID) (ts : TrackSection) : Prop :=
  ts.sideA.neighborUid = boundaryUid ∨ ts.sideB.neighborUid = boundaryUid

/-- The boundary exists, and `sec` is the only section at it and free. -/
structure OnlyFree (s : EngineState) (boundaryUid : UID) (sec : TrackSection) : Prop where
  boundary : (s.findBoundaryNode boundaryUid).isSome = true
  found : s.findTrackSection sec.uid = some sec
  adjoins : Adjoins boundaryUid sec
  only : ∀ other ∈ s.trackSections.values, Adjoins boundaryUid other → other = sec
  free : sec.occupancy = .free

/-- Where a train gets that leaves section `currentUid` by the port. -/
def leaveBy (state : EngineState) (currentUid : UID) (port : TrackPort) : NextSectionInfo :=
  if port.neighborUid.value = 0 then {}
  else if (state.findTrackSection port.neighborUid).isSome then
    { sectionUid := some port.neighborUid, fromUid := currentUid }
  else
    match state.findSwitch port.neighborUid with
    | some sw => traverseSwitch sw currentUid port.neighborUid
    | none => { isBoundaryCrossing := true }

def Opposite (boundaryUid : UID) (sec : TrackSection) (port : TrackPort) : Prop :=
  sec.sideA.neighborUid = boundaryUid ∧ port = sec.sideB ∨ sec.sideB.neighborUid = boundaryUid ∧ port = sec.sideA

/-- Among the sections of a map there is exactly one at the boundary. -/
theorem filter_eq_singleton_iff {m : KeyedMap UID TrackSection} {boundaryUid : UID} {sec : TrackSection} :
    (m.values.filter fun ts => ts.sideA.neighborUid = boundaryUid ∨ ts.sideB.neighborUid = boundaryUid) = [sec] ↔
      m.find sec.uid = some sec ∧ Adjoins boundaryUid sec ∧
        ∀ other ∈ m.values, Adjoins boundaryUid other → other = sec := by
  have hNodup : m.values.Nodup := List.Nodup.of_map _ m.nodup
  constructor
  · intro hFilter
    have hMem : ∀ ts, ts ∈ [sec] ↔ ts ∈ m.values ∧ Adjoins boundaryUid ts := by
      intro ts
      rw [← hFilter, List.mem_filter, decide_eq_true_eq]
      rfl
    obtain ⟨hIn, hAdjoins⟩ := (hMem sec).mp (List.mem_singleton_self sec)
    refine ⟨KeyedMap.find_key hIn, hAdjoins, fun other hOther hAlso => ?_⟩
    exact List.mem_singleton.mp ((hMem other).mpr ⟨hOther, hAlso⟩)
  · rintro ⟨hFind, hAdjoins, hOnly⟩
    have hIn := (KeyedMap.find_eq_some_iff.mp hFind).1
    refine List.perm_singleton.mp ((List.perm_ext_iff_of_nodup (hNodup.filter _) (List.nodup_singleton sec)).mpr ?_)
    intro ts
    rw [List.mem_filter, decide_eq_true_eq, List.mem_singleton]
    constructor
    · rintro ⟨hTs, hAlso⟩
      exact hOnly ts hTs hAlso
    · rintro rfl
      exact ⟨hIn, hAdjoins⟩

theorem resolve_ok_iff {s : EngineState} {boundaryUid : UID} {point : SpawnPoint} :
    resolveSpawnAtBoundary (stateView s) boundaryUid = .ok point ↔
      ∃ sec, OnlyFree s boundaryUid sec ∧ point = { sectionUid := sec.uid, fromUid := boundaryUid } := by
  unfold resolveSpawnAtBoundary
  constructor
  · intro hOk
    split at hOk
    · cases hOk
    · rename_i hBoundary
      split at hOk
      · cases hOk
      · rename_i sec hFilter
        split at hOk
        · cases hOk
        · rename_i hFree
          cases hOk
          have hKnown : (s.findBoundaryNode boundaryUid).isSome = true :=
            Option.isSome_iff_ne_none.mpr fun hNone => hBoundary (Option.isNone_iff_eq_none.mpr hNone)
          obtain ⟨hFind, hAdjoins, hOnly⟩ := filter_eq_singleton_iff.mp hFilter
          exact ⟨sec, ⟨hKnown, hFind, hAdjoins, hOnly, Decidable.not_not.mp hFree⟩, rfl⟩
      · cases hOk
  · rintro ⟨sec, hOnlyFree, rfl⟩
    have hBoundary : ¬ ((stateView s).boundaryNodes.find boundaryUid).isNone = true := by
      rw [Option.isNone_iff_eq_none]
      exact Option.isSome_iff_ne_none.mp hOnlyFree.boundary
    have hFilter := filter_eq_singleton_iff.mpr ⟨hOnlyFree.found, hOnlyFree.adjoins, hOnlyFree.only⟩
    rw [if_neg hBoundary]
    simp only [stateView, hFilter, hOnlyFree.free, ne_eq, not_true_eq_false, if_false]

theorem resolve_perm {s t : EngineState} (hBoundaries : t.boundaryNodes.values.Perm s.boundaryNodes.values)
    (hSections : t.trackSections.values.Perm s.trackSections.values) (boundaryUid : UID) :
    resolveSpawnAtBoundary (stateView t) boundaryUid = resolveSpawnAtBoundary (stateView s) boundaryUid := by
  have hKnown : (t.boundaryNodes.find boundaryUid).isNone = (s.boundaryNodes.find boundaryUid).isNone := by
    rw [Bool.eq_iff_iff, Option.isNone_iff_eq_none, Option.isNone_iff_eq_none, KeyedMap.find_eq_none_iff,
      KeyedMap.find_eq_none_iff]
    exact forall_congr' fun node => imp_congr_left hBoundaries.mem_iff
  have hAdjacent := hSections.filter fun ts =>
    decide (ts.sideA.neighborUid = boundaryUid ∨ ts.sideB.neighborUid = boundaryUid)
  unfold resolveSpawnAtBoundary
  simp only [stateView, hKnown]
  generalize (t.trackSections.values.filter _) = found at hAdjacent ⊢
  generalize (s.trackSections.values.filter _) = found' at hAdjacent ⊢
  have hLength := hAdjacent.length_eq
  cases found with
  | nil =>
    rw [List.perm_nil.mp hAdjacent.symm]
    rfl
  | cons first rest =>
    cases rest with
    | nil =>
      rw [List.perm_singleton.mp hAdjacent.symm]
      rfl
    | cons second rest =>
      cases found' with
      | nil => cases hLength
      | cons first' rest' =>
        cases rest' with
        | nil => cases hLength
        | cons second' rest' => rfl

section Spawned

variable {φ : Type}

theorem resolveNextSection_eq_leaveBy {s : EngineState} {uid : UID} {sec : TrackSection}
    (hFind : s.findTrackSection uid = some sec) (fromUid : UID) :
    resolveNextSection s uid fromUid = leaveBy s uid (aheadPort sec fromUid) := by
  unfold resolveNextSection
  rw [hFind]
  rfl

/-- A train spawned at the boundary goes out by the port opposite the boundary, whatever happens to the state
before it is first asked where to go. -/
theorem leaves_opposite {s t : EngineState} (hTopology : s.topology = t.topology) {boundaryUid : UID}
    {sec : TrackSection} (hFind : s.findTrackSection sec.uid = some sec) (hAdjoins : Adjoins boundaryUid sec)
    (hApart : sec.sideA.neighborUid ≠ sec.sideB.neighborUid) :
    ∃ sec' port, t.findTrackSection sec.uid = some sec' ∧ Opposite boundaryUid sec' port ∧
      resolveNextSection t sec.uid boundaryUid = leaveBy t sec.uid port := by
  obtain ⟨sec', hFind', hSideA, hSideB⟩ := sides_of_topology hTopology hFind
  refine ⟨sec', aheadPort sec' boundaryUid, hFind', ?_, resolveNextSection_eq_leaveBy hFind' boundaryUid⟩
  rw [← hSideA, ← hSideB] at hApart
  rw [Adjoins, ← hSideA, ← hSideB] at hAdjoins
  exact opposite_of_aheadPort hApart hAdjoins

/-- A spawn point is found exactly where a known boundary has one section and that is free, whatever the order of
the sections. A spawn there succeeds, and the train sets out on the side away from the boundary. -/
theorem spawnAtBoundary_sound (s : EngineState) (boundaryUid : UID) :
    (∀ point, resolveSpawnAtBoundary (stateView s) boundaryUid = .ok point ↔
      ∃ sec, OnlyFree s boundaryUid sec ∧ point = { sectionUid := sec.uid, fromUid := boundaryUid }) ∧
    (∀ t : EngineState, t.boundaryNodes.values.Perm s.boundaryNodes.values →
      t.trackSections.values.Perm s.trackSections.values →
      resolveSpawnAtBoundary (stateView t) boundaryUid = resolveSpawnAtBoundary (stateView s) boundaryUid) ∧
    ∀ point, resolveSpawnAtBoundary (stateView s) boundaryUid = .ok point →
      ∀ (fleet : List (TrainEntry φ)) (initial : TrainSimState φ), initial.currentSectionUid = point.sectionUid →
        ∃ sec spawned, s.findTrackSection point.sectionUid = some sec ∧
          spawn s fleet initial point.fromUid =
            .ok (spawned, fleet ++ [{ sim := initial, fromUid := point.fromUid }]) ∧
          (sec.sideA.neighborUid ≠ sec.sideB.neighborUid → ∀ t : EngineState, t.topology = spawned.topology →
            ∃ sec' port, t.findTrackSection point.sectionUid = some sec' ∧ Opposite boundaryUid sec' port ∧
              resolveNextSection t point.sectionUid point.fromUid = leaveBy t point.sectionUid port) := by
  refine ⟨fun point => resolve_ok_iff, fun t hBoundaries hSections => resolve_perm hBoundaries hSections boundaryUid,
    ?_⟩
  intro point hPoint fleet initial hSection
  obtain ⟨sec, hOnlyFree, rfl⟩ := resolve_ok_iff.mp hPoint
  have hFree : ∃ sec, s.findTrackSection initial.currentSectionUid = some sec ∧ sec.occupancy = .free :=
    ⟨sec, by rw [hSection]; exact hOnlyFree.found, hOnlyFree.free⟩
  refine ⟨sec, _, hOnlyFree.found, spawn_eq_ok.mpr ⟨hFree, rfl, rfl⟩, ?_⟩
  intro hApart t hTopology
  rw [topology_applyTrackSectionOccupancy] at hTopology
  exact leaves_opposite hTopology.symm hOnlyFree.found hOnlyFree.adjoins hApart

end Spawned

end Symulator.Trains
