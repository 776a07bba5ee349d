import Symulator.Engine.TrainFleet
import Symulator.Srk.RouteMap

/-! # Driving over a granted route

A train steps from section to section, through the switch between them if there is one. The route search
walks the same topology node by node, over switches in any direction. Where the two agree on a switch, a
train drives exactly the sections of a granted route.
-/

namespace Symulator.Interlocking

open Symulator.Library Symulator.Engine Symulator.Srk

set_option autoImplicit false

def isSection (s : EngineState) (u : UID) : Bool := (s.findTrackSection u).isSome

def switchLegs (s : EngineState) (u : UID) : Option SwitchTopology := (s.findSwitch u).map Switch.topology

/-- Sections and switches that list each other do so in both directions. A search that starts at a node
is shown all the neighbours the node lists. -/
def Symmetric (s : EngineState) : Prop :=
  ∀ x y : UID, x.value ≠ 0 → y.value ≠ 0 → isTraversableNode s x = true → isTraversableNode s y = true →
    (y ∈ topologyNeighbors s x {} ↔ x ∈ topologyNeighbors s y {})

/-- A train on section `cur` that came from `fromUid` runs over the given sections one after the other
and forces no switch. -/
def Drives (s : EngineState) : UID → UID → List UID → Prop
  | _, _, [] => True
  | cur, fromUid, next :: later =>
    (resolveNextSection s cur fromUid).sectionUid = some next ∧
      (resolveNextSection s cur fromUid).trailedSwitchUid = none ∧
      Drives s next (resolveNextSection s cur fromUid).fromUid later

/-- The switch `u`, entered from `x`, lies between two sections of the path, with its trunk towards one
of them. If that is the second one, only one of its legs leads back to the first. -/
def Passable (s : EngineState) (x u : UID) (after : List UID) : Prop :=
  isSection s x = true ∧ ∃ y later legs, after = y :: later ∧ isSection s y = true ∧ switchLegs s u = some legs ∧
    (legs.trunk = x ∨ legs.trunk = y ∧ ¬ (legs.straight = x ∧ legs.divergent = x))

/-- Every switch of the path that a section of the path comes after is passable. -/
def Drivable (s : EngineState) : List UID → Prop
  | x :: u :: after =>
    (isSection s u = false → after.any (isSection s) = true → Passable s x u after) ∧ Drivable s (u :: after)
  | _ => True

/-- One of the ends of the switch leads to `u`. -/
def Joins (sw : Switch) (u : UID) : Prop :=
  sw.trunk.neighborUid = u ∨ sw.straight.neighborUid = u ∨ sw.divergent.neighborUid = u

/-! ## One step of a train -/

section Stepper

variable {s : EngineState} {x fromUid v : UID} {ts : TrackSection} {sw : Switch}

theorem resolveNextSection_section (hx : s.findTrackSection x = some ts)
    (hAhead : (aheadPort ts fromUid).neighborUid = v) (hv : v.value ≠ 0) (hSection : isSection s v = true) :
    resolveNextSection s x fromUid = { sectionUid := some v, fromUid := x } := by
  simp only [resolveNextSection, hx, hAhead, if_neg hv]
  exact if_pos hSection

theorem resolveNextSection_switch (hx : s.findTrackSection x = some ts)
    (hAhead : (aheadPort ts fromUid).neighborUid = v) (hv : v.value ≠ 0) (hSection : isSection s v = false)
    (hFind : s.findSwitch v = some sw) : resolveNextSection s x fromUid = traverseSwitch sw x v := by
  have hNot : ¬ (s.findTrackSection v).isSome = true := by
    rw [isSection] at hSection
    rw [hSection]
    decide
  simp only [resolveNextSection, hx, hAhead, if_neg hv, if_neg hNot, hFind]

/-- A train gets from `x` over the switch to `y` when the switch stands as a route needs it and is passable
in that direction. -/
theorem traverseSwitch_required {y : UID} (hListed : Joins sw x) (hNext : Joins sw y) (hApart : y ≠ x)
    (hy : y.value ≠ 0)
    (hTrunk : sw.trunk.neighborUid = x ∨ sw.trunk.neighborUid = y ∧
      ¬ (sw.straight.neighborUid = x ∧ sw.divergent.neighborUid = x))
    (hPosition : sw.position = requiredSwitchPosition sw x y) :
    traverseSwitch sw x v = { sectionUid := some y, fromUid := v } := by
  unfold requiredSwitchPosition at hPosition
  unfold traverseSwitch
  by_cases hFrom : sw.trunk.neighborUid = x
  · have hLeg : sw.straight.neighborUid = y ∨ sw.divergent.neighborUid = y :=
      hNext.resolve_left fun hEq => hApart (hEq.symm.trans hFrom)
    by_cases hStraight : sw.straight.neighborUid = y
    · rw [if_pos ⟨hFrom, hStraight⟩] at hPosition
      simp [hPosition, hFrom, hStraight, hy]
    · have hDivergent : sw.divergent.neighborUid = y := hLeg.resolve_left hStraight
      rw [if_neg (fun hAnd => hStraight hAnd.2), if_pos ⟨hFrom, hDivergent⟩] at hPosition
      simp [hPosition, hFrom, hDivergent, hy]
  · obtain ⟨hTo, hOne⟩ := hTrunk.resolve_left hFrom
    rw [if_neg (fun hAnd => hFrom hAnd.1), if_neg (fun hAnd => hFrom hAnd.1)] at hPosition
    by_cases hStraight : sw.straight.neighborUid = x
    · have hDivergent : sw.divergent.neighborUid ≠ x := fun hEq => hOne ⟨hStraight, hEq⟩
      rw [if_pos hStraight] at hPosition
      simp [hPosition, hTo, hApart, hDivergent, hy]
    · have hDivergent : sw.divergent.neighborUid = x :=
        (hListed.resolve_left hFrom).resolve_left hStraight
      rw [if_neg hStraight, if_pos hDivergent] at hPosition
      simp [hPosition, hTo, hApart, hStraight, hy]

/-- Whatever way the switch stands, a train that gets over it unforced came from the trunk, or goes to the
trunk with one leg only behind it. -/
theorem traverseSwitch_inv {d : UID} (hNext : (traverseSwitch sw x v).sectionUid = some d)
    (hForced : (traverseSwitch sw x v).trailedSwitchUid = none) :
    (traverseSwitch sw x v).fromUid = v ∧
      (sw.trunk.neighborUid = x ∧ (sw.straight.neighborUid = d ∨ sw.divergent.neighborUid = d) ∨
        sw.trunk.neighborUid ≠ x ∧ sw.trunk.neighborUid = d ∧
          ¬ (sw.straight.neighborUid = x ∧ sw.divergent.neighborUid = x)) := by
  unfold traverseSwitch at hNext hForced ⊢
  by_cases hMoving : sw.position = .moving
  · rw [if_pos hMoving] at hNext
    cases hNext
  · rw [if_neg hMoving] at hNext hForced ⊢
    by_cases hFrom : sw.trunk.neighborUid = x
    · rw [if_pos hFrom] at hNext ⊢
      obtain ⟨hExit, hInfo, -⟩ := eq_of_exit hNext
      refine ⟨congrArg NextSectionInfo.fromUid hInfo, Or.inl ⟨hFrom, ?_⟩⟩
      by_cases hStraight : sw.position = .straight
      · rw [if_pos hStraight] at hExit
        exact Or.inl hExit
      · rw [if_neg hStraight] at hExit
        exact Or.inr hExit
    · rw [if_neg hFrom] at hNext hForced ⊢
      obtain ⟨hExit, hInfo, -⟩ := eq_of_exit hNext
      have hTrailed := congrArg NextSectionInfo.trailedSwitchUid hInfo
      refine ⟨congrArg NextSectionInfo.fromUid hInfo, Or.inr ⟨hFrom, hExit, ?_⟩⟩
      rintro ⟨hStraight, hDivergent⟩
      -- with both legs behind, one of them is the wrong one
      have hWrong : (sw.straight.neighborUid = x ∧ sw.position ≠ .straight) ∨
          (sw.divergent.neighborUid = x ∧ sw.position ≠ .divergent) := by
        by_cases hStands : sw.position = .straight
        · exact Or.inr ⟨hDivergent, by rw [hStands]; decide⟩
        · exact Or.inl ⟨hStraight, hStands⟩
      rw [hForced] at hTrailed
      simp only [if_pos hWrong] at hTrailed
      cases hTrailed

end Stepper

/-! ## Along the path -/

theorem topologyNeighbors_section {s : EngineState} {x : UID} {ts : TrackSection}
    (hx : s.findTrackSection x = some ts) (cameFrom : UID) : topologyNeighbors s x cameFrom =
      if cameFrom.value = 0 then [ts.sideA.neighborUid, ts.sideB.neighborUid]
      else if ts.sideA.neighborUid = cameFrom then [ts.sideB.neighborUid]
      else if ts.sideB.neighborUid = cameFrom then [ts.sideA.neighborUid]
      else [] := by
  simp only [topologyNeighbors, hx]

theorem mem_topologyNeighbors_switch {s : EngineState} {u : UID} {sw : Switch} (hu : isSection s u = false)
    (hFind : s.findSwitch u = some sw) {cameFrom y : UID} :
    y ∈ topologyNeighbors s u cameFrom ↔ Joins sw y ∧ y ≠ cameFrom := by
  have hNone : s.findTrackSection u = none := Option.isSome_eq_false_iff.mp hu |> Option.isNone_iff_eq_none.mp
  simp only [topologyNeighbors, hNone, hFind, List.mem_filter, List.mem_cons, List.not_mem_nil, or_false,
    decide_eq_true_eq, ne_eq, Joins]
  refine and_congr_left fun _ => ?_
  rw [eq_comm, @eq_comm _ y sw.straight.neighborUid, @eq_comm _ y sw.divergent.neighborUid]

theorem ne_zero_of_value {x : UID} (h : x.value ≠ 0) : x ≠ {} := by
  rintro rfl
  exact h rfl

/-- What a node shows to a search that comes from somewhere it shows to one that starts there. -/
theorem mem_undirected {s : EngineState} {x w y : UID} (hy : y.value ≠ 0) (h : y ∈ topologyNeighbors s x w) :
    y ∈ topologyNeighbors s x {} := by
  cases hSection : s.findTrackSection x with
  | some ts =>
    rw [topologyNeighbors_section hSection] at h ⊢
    simp only [if_true, List.mem_cons, List.not_mem_nil, or_false]
    split at h
    · simpa using h
    · split at h
      · exact Or.inr (List.mem_singleton.mp h)
      · split at h
        · exact Or.inl (List.mem_singleton.mp h)
        · cases h
  | none =>
    have hOther : isSection s x = false := by rw [isSection, hSection]; rfl
    cases hSwitch : s.findSwitch x with
    | some sw =>
      rw [mem_topologyNeighbors_switch hOther hSwitch] at h ⊢
      exact ⟨h.1, ne_zero_of_value hy⟩
    | none =>
      simp only [topologyNeighbors, hSection, hSwitch] at h
      cases h

/-- A train that came from one side of a section and not from `v` has `v` ahead. -/
theorem ahead_of_from {s : EngineState} {x fromUid v : UID} {ts : TrackSection} (hx : s.findTrackSection x = some ts)
    (hNext : v ∈ topologyNeighbors s x {})
    (hFrom : fromUid = ts.sideA.neighborUid ∨ fromUid = ts.sideB.neighborUid) (hBack : fromUid ≠ v) :
    (aheadPort ts fromUid).neighborUid = v := by
  rw [topologyNeighbors_section hx, if_pos rfl, List.mem_cons, List.mem_singleton] at hNext
  unfold aheadPort
  by_cases hA : ts.sideA.neighborUid = fromUid
  · rw [if_pos hA]
    exact (hNext.resolve_left fun hEq => hBack (hA.symm.trans hEq.symm)).symm
  · rw [if_neg hA]
    have hB : fromUid = ts.sideB.neighborUid := hFrom.resolve_left fun hEq => hA hEq.symm
    exact (hNext.resolve_right fun hEq => hBack (hB.trans hEq.symm)).symm

section Path

variable {s : EngineState} {start goal : UID} {path : List UID}
  (h : FoundPath {} (topologyNeighbors s) (isTraversableNode s) start goal path)

include h

theorem value_ne_zero {u : UID} (hu : u ∈ path) : u.value ≠ 0 := by
  intro hZero
  apply h.nonzero
  have hEq : u = {} := by
    cases u
    cases hZero
    rfl
  exact hEq ▸ hu

/-- A train that comes from the node before heads for the node after. -/
theorem ahead_on_path {before : List UID} {w x v : UID} {ys : List UID}
    (hPath : path = before ++ w :: x :: v :: ys) {ts : TrackSection} (hx : s.findTrackSection x = some ts) :
    (aheadPort ts w).neighborUid = v := by
  have hWalk := h.walk
  rw [hPath, List.append_cons] at hWalk
  have hNext := (hWalk.walk_append).1
  rw [List.getLastD_concat, topologyNeighbors_section hx] at hNext
  have hw : w.value ≠ 0 := value_ne_zero h (by rw [hPath]; simp)
  rw [if_neg hw] at hNext
  unfold aheadPort
  split at hNext
  · rename_i hA
    rw [if_pos hA]
    exact (List.mem_singleton.mp hNext).symm
  · rename_i hA
    rw [if_neg hA]
    split at hNext
    · exact (List.mem_singleton.mp hNext).symm
    · cases hNext

/-- The search leaves a switch for the only node ahead on the path that the switch leads to. -/
theorem next_on_path {before : List UID} {x u y : UID} {after : List UID}
    (hPath : path = before ++ x :: u :: y :: after) (hu : isSection s u = false) :
    ∃ sw, s.findSwitch u = some sw ∧ Joins sw y ∧ y ≠ x ∧ ∀ z ∈ y :: after, Joins sw z → z = y := by
  have hWalk := h.walk
  have hNodup := h.nodup
  rw [hPath, List.append_cons] at hWalk
  obtain ⟨hNext, hOthers, -⟩ := hWalk.walk_append
  rw [List.getLastD_concat] at hNext hOthers
  have hSome : (s.findSwitch u).isSome = true := by
    have hTraversable := isTraversableNode_of_mem hNext
    rw [isTraversableNode, Bool.or_eq_true] at hTraversable
    exact hTraversable.resolve_left (by rw [isSection] at hu; rw [hu]; decide)
  obtain ⟨sw, hFind⟩ := Option.isSome_iff_exists.mp hSome
  obtain ⟨hJoins, hApart⟩ := (mem_topologyNeighbors_switch hu hFind).mp hNext
  refine ⟨sw, hFind, hJoins, hApart, ?_⟩
  intro z hz hJoinsZ
  rcases List.mem_cons.mp hz with rfl | hz
  · rfl
  · have hzx : z ≠ x := by
      rintro rfl
      rw [hPath, List.nodup_append] at hNodup
      have hTail := (List.nodup_cons.mp hNodup.2.1).1
      exact hTail (List.mem_cons_of_mem _ (List.mem_cons_of_mem _ hz))
    exact absurd ((mem_topologyNeighbors_switch hu hFind).mpr ⟨hJoinsZ, hzx⟩) (hOthers z hz)

/-- A switch leads back to the section it is entered from. -/
theorem joins_before (hSymmetric : Symmetric s) {before : List UID} {x u : UID} {after : List UID}
    (hPath : path = before ++ x :: u :: after) (hu : isSection s u = false) {sw : Switch}
    (hFind : s.findSwitch u = some sw) : Joins sw x := by
  have hWalk := h.walk
  rw [hPath] at hWalk
  have hNext := (hWalk.walk_append).1
  have hBoth : u ∈ topologyNeighbors s x {} := mem_undirected (value_ne_zero h (by rw [hPath]; simp)) hNext
  have hBack := (hSymmetric x u (value_ne_zero h (by rw [hPath]; simp)) (value_ne_zero h (by rw [hPath]; simp))
    (isTraversableNode_of_mem hBoth) (by rw [isTraversableNode, hFind]; simp)).mp hBoth
  exact ((mem_topologyNeighbors_switch hu hFind).mp hBack).1

end Path

/-! ## The sections a train drives -/

theorem exists_filter_cons {s : EngineState} {ys : List UID} (hLater : ys.any (isSection s) = true) :
    ∃ d rest, ys.filter (isSection s) = d :: rest ∧ d ∈ ys ∧ isSection s d = true := by
  cases hFilter : ys.filter (isSection s) with
  | nil =>
    obtain ⟨z, hz, hSection⟩ := List.any_eq_true.mp hLater
    rw [List.filter_eq_nil_iff] at hFilter
    exact absurd hSection (hFilter z hz)
  | cons d rest =>
    have hd : d ∈ ys.filter (isSection s) := hFilter ▸ List.mem_cons_self
    exact ⟨d, rest, rfl, (List.mem_filter.mp hd).1, (List.mem_filter.mp hd).2⟩

theorem filter_eq_nil {s : EngineState} {ys : List UID} (hLater : ¬ ys.any (isSection s) = true) :
    ys.filter (isSection s) = [] := by
  rw [List.filter_eq_nil_iff]
  intro z hz hSection
  exact hLater (List.any_eq_true.mpr ⟨z, hz, hSection⟩)

/-- Nothing is asked of the switches after the last section. -/
theorem drivable_of_no_section {s : EngineState} {u : UID} {ys : List UID} (hLater : ¬ ys.any (isSection s) = true) :
    Drivable s (u :: ys) := by
  induction ys generalizing u with
  | nil => trivial
  | cons y ys ih =>
    rw [List.any_cons, Bool.or_eq_true, not_or] at hLater
    exact ⟨fun _ hAfter => absurd hAfter hLater.2, ih hLater.2⟩

theorem Drivable.passable {s : EngineState} {before : List UID} {x u : UID} {after : List UID}
    (hDrivable : Drivable s (before ++ x :: u :: after)) (hu : isSection s u = false)
    (hLater : after.any (isSection s) = true) : Passable s x u after := by
  induction before with
  | nil => exact hDrivable.1 hu hLater
  | cons b before ih =>
    cases before with
    | nil => exact ih hDrivable.2
    | cons b' before => exact ih hDrivable.2

section Drive

variable {s : EngineState} {start goal : UID} {path : List UID}
  (h : FoundPath {} (topologyNeighbors s) (isTraversableNode s) start goal path)

include h

/-- Over a drivable path whose switches stand as required a train drives the sections of the path. -/
theorem drives_of_drivable (hSymmetric : Symmetric s)
    (hPositions : ∀ before x u y after sw, path = before ++ x :: u :: y :: after → isSection s u = false →
      (y :: after).any (isSection s) = true → s.findSwitch u = some sw →
      sw.position = requiredSwitchPosition sw x y) (n : Nat) {xs before : List UID} {x fromUid : UID}
    {ts : TrackSection} (hLength : xs.length ≤ n) (hPath : path = before ++ x :: xs)
    (hx : s.findTrackSection x = some ts)
    (hAhead : ∀ v ys, xs = v :: ys → (aheadPort ts fromUid).neighborUid = v) (hDrivable : Drivable s (x :: xs)) :
    Drives s x fromUid (xs.filter (isSection s)) := by
  induction n generalizing xs before x fromUid ts with
  | zero =>
    rw [List.length_eq_zero_iff.mp (Nat.le_zero.mp hLength)]
    trivial
  | succ n ih =>
    cases xs with
    | nil => trivial
    | cons v ys =>
      have hv : v.value ≠ 0 := value_ne_zero h (by rw [hPath]; simp)
      have hHead := hAhead v ys rfl
      have hOnward : path = (before ++ [x]) ++ v :: ys := by rw [hPath, List.append_cons]
      obtain ⟨hPassable, hTail⟩ := hDrivable
      rw [List.length_cons] at hLength
      by_cases hSection : isSection s v = true
      · obtain ⟨ts', hv'⟩ := Option.isSome_iff_exists.mp hSection
        rw [List.filter_cons_of_pos hSection, Drives, resolveNextSection_section hx hHead hv hSection]
        refine ⟨rfl, rfl, ih (by omega) hOnward hv' ?_ hTail⟩
        rintro v' ys' rfl
        exact ahead_on_path h hPath hv'
      · have hu : isSection s v = false := Bool.not_eq_true _ ▸ hSection
        rw [List.filter_cons_of_neg hSection]
        by_cases hLater : ys.any (isSection s) = true
        · obtain ⟨-, y, later, legs, rfl, hy, hLegs, hTrunk⟩ := hPassable hu hLater
          obtain ⟨sw, hFind, hJoins, hApart, -⟩ := next_on_path h hPath hu
          have hLegsEq : legs = sw.topology := by
            rw [switchLegs, hFind] at hLegs
            exact (Option.some.inj hLegs).symm
          subst hLegsEq
          have hy0 : y.value ≠ 0 := value_ne_zero h (by rw [hPath]; simp)
          obtain ⟨ts', hy'⟩ := Option.isSome_iff_exists.mp hy
          have hListed : Joins sw x := joins_before h hSymmetric hPath hu hFind
          have hStands : sw.position = requiredSwitchPosition sw x y :=
            hPositions before x v y later sw hPath hu hLater hFind
          have hInfo : traverseSwitch sw x v = { sectionUid := some y, fromUid := v } :=
            traverseSwitch_required hListed hJoins hApart hy0 hTrunk hStands
          rw [List.filter_cons_of_pos hy, Drives, resolveNextSection_switch hx hHead hv hu hFind, hInfo]
          rw [List.length_cons] at hLength
          have hNext : path = (before ++ [x] ++ [v]) ++ y :: later := by rw [hOnward, List.append_cons]
          refine ⟨rfl, rfl, ih (by omega) hNext hy' ?_ hTail.2⟩
          rintro v' ys' rfl
          exact ahead_on_path h hOnward hy'
        · rw [filter_eq_nil hLater]
          trivial

/-- A train that drives the sections of a path shows the path to be drivable, however the switches stand. -/
theorem drivable_of_drives (n : Nat) {xs before : List UID} {x fromUid : UID} {ts : TrackSection}
    (hLength : xs.length ≤ n) (hPath : path = before ++ x :: xs) (hx : s.findTrackSection x = some ts)
    (hAhead : ∀ v ys, xs = v :: ys → (aheadPort ts fromUid).neighborUid = v)
    (hDrives : Drives s x fromUid (xs.filter (isSection s))) : Drivable s (x :: xs) := by
  induction n generalizing xs before x fromUid ts with
  | zero =>
    rw [List.length_eq_zero_iff.mp (Nat.le_zero.mp hLength)]
    trivial
  | succ n ih =>
    cases xs with
    | nil => trivial
    | cons v ys =>
      have hv : v.value ≠ 0 := value_ne_zero h (by rw [hPath]; simp)
      have hHead := hAhead v ys rfl
      have hOnward : path = (before ++ [x]) ++ v :: ys := by rw [hPath, List.append_cons]
      rw [List.length_cons] at hLength
      by_cases hSection : isSection s v = true
      · obtain ⟨ts', hv'⟩ := Option.isSome_iff_exists.mp hSection
        rw [List.filter_cons_of_pos hSection, Drives, resolveNextSection_section hx hHead hv hSection] at hDrives
        obtain ⟨-, -, hRest⟩ := hDrives
        refine ⟨fun hu => absurd hSection (by rw [hu]; decide), ih (by omega) hOnward hv' ?_ hRest⟩
        rintro v' ys' rfl
        exact ahead_on_path h hPath hv'
      · have hu : isSection s v = false := Bool.not_eq_true _ ▸ hSection
        by_cases hLater : ys.any (isSection s) = true
        · obtain ⟨d, rest, hFilter, hd, hdSection⟩ := exists_filter_cons hLater
          cases ys with
          | nil => cases hd
          | cons y later =>
            obtain ⟨sw, hFind, hJoins, hApart, hOnly⟩ := next_on_path h hPath hu
            rw [List.filter_cons_of_neg hSection, hFilter, Drives,
              resolveNextSection_switch hx hHead hv hu hFind] at hDrives
            obtain ⟨hNext, hForced, hRest⟩ := hDrives
            obtain ⟨hFrom, hLegs⟩ := traverseSwitch_inv hNext hForced
            -- the train leaves the switch for a section ahead, and the path knows only one way out
            have hdy : d = y := by
              refine hOnly d hd ?_
              rcases hLegs with ⟨-, hLeg⟩ | ⟨-, hTo, -⟩
              · exact Or.inr hLeg
              · exact Or.inl hTo
            subst hdy
            have hPassable : Passable s x v (d :: later) := by
              refine ⟨by rw [isSection, hx]; rfl, d, later, sw.topology, rfl, hdSection, ?_, ?_⟩
              · rw [switchLegs, hFind]
                rfl
              · rcases hLegs with ⟨hTrunk, -⟩ | ⟨-, hTo, hOne⟩
                · exact Or.inl hTrunk
                · exact Or.inr ⟨hTo, hOne⟩
            obtain ⟨ts', hd'⟩ := Option.isSome_iff_exists.mp hdSection
            rw [List.filter_cons_of_pos hdSection] at hFilter
            obtain ⟨-, rfl⟩ := List.cons.inj hFilter
            rw [hFrom] at hRest
            have hThere : path = (before ++ [x] ++ [v]) ++ d :: later := by rw [hOnward, List.append_cons]
            rw [List.length_cons] at hLength
            refine ⟨fun _ _ => hPassable, fun hSwitch => absurd hdSection (by rw [hSwitch]; decide), ?_⟩
            refine ih (by omega) hThere hd' ?_ hRest
            rintro v' ys' rfl
            exact ahead_on_path h hOnward hd'
        · exact ⟨fun _ hAfter => absurd hAfter hLater, drivable_of_no_section hLater⟩

end Drive

/-! ## Where the switches of a drivable path end up -/

/-- A switch with a leg back to itself protects its own flank by standing as the route needs it. -/
theorem deflectPosition_self {sw : Switch} {x u y : UID} (hListed : Joins sw x) (hNext : Joins sw y)
    (hApart : y ≠ x) (hxu : x ≠ u) (hyu : y ≠ u) (hTrunk : sw.trunk.neighborUid = x ∨ sw.trunk.neighborUid = y)
    (hLeg : (if requiredSwitchPosition sw x y = .straight then sw.divergent.neighborUid
      else sw.straight.neighborUid) = u) : deflectPosition sw u = requiredSwitchPosition sw x y := by
  have hTrunkNe : sw.trunk.neighborUid ≠ u := by
    rcases hTrunk with hTo | hTo
    · rw [hTo]
      exact hxu
    · rw [hTo]
      exact hyu
  rcases requiredSwitchPosition_eq sw x y with hStraight | hDivergent
  · rw [hStraight, if_pos rfl] at hLeg
    -- the other leg is one that the route uses
    have hUsed : sw.straight.neighborUid ≠ u := by
      intro hEq
      rcases hTrunk with hTo | hTo
      · rcases hNext with hy | hy | hy
        · exact hApart (hy.symm.trans hTo)
        · exact hyu (hy.symm.trans hEq)
        · exact hyu (hy.symm.trans hLeg)
      · rcases hListed with hx | hx | hx
        · exact hApart (hTo.symm.trans hx)
        · exact hxu (hx.symm.trans hEq)
        · exact hxu (hx.symm.trans hLeg)
    rw [deflectPosition, if_neg hTrunkNe, if_neg hUsed, if_pos hLeg, hStraight]
  · rw [hDivergent, if_neg (by decide)] at hLeg
    rw [deflectPosition, if_neg hTrunkNe, if_pos hLeg, hDivergent]

section Flank

variable {s : EngineState} {start goal : UID} {path : List UID}
  (h : FoundPath {} (topologyNeighbors s) (isTraversableNode s) start goal path)

include h

/-- A switch of the path that starts on a section leads to no switch further on. -/
theorem not_joins_later (hStart : ∀ u rest, path = u :: rest → isSection s u = true) {before between after : List UID}
    {w u : UID} {sw : Switch} (hPath : path = before ++ w :: between ++ u :: after) (hBetween : between ≠ [])
    (hw : isSection s w = false) (hFind : s.findSwitch w = some sw) : ¬ Joins sw u := by
  intro hJoins
  obtain ⟨z, zs, rfl⟩ := List.exists_cons_of_ne_nil hBetween
  rcases List.eq_nil_or_concat before with rfl | ⟨front, p, rfl⟩
  · have hSection := hStart w (z :: zs ++ u :: after) (by rw [hPath]; rfl)
    rw [hw] at hSection
    cases hSection
  · have hSplit : path = front ++ p :: w :: z :: (zs ++ u :: after) := by
      rw [hPath]
      simp
    obtain ⟨sw', hFind', -, -, hOnly⟩ := next_on_path h hSplit hw
    rw [hFind] at hFind'
    cases hFind'
    have huz : u = z := hOnly u (List.mem_cons_of_mem _ (List.mem_append_right _ List.mem_cons_self)) hJoins
    have hNodup := h.nodup
    rw [hPath, List.nodup_append] at hNodup
    refine hNodup.2.2 z ?_ u List.mem_cons_self huz.symm
    exact List.mem_append_right _ (List.mem_cons_of_mem _ List.mem_cons_self)

/-- No other switch of the path leads to a switch that sections enclose on it. -/
theorem uid_of_joins_on_path (hSymmetric : Symmetric s)
    (hStart : ∀ u rest, path = u :: rest → isSection s u = true) {before : List UID} {x u y : UID}
    {after : List UID} (hPath : path = before ++ x :: u :: y :: after) (hu : isSection s u = false)
    (hxSection : isSection s x = true) (hySection : isSection s y = true) {sw : Switch}
    (hFind : s.findSwitch u = some sw)
    (hOnly : ∀ z ∈ y :: after, Joins sw z → z = y) {w : UID} (hwPath : w ∈ path) (hw : isSection s w = false)
    {other : Switch} (hOther : s.findSwitch w = some other) (hLeads : Joins other u) : w = u := by
  have hBack : Joins sw w := by
    have hThere : u ∈ topologyNeighbors s w {} :=
      (mem_topologyNeighbors_switch hw hOther).mpr
        ⟨hLeads, fun hZero => value_ne_zero h (by rw [hPath]; simp) (congrArg UID.value hZero)⟩
    have hSwitch : isTraversableNode s u = true := by rw [isTraversableNode, hFind]; simp
    have hHere := (hSymmetric w u (value_ne_zero h hwPath) (value_ne_zero h (by rw [hPath]; simp))
      (isTraversableNode_of_mem hThere) hSwitch).mp hThere
    exact ((mem_topologyNeighbors_switch hu hFind).mp hHere).1
  have hMem := hwPath
  rw [hPath, List.mem_append, List.mem_cons, List.mem_cons] at hMem
  rcases hMem with hBefore | hwx | hwu | hAfter
  · -- a switch before this one leads to its successor on the path only, and that is not this one
    exfalso
    obtain ⟨front, between, rfl⟩ := List.append_of_mem hBefore
    have hSplit : path = front ++ w :: (between ++ [x]) ++ u :: y :: after := by
      rw [hPath]
      simp
    exact not_joins_later h hStart hSplit (by simp) hw hOther hLeads
  · rw [hwx, hxSection] at hw
    cases hw
  · exact hwu
  · rw [hOnly w hAfter hBack, hySection] at hw
    cases hw

/-- A flank entry for a passable switch of the path wants what the path wants. -/
theorem requiredPosition_of_flank (hSymmetric : Symmetric s)
    (hStart : ∀ u rest, path = u :: rest → isSection s u = true) {before : List UID} {x u y : UID}
    {after : List UID} (hPath : path = before ++ x :: u :: y :: after) (hu : isSection s u = false)
    (hPassable : Passable s x u (y :: after)) {sw : Switch} (hFind : s.findSwitch u = some sw)
    {node fnode : RoutePathNode} (hNode : node ∈ routePathNodes s {} path) (hFlank : flankNode s node = some fnode)
    (hUid : fnode.uid = u) : fnode.requiredPosition = requiredSwitchPosition sw x y := by
  obtain ⟨hKind, nodeSw, flankSw, hNodeFind, hFlankFind, hLeg, hDeflect⟩ := flankNode_cases hFlank
  obtain ⟨hNone, -⟩ := switch_of_routePathNodes hNode hKind
  have hw : isSection s node.uid = false := by
    rw [isSection, hNone]
    rfl
  have hwPath : node.uid ∈ path := (routePathNodes_sublist s {} path).subset (List.mem_map_of_mem hNode)
  rw [hUid] at hFlankFind hLeg
  rw [hFind] at hFlankFind
  cases hFlankFind
  obtain ⟨hxSection, y', later, legs, hCons, hySection, hLegs, hTrunk⟩ := hPassable
  obtain ⟨rfl, rfl⟩ := List.cons.inj hCons
  obtain ⟨sw', hFind', hNext, hApart, hOnly⟩ := next_on_path h hPath hu
  rw [hFind] at hFind'
  cases hFind'
  have hLeads : Joins nodeSw u := by
    rw [hLeg]
    split
    · exact Or.inr (Or.inr rfl)
    · exact Or.inr (Or.inl rfl)
  have hSelf : node.uid = u :=
    uid_of_joins_on_path h hSymmetric hStart hPath hu hxSection hySection hFind hOnly hwPath hw hNodeFind hLeads
  rw [hSelf] at hDeflect hNodeFind
  rw [hFind] at hNodeFind
  cases hNodeFind
  rw [hDeflect]
  have hListed : Joins sw x := joins_before h hSymmetric hPath hu hFind
  have hxu : x ≠ u := by
    rintro rfl
    rw [hxSection] at hu
    cases hu
  have hyu : y ≠ u := by
    rintro rfl
    rw [hySection] at hu
    cases hu
  have hLegsEq : legs = sw.topology := by
    rw [switchLegs, hFind] at hLegs
    exact (Option.some.inj hLegs).symm
  subst hLegsEq
  have hNodup := h.nodup
  rw [hPath] at hNodup hNode
  rw [requiredPosition_of_split hNodup hFind hNode hSelf hKind] at hLeg
  exact deflectPosition_self hListed hNext hApart hxu hyu (hTrunk.imp_right And.left) hLeg.symm

end Flank

/-! ## Before and after a request -/

section SameTopology

variable {s t : EngineState} (h : s.topology = t.topology)

include h

theorem isSection_congr : isSection s = isSection t := funext (isSome_findTrackSection h)

theorem symmetric_congr : Symmetric s ↔ Symmetric t := by
  rw [Symmetric, Symmetric, topologyNeighbors_congr h, isTraversableNode_congr h]

theorem drivable_congr (path : List UID) : Drivable s path ↔ Drivable t path := by
  have hLegs : switchLegs s = switchLegs t := funext (findSwitch_topology h)
  induction path with
  | nil => exact Iff.rfl
  | cons x rest ih =>
    cases rest with
    | nil => exact Iff.rfl
    | cons u after =>
      refine and_congr ?_ ih
      rw [Passable, Passable, isSection_congr h, hLegs]

theorem requiredSwitchPosition_congr {u : UID} {sw sw' : Switch} (hs : s.findSwitch u = some sw)
    (ht : t.findSwitch u = some sw') (x y : UID) : requiredSwitchPosition sw x y = requiredSwitchPosition sw' x y := by
  have hSwitch := findSwitch_topology h u
  rw [hs, ht] at hSwitch
  have hLegs := Option.some.inj hSwitch
  simp only [Switch.topology, SwitchTopology.mk.injEq] at hLegs
  simp only [requiredSwitchPosition, hLegs.2.1, hLegs.2.2.1, hLegs.2.2.2]

end SameTopology

/-- After the changes of its request a train that stands on the first section of a route, with `fromUid`
behind it, drives the sections of the route. -/
def DrivesRoute (s : EngineState) (cmd : RequestRouteCmd) (tick : Nat) (rp : RoutePath) (first fromUid : UID) : Prop :=
  ∃ later, (routeState s cmd tick rp).sectionUids = first :: later ∧
    Drives (applyAll s (executeRequestRoute s cmd tick kPolicies)) first fromUid later

section Route

variable {s : EngineState} {cmd : RequestRouteCmd} {rp : RoutePath}
  (hFound : findRoutePath s cmd.fromSignalUid cmd.toSignalUid kPolicies = some rp)

include hFound

/-- The switches of a drivable path stand as required after the request. -/
theorem position_after_request {start goal : UID} {path : List UID} (hSymmetric : Symmetric s)
    (h : FoundPath {} (topologyNeighbors s) (isTraversableNode s) start goal path)
    (hNodes : rp.nodes = routePathNodes s {} path) (hUids : rp.nodes.map RoutePathNode.uid = path)
    (hStart : ∀ u rest, path = u :: rest → isSection s u = true) (hDrivable : Drivable s path) (tick : Nat)
    {before : List UID} {x u y : UID} {after : List UID} (hPath : path = before ++ x :: u :: y :: after)
    (hu : isSection s u = false) (hLater : (y :: after).any (isSection s) = true) {sw : Switch}
    (hFind : s.findSwitch u = some sw) :
    (switchPosition u).read (applyAll s (executeRequestRoute s cmd tick kPolicies)) =
      some (requiredSwitchPosition sw x y) := by
  have hIs := isRoutePath_of_findRoutePath hFound
  have hPassable : Passable s x u (y :: after) := by
    rw [hPath] at hDrivable
    exact hDrivable.passable hu hLater
  have hAgree : ∀ node ∈ switchNodes rp, node.uid = u → node.requiredPosition = requiredSwitchPosition sw x y := by
    intro node hNode hUid
    rcases List.mem_append.mp hNode with hOn | hFlank
    · rw [List.mem_filter, decide_eq_true_eq, hNodes] at hOn
      have hNodup := h.nodup
      rw [hPath] at hOn hNodup
      exact requiredPosition_of_split hNodup hFind hOn.1 hUid hOn.2
    · rw [hIs.flank] at hFlank
      obtain ⟨node', hNode', hEntry⟩ := List.mem_filterMap.mp hFlank
      rw [hNodes] at hNode'
      exact requiredPosition_of_flank h hSymmetric hStart hPath hu hPassable hFind hNode' hEntry hUid
  have hListed : ∃ node ∈ switchNodes rp, node.uid = u := by
    have hMem : u ∈ rp.nodes.map RoutePathNode.uid := by rw [hUids, hPath]; simp
    obtain ⟨node, hNode, hUid⟩ := List.mem_map.mp hMem
    refine ⟨node, List.mem_append_left _ (List.mem_filter.mpr ⟨hNode, decide_eq_true ?_⟩), hUid⟩
    cases hKind : node.kind with
    | switch => rfl
    | trackSection =>
      have hSection : u ∈ nodeUids .trackSection rp.nodes := mem_nodeUids.mpr ⟨node, hNode, hKind, hUid⟩
      rw [hNodes, nodeUids_routePathNodes, List.mem_filter] at hSection
      rw [isSection, hSection.2] at hu
      cases hu
  rcases switchPosition_request hFound tick u (switchPosition_of_find hFind) with
    ⟨hAll, hAfter⟩ | ⟨node, hNode, hUid, -, hAfter⟩
  · obtain ⟨node, hNode, hUid⟩ := hListed
    rw [hAfter, ← hAll node hNode hUid, hAgree node hNode hUid]
  · rw [hAfter, hAgree node hNode hUid]

/-- A train drives the route it was granted exactly when every switch of the path is passable. -/
theorem drivesRoute_iff (hSymmetric : Symmetric s) {first second : RoutePathNode} {nodes : List RoutePathNode}
    (hNodes : rp.nodes = first :: second :: nodes) {ts : TrackSection} (hx : s.findTrackSection first.uid = some ts)
    {fromUid : UID} (hFrom : fromUid = ts.sideA.neighborUid ∨ fromUid = ts.sideB.neighborUid)
    (hBack : fromUid ≠ second.uid) (tick : Nat) :
    DrivesRoute s cmd tick rp first.uid fromUid ↔ Drivable s (rp.nodes.map RoutePathNode.uid) := by
  obtain ⟨start, goal, path, hNe, hBfs, hPathNodes⟩ := bfs_of_findRoutePath hFound (by rw [hNodes]; simp)
  have hUids : rp.nodes.map RoutePathNode.uid = path := by
    rw [hPathNodes]
    exact map_uid_routePathNodes (isTraversableNode_of_bfs hBfs hNe) {}
  have hPath : path = first.uid :: second.uid :: nodes.map RoutePathNode.uid := by rw [← hUids, hNodes]; rfl
  have hFirst : isSection s first.uid = true := by rw [isSection, hx]; rfl
  have hSections : (routeState s cmd tick rp).sectionUids =
      first.uid :: (second.uid :: nodes.map RoutePathNode.uid).filter (isSection s) := by
    have hIs := isRoutePath_of_findRoutePath hFound
    rw [routeState_eq hIs, newRoute, hIs.sections, hPathNodes, nodeUids_routePathNodes, hPath]
    exact List.filter_cons_of_pos hFirst
  have hTopology : s.topology = (applyAll s (executeRequestRoute s cmd tick kPolicies)).topology :=
    (topology_applyAll s _).symm
  have hFoundPath := bfs_found (bfs_congr hTopology start goal ▸ hBfs)
  have hSplit : path = [] ++ first.uid :: second.uid :: nodes.map RoutePathNode.uid := hPath
  obtain ⟨ts', hx', hHead⟩ : ∃ ts', (applyAll s (executeRequestRoute s cmd tick kPolicies)).findTrackSection
      first.uid = some ts' ∧ (aheadPort ts' fromUid).neighborUid = second.uid := by
    have hPorts := findTrackSection_topology hTopology first.uid
    rw [hx] at hPorts
    obtain ⟨ts', hx', hSame⟩ := Option.map_eq_some_iff.mp hPorts.symm
    simp only [TrackSection.topology, SectionTopology.mk.injEq] at hSame
    rw [← hSame.2.1, ← hSame.2.2] at hFrom
    have hWalk := hFoundPath.walk
    rw [hPath] at hWalk
    exact ⟨ts', hx', ahead_of_from hx' hWalk.1 hFrom hBack⟩
  rw [DrivesRoute, hSections, hUids, drivable_congr hTopology, isSection_congr hTopology]
  have hAhead : ∀ v ys, second.uid :: nodes.map RoutePathNode.uid = v :: ys →
      (aheadPort ts' fromUid).neighborUid = v := by
    rintro v ys hCons
    rw [hHead, (List.cons.inj hCons).1]
  constructor
  · rintro ⟨later, hCons, hDrives⟩
    rw [← (List.cons.inj hCons).2] at hDrives
    rw [hPath]
    exact drivable_of_drives hFoundPath _ (Nat.le_refl _) hSplit hx' hAhead hDrives
  · intro hDrivable
    refine ⟨_, rfl, ?_⟩
    have hStart : ∀ u rest, path = u :: rest → isSection s u = true := by
      rintro u rest hCons
      rw [hPath] at hCons
      rw [← (List.cons.inj hCons).1]
      exact hFirst
    refine drives_of_drivable hFoundPath ((symmetric_congr hTopology).mp hSymmetric) ?_ _ (Nat.le_refl _)
      hSplit hx' hAhead (hPath ▸ hDrivable)
    intro before x u y after sw hAt hu hLater hFind
    rw [← isSection_congr hTopology] at hu hLater
    rw [← drivable_congr hTopology] at hDrivable
    obtain ⟨sw', hFind'⟩ := Option.isSome_iff_exists.mp
      ((isSome_findSwitch hTopology u).trans (congrArg Option.isSome hFind))
    have hAfter := position_after_request hFound hSymmetric (bfs_found hBfs) hPathNodes hUids hStart hDrivable tick
      hAt hu hLater hFind'
    rw [switchPosition_of_find hFind, requiredSwitchPosition_congr hTopology hFind' hFind] at hAfter
    exact Option.some.inj hAfter

end Route

theorem symmetric_of_listed {s : EngineState} (h : ∀ x ∈ traversableNodes s, ∀ y ∈ traversableNodes s,
    (y ∈ topologyNeighbors s x {} ↔ x ∈ topologyNeighbors s y {})) : Symmetric s :=
  fun x y _ _ hx hy => h x (mem_traversableNodes hx) y (mem_traversableNodes hy)

theorem drivesRoute_fork : ∃ rp, findRoutePath (loadedState forkStation) ⟨21⟩ ⟨22⟩ kPolicies = some rp ∧
    DrivesRoute (loadedState forkStation) ⟨⟨21⟩, ⟨22⟩⟩ 0 rp ⟨1⟩ ⟨91⟩ := by
  have hNodes : (findRoutePath (loadedState forkStation) ⟨21⟩ ⟨22⟩ kPolicies).map RoutePath.nodes =
      some [⟨.trackSection, ⟨1⟩, .straight⟩, ⟨.switch, ⟨10⟩, .straight⟩, ⟨.trackSection, ⟨2⟩, .straight⟩] := by
    decide +kernel
  obtain ⟨rp, hFound, hNodes⟩ := Option.map_eq_some_iff.mp hNodes
  obtain ⟨ts, hx⟩ := Option.isSome_iff_exists.mp
    (show ((loadedState forkStation).findTrackSection ⟨1⟩).isSome = true by decide +kernel)
  have hSide : ((loadedState forkStation).findTrackSection ⟨1⟩).map (fun ts => ts.sideA.neighborUid) = some ⟨91⟩ := by
    decide +kernel
  rw [hx] at hSide
  refine ⟨rp, hFound, ?_⟩
  refine (drivesRoute_iff hFound (symmetric_of_listed (by decide +kernel)) hNodes hx
    (Or.inl (Option.some.inj hSide).symm) (by decide) 0).mpr ?_
  have hPassable : Passable (loadedState forkStation) ⟨1⟩ ⟨10⟩ [⟨2⟩] := by
    refine ⟨by decide +kernel, ⟨2⟩, [], ⟨⟨10⟩, ⟨1⟩, ⟨2⟩, ⟨3⟩⟩, rfl, by decide +kernel, by decide +kernel, Or.inl rfl⟩
  rw [hNodes]
  have hLast : ¬ ([] : List UID).any (isSection (loadedState forkStation)) = true := by decide
  exact ⟨fun _ _ => hPassable, fun _ hAfter => absurd hAfter hLast, trivial⟩

/-- The route from signal 22 to signal 23 goes from leg to leg of switch 10, and a train that enters it comes
out on section 1. -/
theorem legToLeg_astray : ¬ ∀ s cmd tick rp first second nodes ts fromUid,
    checkRequestRoute s cmd kPolicies = none → Symmetric s →
    (∀ section' ∈ s.trackSections.values, section'.sideA.neighborUid ≠ section'.sideB.neighborUid) →
    findRoutePath s cmd.fromSignalUid cmd.toSignalUid kPolicies = some rp → rp.nodes = first :: second :: nodes →
    s.findTrackSection first.uid = some ts → (fromUid = ts.sideA.neighborUid ∨ fromUid = ts.sideB.neighborUid) →
    fromUid ≠ second.uid → DrivesRoute s cmd tick rp first.uid fromUid := by
  intro h
  have hPath : (findRoutePath (loadedState forkStation) ⟨22⟩ ⟨23⟩ kPolicies).map (fun rp =>
      (rp.nodes, (routeState (loadedState forkStation) ⟨⟨22⟩, ⟨23⟩⟩ 0 rp).sectionUids)) =
      some ([⟨.trackSection, ⟨2⟩, .straight⟩, ⟨.switch, ⟨10⟩, .straight⟩, ⟨.trackSection, ⟨3⟩, .straight⟩],
        [⟨2⟩, ⟨3⟩]) := by
    decide +kernel
  obtain ⟨rp, hFound, hBoth⟩ := Option.map_eq_some_iff.mp hPath
  obtain ⟨hNodes, hSections⟩ := Prod.mk.inj hBoth
  obtain ⟨ts, hx⟩ := Option.isSome_iff_exists.mp
    (show ((loadedState forkStation).findTrackSection ⟨2⟩).isSome = true by decide +kernel)
  have hSide : ((loadedState forkStation).findTrackSection ⟨2⟩).map (fun ts => ts.sideB.neighborUid) = some ⟨92⟩ := by
    decide +kernel
  rw [hx] at hSide
  obtain ⟨later, hLater, hDrives⟩ := h (loadedState forkStation) ⟨⟨22⟩, ⟨23⟩⟩ 0 rp _ _ _ ts ⟨92⟩ (by decide +kernel)
    (symmetric_of_listed (by decide +kernel)) (by decide +kernel) hFound hNodes hx
    (Or.inr (Option.some.inj hSide).symm) (by decide)
  rw [hSections] at hLater
  obtain ⟨-, rfl⟩ := List.cons.inj hLater
  have hAstray : (resolveNextSection (applyAll (loadedState forkStation)
      (executeRequestRoute (loadedState forkStation) ⟨⟨22⟩, ⟨23⟩⟩ 0 kPolicies)) ⟨2⟩ ⟨92⟩).sectionUid = some ⟨1⟩ := by
    decide +kernel
  have hThere := hDrives.1
  rw [hAstray] at hThere
  exact absurd hThere (by decide)

end Symulator.Interlocking
