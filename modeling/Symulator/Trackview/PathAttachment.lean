import Mathlib
import Symulator.Library.Polyline
import Symulator.Trackview.Layout

/-! # Attaching signals to paths

The resolver walks along the segments of a path until the arc length that an offset stands for is used up.
-/

namespace Symulator.Trackview

open Symulator.Library

set_option autoImplicit false

universe u

namespace PathAttachmentResolver

section Resolver

variable {α : Type u} [Zero α] [One α] [Add α] [Sub α] [Mul α] [Div α] [LE α] [LT α] [DecidableLE α] [DecidableLT α]
  [Floating α]

def clamp (v low high : α) : α := if v < low then low else if high < v then high else v

def segmentLengths : Path α → List α
  | start :: finish :: rest => Floating.hypot (finish.x - start.x) (finish.y - start.y) ::
    segmentLengths (finish :: rest)
  | _ => []

def totalLength (path : Path α) : α := (segmentLengths path).foldl (· + ·) 0

/-- The point of a segment at what remains of the arc length, moved sideways. -/
def pointOn (start finish : Point α) (length lateral remaining : α) : Point α :=
  let ratio := clamp (remaining / length) 0 1
  let dx := finish.x - start.x
  let dy := finish.y - start.y
  ⟨start.x + ratio * dx - lateral * dy / length, start.y + ratio * dy + lateral * dx / length⟩

/-- The loop over the segments. -/
def walk (lateral : α) : Path α → α → Except Thrown (Point α)
  | start :: finish :: rest, remaining =>
    let length := Floating.hypot (finish.x - start.x) (finish.y - start.y)
    if remaining ≤ length ∨ rest.isEmpty = true then
      if length ≤ 0 then walk lateral (finish :: rest) remaining
      else .ok (pointOn start finish length lateral remaining)
    else walk lateral (finish :: rest) (remaining - length)
  | _, _ => .error (.logicError "attachment_resolver: could not resolve path position")

def fraction (attachment : TrackAttachment α) : α :=
  if attachment.referenceSide = .a then attachment.offset else 1 - attachment.offset

def resolve (path : Path α) (attachment : TrackAttachment α) : Except Thrown (Point α) :=
  if path.length < 2 then .error (.invalidArgument "attachment_resolver: path needs at least two points")
  else if Floating.isFinite attachment.offset = false ∨ attachment.offset < 0 ∨ 1 < attachment.offset ∨
      Floating.isFinite attachment.lateral = false then
    .error (.invalidArgument "attachment_resolver: invalid attachment values")
  else if totalLength path ≤ 0 then .error (.invalidArgument "attachment_resolver: path has zero length")
  else walk attachment.lateral path (fraction attachment * totalLength path)

/-! ## Which attachments find a segment -/

/-- What remains of an arc length when the walk has passed the segments: those no shorter than it take nothing off. -/
def remainderAfter (remaining : α) (passed : List α) : α :=
  passed.foldl (fun remaining length => if remaining ≤ length then remaining else remaining - length) remaining

/-- A segment of positive length is the last one or no shorter than what remains when the walk comes to it. -/
def Lands (lengths : List α) (remaining : α) : Prop :=
  ∃ passed length rest, lengths = passed ++ length :: rest ∧ ¬ length ≤ 0 ∧
    (remainderAfter remaining passed ≤ length ∨ rest = [])

/-- The path has a positive length, and the walk comes to a segment that takes the attachment. -/
def Attachable (path : Path α) (attachment : TrackAttachment α) : Prop :=
  ¬ totalLength path ≤ 0 ∧ Lands (segmentLengths path) (fraction attachment * totalLength path)

omit [One α] [Add α] [Mul α] [Div α] [LT α] [DecidableLT α] [Floating α] in
theorem lands_cons {length remaining : α} {lengths : List α} : Lands (length :: lengths) remaining ↔
    ¬ length ≤ 0 ∧ (remaining ≤ length ∨ lengths = []) ∨
      Lands lengths (if remaining ≤ length then remaining else remaining - length) := by
  constructor
  · rintro ⟨passed, other, rest, hLengths, hPos, hTakes⟩
    cases passed with
    | nil =>
      obtain ⟨rfl, rfl⟩ := List.cons.inj hLengths
      exact Or.inl ⟨hPos, hTakes⟩
    | cons first passed =>
      obtain ⟨rfl, rfl⟩ := List.cons.inj hLengths
      exact Or.inr ⟨passed, other, rest, rfl, hPos, hTakes⟩
  · rintro (⟨hPos, hTakes⟩ | ⟨passed, other, rest, rfl, hPos, hTakes⟩)
    · exact ⟨[], length, lengths, rfl, hPos, hTakes⟩
    · exact ⟨length :: passed, other, rest, rfl, hPos, hTakes⟩

omit [Zero α] [One α] [Add α] [Mul α] [Div α] [LE α] [LT α] [DecidableLE α] [DecidableLT α] in
theorem segmentLengths_eq_nil {start : Point α} {rest : Path α} : segmentLengths (start :: rest) = [] ↔ rest = [] := by
  cases rest with
  | nil => simp [segmentLengths]
  | cons finish rest => simp [segmentLengths]

theorem walk_isOk_iff (lateral : α) (path : Path α) (remaining : α) :
    (∃ x, walk lateral path remaining = .ok x) ↔ Lands (segmentLengths path) remaining := by
  have hNowhere : ∀ r : α, ¬ Lands [] r := by
    rintro r ⟨passed, length, rest, hLengths, -⟩
    cases passed <;> cases hLengths
  cases path with
  | nil => exact iff_of_false (by rintro ⟨x, hx⟩; cases hx) (hNowhere _)
  | cons start rest =>
    induction rest generalizing start remaining with
    | nil => exact iff_of_false (by rintro ⟨x, hx⟩; cases hx) (hNowhere _)
    | cons finish rest ih =>
      rw [walk, segmentLengths, lands_cons, segmentLengths_eq_nil, ← List.isEmpty_iff]
      generalize (Floating.hypot (finish.x - start.x) (finish.y - start.y) : α) = length
      by_cases hPos : length ≤ 0
      · simp only [hPos, not_true_eq_false, false_and, false_or, if_true]
        by_cases hWithin : remaining ≤ length
        · simp only [hWithin, true_or, if_true]
          exact ih remaining finish
        · simp only [hWithin, false_or, if_false]
          split
          · rename_i hLast
            rw [List.isEmpty_iff] at hLast
            subst hLast
            exact (ih remaining finish).trans (iff_of_false (hNowhere _) (hNowhere _))
          · exact ih (remaining - length) finish
      · simp only [hPos, not_false_eq_true, true_and, if_false]
        by_cases hTakes : remaining ≤ length ∨ rest.isEmpty = true
        · rw [if_pos hTakes]
          exact iff_of_true ⟨_, rfl⟩ (Or.inl hTakes)
        · obtain ⟨hWithin, -⟩ := not_or.mp hTakes
          rw [if_neg hTakes, if_neg hWithin, or_iff_right hTakes]
          exact ih (remaining - length) finish

theorem resolve_isOk_iff {path : Path α} {attachment : TrackAttachment α} (hPoints : ¬ path.length < 2)
    (hValues : ¬ (Floating.isFinite attachment.offset = false ∨ attachment.offset < 0 ∨ 1 < attachment.offset ∨
      Floating.isFinite attachment.lateral = false)) :
    (∃ x, resolve path attachment = .ok x) ↔ Attachable path attachment := by
  rw [resolve, if_neg hPoints, if_neg hValues, Attachable]
  split
  · rename_i hZero
    exact iff_of_false (by rintro ⟨x, hx⟩; cases hx) (fun h => h.1 hZero)
  · rename_i hLength
    rw [walk_isOk_iff, and_iff_right hLength]

end Resolver

/-! ## Exact arithmetic -/

noncomputable instance : Floating ℝ where
  hypot x y := √(x ^ 2 + y ^ 2)
  isFinite _ := true

/-- The plane that the points of a layout lie in. -/
def plane (point : Point ℝ) : ℂ := ⟨point.x, point.y⟩

theorem hypot_eq_dist (p q : Point ℝ) : Floating.hypot (q.x - p.x) (q.y - p.y) = dist (plane p) (plane q) := by
  rw [dist_comm, Complex.dist_eq_re_im]
  rfl

theorem foldl_segmentLengths (p : Point ℝ) (rest : Path ℝ) (acc : ℝ) :
    (segmentLengths (p :: rest)).foldl (· + ·) acc = acc + polylineLength (plane p) (rest.map plane) := by
  induction rest generalizing p acc with
  | nil => exact (add_zero acc).symm
  | cons q rest ih => rw [segmentLengths, List.foldl_cons, ih, hypot_eq_dist, List.map_cons, polylineLength, add_assoc]

theorem totalLength_eq (p : Point ℝ) (rest : Path ℝ) :
    totalLength (p :: rest) = polylineLength (plane p) (rest.map plane) := by
  rw [totalLength, foldl_segmentLengths, zero_add]

/-- With no lateral offset the point of a segment is the one at its fraction. -/
theorem plane_pointOn {p q : Point ℝ} {remaining : ℝ} (hPos : 0 < dist (plane p) (plane q)) (hLow : 0 ≤ remaining)
    (hHigh : remaining ≤ dist (plane p) (plane q)) :
    plane (pointOn p q (dist (plane p) (plane q)) 0 remaining) =
      AffineMap.lineMap (plane p) (plane q) (remaining / dist (plane p) (plane q)) := by
  have hRatio : clamp (remaining / dist (plane p) (plane q)) 0 1 = remaining / dist (plane p) (plane q) := by
    rw [clamp, if_neg (not_lt.mpr (div_nonneg hLow hPos.le)), if_neg (not_lt.mpr ((div_le_one hPos).mpr hHigh))]
  rw [AffineMap.lineMap_apply, pointOn, hRatio]
  apply Complex.ext
  · simp [plane, add_comm]
  · simp [plane, add_comm]

theorem walk_spec (p : Point ℝ) (rest : Path ℝ) {remaining : ℝ} (hLow : 0 ≤ remaining)
    (hHigh : remaining ≤ polylineLength (plane p) (rest.map plane))
    (hPos : 0 < polylineLength (plane p) (rest.map plane)) :
    ∃ x, walk 0 (p :: rest) remaining = .ok x ∧ AtArcLength (plane p) (rest.map plane) remaining (plane x) := by
  induction rest generalizing p remaining with
  | nil => exact absurd hPos (lt_irrefl 0)
  | cons q rest ih =>
    have hNonneg := polylineLength_nonneg (plane q) (rest.map plane)
    rw [List.map_cons, polylineLength] at hHigh hPos
    have hSegment : 0 < dist (plane p) (plane q) → remaining ≤ dist (plane p) (plane q) →
        AtArcLength (plane p) ((q :: rest).map plane) remaining
          (plane (pointOn p q (dist (plane p) (plane q)) 0 remaining)) := by
      intro hLength hWithin
      have hRatio : remaining / dist (plane p) (plane q) ∈ Set.Icc (0 : ℝ) 1 :=
        ⟨div_nonneg hLow hLength.le, (div_le_one hLength).mpr hWithin⟩
      rw [plane_pointOn hLength hLow hWithin, List.map_cons]
      nth_rewrite 1 [← div_mul_cancel₀ remaining hLength.ne']
      exact .here hRatio
    rw [walk, hypot_eq_dist]
    split
    · rename_i hStop
      split
      · rename_i hZero
        -- a segment of length zero is passed with nothing taken off
        have hLength : dist (plane p) (plane q) = 0 := le_antisymm hZero dist_nonneg
        rw [hLength, zero_add] at hHigh hPos
        obtain ⟨x, hWalk, hAt⟩ := ih q hLow hHigh hPos
        refine ⟨x, hWalk, ?_⟩
        have hLater := AtArcLength.later (p := plane p) hAt
        rwa [hLength, zero_add] at hLater
      · rename_i hLength
        rw [not_le] at hLength
        have hWithin : remaining ≤ dist (plane p) (plane q) := by
          rcases hStop with hWithin | hLast
          · exact hWithin
          · rw [List.isEmpty_iff.mp hLast, List.map_nil, polylineLength, add_zero] at hHigh
            exact hHigh
        exact ⟨_, rfl, hSegment hLength hWithin⟩
    · rename_i hGoOn
      obtain ⟨hBeyond, -⟩ := not_or.mp hGoOn
      rw [not_le] at hBeyond
      obtain ⟨x, hWalk, hAt⟩ := ih q (sub_nonneg.mpr hBeyond.le) (by linarith) (by linarith)
      refine ⟨x, hWalk, ?_⟩
      have hLater := AtArcLength.later (p := plane p) hAt
      rwa [add_sub_cancel] at hLater

/-- On the path the point lies at the arc length from its first point. -/
def AtArc (path : Path ℝ) (s : ℝ) (x : Point ℝ) : Prop :=
  ∃ p rest, path = p :: rest ∧ AtArcLength (plane p) (rest.map plane) s (plane x)

theorem plane_injective : Function.Injective plane := by
  intro p q h
  obtain ⟨hx, hy⟩ := Complex.ext_iff.mp h
  cases p
  cases q
  cases hx
  cases hy
  rfl

section Traced

variable {path : Path ℝ} (hPoints : 2 ≤ path.length) (hLength : 0 < totalLength path)

include hPoints hLength

theorem resolve_eq_walk {attachment : TrackAttachment ℝ} (h : attachment.offset ∈ Set.Icc (0 : ℝ) 1) :
    resolve path attachment = walk attachment.lateral path (fraction attachment * totalLength path) := by
  have hValues : ¬ (Floating.isFinite attachment.offset = false ∨ attachment.offset < 0 ∨ 1 < attachment.offset ∨
      Floating.isFinite attachment.lateral = false) := by
    rintro (hInfinite | hLow | hHigh | hInfinite)
    · cases hInfinite
    · exact absurd h.1 (not_le.mpr hLow)
    · exact absurd h.2 (not_le.mpr hHigh)
    · cases hInfinite
  rw [resolve, if_neg (not_lt.mpr hPoints), if_neg hValues, if_neg (not_le.mpr hLength)]

theorem walk_share {o : ℝ} (h : o ∈ Set.Icc (0 : ℝ) 1) :
    ∃ x, walk 0 path (o * totalLength path) = .ok x ∧ AtArc path (o * totalLength path) x := by
  cases path with
  | nil => exact absurd hPoints (by decide)
  | cons p rest =>
    rw [totalLength_eq] at hLength ⊢
    obtain ⟨x, hWalk, hAt⟩ :=
      walk_spec p rest (mul_nonneg h.1 hLength.le) (mul_le_of_le_one_left hLength.le h.2) hLength
    exact ⟨x, hWalk, p, rest, rfl, hAt⟩

omit hLength in
/-- Over exact arithmetic a positive length is all that an attachment needs. -/
theorem attachable_iff {attachment : TrackAttachment ℝ} (h : attachment.offset ∈ Set.Icc (0 : ℝ) 1) :
    Attachable path attachment ↔ 0 < totalLength path := by
  constructor
  · intro hAttachable
    exact not_le.mp hAttachable.1
  · intro hLength
    have hFraction : fraction attachment ∈ Set.Icc (0 : ℝ) 1 := by
      rw [fraction]
      split
      · exact h
      · exact ⟨sub_nonneg.mpr h.2, sub_le_self 1 h.1⟩
    obtain ⟨x, hWalk, -⟩ := walk_share hPoints hLength hFraction
    exact ⟨not_le.mpr hLength, (walk_isOk_iff 0 path _).mp ⟨x, hWalk⟩⟩

theorem atArc_ends {x y : Point ℝ} (hx : AtArc path 0 x) (hy : AtArc path (totalLength path) y) :
    path.head? = some x ∧ path.getLast? = some y := by
  obtain ⟨p, rest, rfl, hx⟩ := hx
  obtain ⟨p', rest', hPath, hy⟩ := hy
  cases hPath
  cases rest with
  | nil => exact absurd hPoints (by simp)
  | cons q rest =>
    rw [totalLength_eq] at hy
    have hFirst : p = x := plane_injective ((atArcLength_start _ _ _).unique hx)
    have hEnd : plane ((q :: rest).getLast (List.cons_ne_nil q rest)) = plane y := by
      have hMapped := List.getLast_map (f := plane) (l := q :: rest) (List.cons_ne_nil _ _)
      rw [← hMapped]
      exact (atArcLength_end _ _ _).unique hy
    refine ⟨congrArg some hFirst, ?_⟩
    rw [List.getLast?_cons_cons, List.getLast?_eq_getLast_of_ne_nil (List.cons_ne_nil q rest), plane_injective hEnd]

end Traced

/-- Over exact arithmetic a path of positive length is traced out by the offsets: each attaches at its share of the arc
length, from either side, and the point moves without a jump from one end to the other. -/
theorem resolve_traces (path : Path ℝ) (trackId : InfrastructureId) (hPoints : 2 ≤ path.length)
    (hLength : 0 < totalLength path) :
    ∃ position : ℝ → Point ℝ,
      (∀ o ∈ Set.Icc (0 : ℝ) 1,
        resolve path { trackId, referenceSide := .a, offset := o, lateral := 0 } = .ok (position o) ∧
        resolve path { trackId, referenceSide := .b, offset := o, lateral := 0 } = .ok (position (1 - o)) ∧
        AtArc path (o * totalLength path) (position o)) ∧
      ContinuousOn (fun o => plane (position o)) (Set.Icc 0 1) ∧
      path.head? = some (position 0) ∧ path.getLast? = some (position 1) := by
  have hShare : ∀ o : ℝ, ∃ x, o ∈ Set.Icc (0 : ℝ) 1 →
      walk 0 path (o * totalLength path) = .ok x ∧ AtArc path (o * totalLength path) x := by
    intro o
    by_cases h : o ∈ Set.Icc (0 : ℝ) 1
    · obtain ⟨x, hx⟩ := walk_share hPoints hLength h
      exact ⟨x, fun _ => hx⟩
    · exact ⟨⟨0, 0⟩, fun h' => absurd h' h⟩
  choose position hPosition using hShare
  have hMirror : ∀ o ∈ Set.Icc (0 : ℝ) 1, 1 - o ∈ Set.Icc (0 : ℝ) 1 := by
    intro o ho
    exact ⟨sub_nonneg.mpr ho.2, sub_le_self 1 ho.1⟩
  refine ⟨position, ?_, ?_, ?_⟩
  · intro o ho
    refine ⟨?_, ?_, (hPosition o ho).2⟩
    · rw [resolve_eq_walk hPoints hLength ho]
      exact (hPosition o ho).1
    · rw [resolve_eq_walk hPoints hLength ho]
      exact (hPosition (1 - o) (hMirror o ho)).1
  · obtain ⟨p, rest, rfl⟩ := List.exists_cons_of_length_pos (Nat.lt_of_lt_of_le Nat.zero_lt_two hPoints)
    have hWay : ContinuousOn (fun o => o * totalLength (p :: rest)) (Set.Icc (0 : ℝ) 1) :=
      (continuous_id.mul continuous_const).continuousOn
    have hTraced : ∀ o ∈ Set.Icc (0 : ℝ) 1,
        AtArcLength (plane p) (rest.map plane) (o * totalLength (p :: rest)) (plane (position o)) := by
      intro o ho
      obtain ⟨p', rest', hPath, hAt⟩ := (hPosition o ho).2
      cases hPath
      exact hAt
    exact continuousOn_of_atArcLength hWay hTraced
  · have hStart := (hPosition 0 (Set.left_mem_Icc.mpr zero_le_one)).2
    have hEnd := (hPosition 1 (Set.right_mem_Icc.mpr zero_le_one)).2
    rw [zero_mul] at hStart
    rw [one_mul] at hEnd
    exact atArc_ends hPoints hLength hStart hEnd

/-- A path whose first two points coincide. -/
def halting : Path ℝ := [⟨0, 0⟩, ⟨0, 0⟩, ⟨1, 0⟩]

theorem totalLength_halting : 0 < totalLength halting := by
  simp [totalLength, segmentLengths, halting, Floating.hypot]

theorem resolve_traces_halting :
    ∃ position : ℝ → Point ℝ,
      (∀ o ∈ Set.Icc (0 : ℝ) 1,
        resolve halting { trackId := ⟨1⟩, referenceSide := .a, offset := o, lateral := 0 } = .ok (position o) ∧
        resolve halting { trackId := ⟨1⟩, referenceSide := .b, offset := o, lateral := 0 } = .ok (position (1 - o)) ∧
        AtArc halting (o * totalLength halting) (position o)) ∧
      ContinuousOn (fun o => plane (position o)) (Set.Icc 0 1) ∧
      halting.head? = some (position 0) ∧ halting.getLast? = some (position 1) :=
  resolve_traces halting ⟨1⟩ (by simp [halting]) totalLength_halting

end PathAttachmentResolver

end Symulator.Trackview
