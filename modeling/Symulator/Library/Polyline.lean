import Mathlib.Analysis.Normed.Affine.AddTorsor

/-! # Polylines and arc length

A polyline runs straight from each of its points to the next. A place on it is a fraction of one of its segments; the
way to it is that of the segments before and the fraction of its own. Points may coincide.
-/

namespace Symulator.Library

set_option autoImplicit false

universe u

open AffineMap

variable {E : Type u} [NormedAddCommGroup E] [NormedSpace ℝ E]

/-- The length of the polyline from `p` through the points. -/
noncomputable def polylineLength : E → List E → ℝ
  | _, [] => 0
  | p, q :: rest => dist p q + polylineLength q rest

/-- On the polyline from `p` through the points, `x` lies at the arc length `s`. -/
inductive AtArcLength : E → List E → ℝ → E → Prop
  | here {p q : E} {rest : List E} {t : ℝ} (h : t ∈ Set.Icc 0 1) :
      AtArcLength p (q :: rest) (t * dist p q) (lineMap p q t)
  | later {p q x : E} {rest : List E} {s : ℝ} (h : AtArcLength q rest s x) :
      AtArcLength p (q :: rest) (dist p q + s) x

omit [NormedSpace ℝ E] in
theorem polylineLength_nonneg (p : E) (points : List E) : 0 ≤ polylineLength p points := by
  induction points generalizing p with
  | nil => exact le_refl 0
  | cons q rest ih => exact add_nonneg dist_nonneg (ih q)

theorem atArcLength_start (p q : E) (rest : List E) : AtArcLength p (q :: rest) 0 p := by
  have hStart : AtArcLength p (q :: rest) (0 * dist p q) (lineMap p q (0 : ℝ)) :=
    .here (Set.left_mem_Icc.mpr zero_le_one)
  rwa [zero_mul, lineMap_apply_zero] at hStart

theorem atArcLength_end (p q : E) (rest : List E) :
    AtArcLength p (q :: rest) (polylineLength p (q :: rest)) ((q :: rest).getLast (List.cons_ne_nil q rest)) := by
  induction rest generalizing p q with
  | nil =>
    have hEnd : AtArcLength p [q] (1 * dist p q) (lineMap p q (1 : ℝ)) := .here (Set.right_mem_Icc.mpr zero_le_one)
    rw [one_mul, lineMap_apply_one] at hEnd
    simpa [polylineLength] using hEnd
  | cons r rest ih =>
    rw [List.getLast_cons (List.cons_ne_nil r rest)]
    exact .later (ih q r)

/-- No way along the polyline is shorter than the straight one. -/
theorem AtArcLength.dist_start_le {p x : E} {points : List E} {s : ℝ} (h : AtArcLength p points s x) :
    dist p x ≤ s := by
  induction h with
  | @here p q rest t h =>
    rw [dist_left_lineMap, Real.norm_of_nonneg h.1]
  | @later p q x rest s h ih =>
    have hTriangle := dist_triangle p q x
    linarith

theorem AtArcLength.dist_le {p x y : E} {points : List E} {s t : ℝ} (hx : AtArcLength p points s x)
    (hy : AtArcLength p points t y) : dist x y ≤ |s - t| := by
  -- from a place of the first segment to one after it the way leads over the segment's end
  have hAcross : ∀ {p q : E} {rest : List E} {c r : ℝ} {z : E}, c ∈ Set.Icc (0 : ℝ) 1 → AtArcLength q rest r z →
      dist (lineMap p q c) z ≤ dist p q + r - c * dist p q := by
    intro p q rest c r z hc hz
    have hTriangle := dist_triangle (lineMap p q c) q z
    have hRest := hz.dist_start_le
    rw [dist_lineMap_right, Real.norm_of_nonneg (sub_nonneg.mpr hc.2)] at hTriangle
    linarith
  induction hx generalizing t y with
  | @here p q rest c h =>
    cases hy with
    | here h' =>
      rw [dist_lineMap_lineMap, ← sub_mul, abs_mul, abs_of_nonneg (dist_nonneg (x := p) (y := q)), Real.dist_eq]
    | later hy =>
      rw [abs_sub_comm]
      exact (hAcross h hy).trans (le_abs_self _)
  | @later p q x rest s hx ih =>
    cases hy with
    | here h' =>
      rw [dist_comm]
      exact (hAcross h' hx).trans (le_abs_self _)
    | later hy =>
      rw [add_sub_add_left_eq_sub]
      exact ih hy

theorem AtArcLength.unique {p x y : E} {points : List E} {s : ℝ} (hx : AtArcLength p points s x)
    (hy : AtArcLength p points s y) : x = y := by
  have hDist := hx.dist_le hy
  rw [sub_self, abs_zero] at hDist
  exact dist_le_zero.mp hDist

theorem continuousOn_of_atArcLength {p : E} {points : List E} {position : ℝ → E} {way : ℝ → ℝ} {times : Set ℝ}
    (hWay : ContinuousOn way times) (h : ∀ o ∈ times, AtArcLength p points (way o) (position o)) :
    ContinuousOn position times := by
  rw [Metric.continuousOn_iff] at hWay ⊢
  intro o ho ε hε
  obtain ⟨δ, hδ, hNear⟩ := hWay o ho ε hε
  refine ⟨δ, hδ, ?_⟩
  intro o' ho' hClose
  calc
    dist (position o') (position o) ≤ |way o' - way o| := (h o' ho').dist_le (h o ho)
    _ = dist (way o') (way o) := (Real.dist_eq _ _).symm
    _ < ε := hNear o' ho' hClose

end Symulator.Library
