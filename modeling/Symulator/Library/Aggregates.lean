import Mathlib.Algebra.BigOperators.Group.List.Basic
import Mathlib.Order.MinMax

/-! # What a loop adds up

A loop over a list, followed through one measure at a time: a sum grows by what each element brings, and a least value
is the starting value or that of an element. Where the loop changes a list at single places, setting distinct places
that hold nothing yet adds to the sum what is set there.
-/

namespace Symulator.Library

set_option autoImplicit false

universe u v w

section Loops

variable {σ : Type u} {α : Type v} {M : Type w} {step : σ → α → σ} {f : σ → M} {g : α → M}

theorem measure_foldl_add [AddMonoid M] (h : ∀ s a, f (step s a) = f s + g a) (xs : List α) (s : σ) :
    f (xs.foldl step s) = f s + (xs.map g).sum := by
  induction xs generalizing s with
  | nil => exact (add_zero _).symm
  | cons a xs ih => rw [List.foldl_cons, ih, h, List.map_cons, List.sum_cons, add_assoc]

theorem measure_foldl_of_eq (h : ∀ s a, f (step s a) = f s) (xs : List α) (s : σ) :
    f (xs.foldl step s) = f s := by
  induction xs generalizing s with
  | nil => rfl
  | cons a xs ih => rw [List.foldl_cons, ih, h]

theorem measure_foldl_append {β : Type w} {f : σ → List β} {g : α → List β}
    (h : ∀ s a, f (step s a) = f s ++ g a) (xs : List α) (s : σ) :
    f (xs.foldl step s) = f s ++ xs.flatMap g := by
  induction xs generalizing s with
  | nil => exact (List.append_nil _).symm
  | cons a xs ih => rw [List.foldl_cons, ih, h, List.flatMap_cons, List.append_assoc]

variable [LinearOrder M] (h : ∀ s a, f (step s a) = min (f s) (g a))

include h

theorem measure_foldl_le (xs : List α) (s : σ) :
    f (xs.foldl step s) ≤ f s ∧ ∀ a ∈ xs, f (xs.foldl step s) ≤ g a := by
  induction xs generalizing s with
  | nil => exact ⟨le_refl _, by simp⟩
  | cons a xs ih =>
    obtain ⟨hStart, hRest⟩ := ih (step s a)
    rw [h] at hStart
    refine ⟨hStart.trans (min_le_left _ _), ?_⟩
    intro b hb
    rcases List.mem_cons.mp hb with rfl | hb
    · exact hStart.trans (min_le_right _ _)
    · exact hRest b hb

theorem measure_foldl_attained (xs : List α) (s : σ) :
    f (xs.foldl step s) = f s ∨ ∃ a ∈ xs, f (xs.foldl step s) = g a := by
  induction xs generalizing s with
  | nil => exact Or.inl rfl
  | cons a xs ih =>
    rw [List.foldl_cons]
    rcases ih (step s a) with hStart | ⟨b, hb, hEq⟩
    · rw [h] at hStart
      rcases min_choice (f s) (g a) with hLeft | hRight
      · exact Or.inl (hStart.trans hLeft)
      · exact Or.inr ⟨a, List.mem_cons_self, hStart.trans hRight⟩
    · exact Or.inr ⟨b, List.mem_cons_of_mem _ hb, hEq⟩

end Loops

section Sums

variable {M : Type u} [AddCommGroup M]

theorem sum_set_of_zero {ws : List M} {i : Nat} (h : ws[i]? = some 0) (w : M) : (ws.set i w).sum = ws.sum + w := by
  obtain ⟨hi, hZero⟩ := List.getElem?_eq_some_iff.mp h
  rw [List.sum_set', dif_pos hi, hZero, neg_zero, zero_add]

theorem sum_foldl_set {places : List (Nat × M)} (hDistinct : (places.map Prod.fst).Nodup) {ws : List M}
    (hEmpty : ∀ place ∈ places, ws[place.1]? = some 0) :
    (places.foldl (fun ws place => ws.set place.1 place.2) ws).sum = ws.sum + (places.map Prod.snd).sum := by
  induction places generalizing ws with
  | nil => exact (add_zero _).symm
  | cons place places ih =>
    rw [List.map_cons, List.nodup_cons] at hDistinct
    rw [List.foldl_cons, ih hDistinct.2, sum_set_of_zero (hEmpty place List.mem_cons_self), List.map_cons,
      List.sum_cons, add_assoc]
    intro other hOther
    have hApart : place.1 ≠ other.1 := by
      intro hSame
      exact hDistinct.1 (hSame ▸ List.mem_map_of_mem hOther)
    rw [List.getElem?_set_ne hApart]
    exact hEmpty other (List.mem_cons_of_mem _ hOther)

end Sums

section Changes

variable {α : Type u} {ι : Type v} {M : Type w} (index : ι → Nat) {change : ι → α → α} {measure : α → M}

theorem map_modify_of_eq {f : α → α} (h : ∀ a, measure (f a) = measure a) (xs : List α) (i : Nat) :
    (xs.modify i f).map measure = xs.map measure := by
  apply List.ext_getElem?
  intro j
  rw [List.getElem?_map, List.getElem?_map, List.getElem?_modify]
  cases xs[j]? with
  | none => rfl
  | some a =>
    by_cases hij : i = j
    · simp [hij, h]
    · simp [hij]

theorem map_modify_of_const {f : α → α} {w : M} (h : ∀ a, measure (f a) = w) (xs : List α) (i : Nat) :
    (xs.modify i f).map measure = (xs.map measure).set i w := by
  apply List.ext_getElem?
  intro j
  rw [List.getElem?_map, List.getElem?_modify, List.getElem?_set']
  by_cases hij : i = j
  · subst hij
    cases hj : xs[i]? <;> simp [hj, h]
  · simp [hij]

theorem map_foldl_modify_of_eq (h : ∀ e a, measure (change e a) = measure a) (entries : List ι) (xs : List α) :
    (entries.foldl (fun xs e => xs.modify (index e) (change e)) xs).map measure = xs.map measure := by
  induction entries generalizing xs with
  | nil => rfl
  | cons e entries ih => rw [List.foldl_cons, ih, map_modify_of_eq (h e)]

theorem map_foldl_modify_of_const {gain : ι → M} (h : ∀ e a, measure (change e a) = gain e) (entries : List ι)
    (xs : List α) : (entries.foldl (fun xs e => xs.modify (index e) (change e)) xs).map measure =
      (entries.map fun e => (index e, gain e)).foldl (fun ws place => ws.set place.1 place.2) (xs.map measure) := by
  induction entries generalizing xs with
  | nil => rfl
  | cons e entries ih => rw [List.foldl_cons, ih, map_modify_of_const (h e), List.map_cons, List.foldl_cons]

/-- Changes that each set an empty measure at a place of its own add to its sum what they set. -/
theorem sum_foldl_modify [AddCommGroup M] {gain : ι → M} (h : ∀ e a, measure (change e a) = gain e)
    {entries : List ι} (hDistinct : (entries.map index).Nodup) {xs : List α}
    (hEmpty : ∀ e ∈ entries, (xs.map measure)[index e]? = some 0) :
    ((entries.foldl (fun xs e => xs.modify (index e) (change e)) xs).map measure).sum =
      (xs.map measure).sum + (entries.map gain).sum := by
  rw [map_foldl_modify_of_const index h, sum_foldl_set]
  · simp only [List.map_map, Function.comp_def]
  · simpa only [List.map_map, Function.comp_def] using hDistinct
  · intro place hPlace
    obtain ⟨e, he, rfl⟩ := List.mem_map.mp hPlace
    exact hEmpty e he

end Changes

end Symulator.Library
