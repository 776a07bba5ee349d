import Mathlib.Data.List.Basic

/-! # Writers with a footprint

A state is read key by key, and every writer leaves the keys outside its footprint alone. A key that lies
in the footprint of at most one writer then reads after all of them as after that one, in whatever order
they take their turns.
-/

namespace Symulator.Library

set_option autoImplicit false

universe u v w x

variable {σ : Type u} {α : Type v} {κ : Type w} {β : Type x}

/-- What a writer leaves at a key depends on what it found there, and outside its footprint it is that. -/
structure Footprint (read : σ → κ → β) (act : σ → α → σ) (touches : α → κ → Prop) : Prop where
  frame : ∀ s a k, ¬ touches a k → read (act s a) k = read s k
  cellwise : ∀ s t a k, read s k = read t k → read (act s a) k = read (act t a) k

/-- No two of the writers have the key in their footprints. -/
def TouchedOnce (touches : α → κ → Prop) (k : κ) (writers : List α) : Prop :=
  writers.Pairwise fun a b => ¬ (touches a k ∧ touches b k)

theorem TouchedOnce.perm {touches : α → κ → Prop} {k : κ} {as bs : List α} (h : as.Perm bs)
    (hOnce : TouchedOnce touches k as) : TouchedOnce touches k bs :=
  (h.pairwise_iff (fun hab hba => hab ⟨hba.2, hba.1⟩)).mp hOnce

/-- The one writer that touches the key is all that a filter for it leaves. -/
theorem TouchedOnce.filter_eq {touches : α → κ → Prop} {k : κ} {as : List α} (hOnce : TouchedOnce touches k as)
    {p : α → Bool} (hp : ∀ a, p a = true ↔ touches a k) {a : α} (ha : a ∈ as) (hTouch : touches a k) :
    as.filter p = [a] := by
  induction as with
  | nil => cases ha
  | cons b as ih =>
    obtain ⟨hFirst, hRest⟩ := List.pairwise_cons.mp hOnce
    rcases List.mem_cons.mp ha with rfl | ha
    · have hNone : as.filter p = [] :=
        List.filter_eq_nil_iff.mpr fun c hc hpc => hFirst c hc ⟨hTouch, (hp c).mp hpc⟩
      rw [List.filter_cons_of_pos ((hp a).mpr hTouch), hNone]
    · have hb : ¬ p b = true := fun hpb => hFirst a ha ⟨(hp b).mp hpb, hTouch⟩
      rw [List.filter_cons_of_neg hb, ih hRest ha]

theorem TouchedOnce.eq_of_touches {touches : α → κ → Prop} {k : κ} {as : List α} (hOnce : TouchedOnce touches k as)
    {a b : α} (ha : a ∈ as) (hb : b ∈ as) (hTouch : touches a k) (hTouch' : touches b k) : a = b := by
  by_contra hne
  obtain ⟨before, after, rfl⟩ := List.append_of_mem ha
  obtain ⟨-, hAfter, hCross⟩ := List.pairwise_append.mp hOnce
  rcases List.mem_append.mp hb with hb | hb
  · exact hCross b hb a List.mem_cons_self ⟨hTouch', hTouch⟩
  · rcases List.mem_cons.mp hb with rfl | hb
    · exact hne rfl
    · exact (List.pairwise_cons.mp hAfter).1 b hb ⟨hTouch, hTouch'⟩

namespace Footprint

variable {read : σ → κ → β} {act : σ → α → σ} {touches : α → κ → Prop} {k : κ}

theorem read_foldl_of_untouched (h : Footprint read act touches) {as : List α} (hAs : ∀ a ∈ as, ¬ touches a k)
    (s : σ) : read (as.foldl act s) k = read s k := by
  induction as generalizing s with
  | nil => rfl
  | cons a as ih =>
    rw [List.foldl_cons, ih (fun b hb => hAs b (List.mem_cons_of_mem _ hb))]
    exact h.frame s a k (hAs a List.mem_cons_self)

/-- A key touched by one writer only holds what that writer leaves there. -/
theorem read_foldl_of_touches (h : Footprint read act touches) {as : List α} {a : α}
    (hOnce : TouchedOnce touches k as) (ha : a ∈ as) (hTouch : touches a k) (s : σ) :
    read (as.foldl act s) k = read (act s a) k := by
  induction as generalizing s with
  | nil => cases ha
  | cons b as ih =>
    obtain ⟨hFirst, hRest⟩ := List.pairwise_cons.mp hOnce
    rw [List.foldl_cons]
    rcases List.mem_cons.mp ha with rfl | ha
    · exact h.read_foldl_of_untouched (fun c hc hc' => hFirst c hc ⟨hTouch, hc'⟩) _
    · rw [ih hRest ha]
      exact h.cellwise _ _ a k (h.frame s b k fun hb => hFirst a ha ⟨hb, hTouch⟩)

/-- The order of the writers does not matter at a key touched once. -/
theorem read_foldl_perm (h : Footprint read act touches) {as bs : List α} (hPerm : as.Perm bs)
    (hOnce : TouchedOnce touches k as) (s : σ) : read (as.foldl act s) k = read (bs.foldl act s) k := by
  by_cases hTouched : ∃ a ∈ as, touches a k
  · obtain ⟨a, ha, hTouch⟩ := hTouched
    rw [h.read_foldl_of_touches hOnce ha hTouch,
      h.read_foldl_of_touches (hOnce.perm hPerm) (hPerm.mem_iff.mp ha) hTouch]
  · have hAs : ∀ a ∈ as, ¬ touches a k := fun a ha hTouch => hTouched ⟨a, ha, hTouch⟩
    rw [h.read_foldl_of_untouched hAs, h.read_foldl_of_untouched fun b hb => hAs b (hPerm.mem_iff.mpr hb)]

end Footprint

/-- A property that some writers make hold and others break holds in the end, if it held at first or some writer
makes it hold, and after every writer that breaks it there comes one that makes it hold. -/
theorem foldl_of_mended {act : σ → α → σ} {P : σ → Prop} {breaks mends : α → Prop}
    (hMend : ∀ s a, mends a → P (act s a)) (hKeep : ∀ s a, P s → ¬ breaks a → P (act s a)) {writers : List α}
    (hAfter : ∀ before a after, writers = before ++ a :: after → breaks a → ∃ b ∈ after, mends b) (s : σ)
    (h : P s ∨ ∃ a ∈ writers, mends a) : P (writers.foldl act s) := by
  induction writers generalizing s with
  | nil => exact h.resolve_right (by simp)
  | cons a writers ih =>
    refine ih (fun before b after hSplit => hAfter (a :: before) b after (by rw [hSplit]; rfl)) _ ?_
    by_cases hMends : mends a
    · exact Or.inl (hMend s a hMends)
    · by_cases hBreaks : breaks a
      · exact Or.inr (hAfter [] a writers rfl hBreaks)
      · rcases h with hs | ⟨b, hb, hMends'⟩
        · exact Or.inl (hKeep s a hs hBreaks)
        · rcases List.mem_cons.mp hb with rfl | hb
          · exact absurd hMends' hMends
          · exact Or.inr ⟨b, hb, hMends'⟩

end Symulator.Library
