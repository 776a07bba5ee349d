import Mathlib.Data.List.Induction

/-! # Updates heard again

An update that overwrites part of a state may be heard more than once. Where of any two updates the later one hides
the earlier one, or they touch different parts, the last updates of a sequence change nothing when they are heard a
second time.
-/

namespace Symulator.Library

set_option autoImplicit false

universe u v

/-- The earlier of two updates changes places with the later one, or is lost behind it. -/
def Apart {σ : Type u} (earlier later : σ → σ) : Prop :=
  (∀ s, later (earlier s) = earlier (later s)) ∨ ∀ s, later (earlier s) = later s

/-- An update of a part is one of the whole. -/
theorem Apart.lift {σ : Type u} {τ : Type v} {earlier later : σ → σ} (h : Apart earlier later)
    (lift : (σ → σ) → τ → τ) (hLift : ∀ f g t, lift g (lift f t) = lift (g ∘ f) t) :
    Apart (lift earlier) (lift later) := by
  refine h.imp (fun hSwap t => ?_) fun hHide t => ?_
  · rw [hLift, hLift, show later ∘ earlier = earlier ∘ later from funext hSwap]
  · rw [hLift, show later ∘ earlier = later from funext hHide]

/-- An update heard twice in a row does what it does once, and any two are apart. -/
structure Overwrites {σ : Type u} {ε : Type v} (act : σ → ε → σ) : Prop where
  again : ∀ s e, act (act s e) e = act s e
  apart : ∀ e f, Apart (fun s => act s e) fun s => act s f

namespace Overwrites

variable {σ : Type u} {ε : Type v} {act : σ → ε → σ}

/-- An update that is heard later as well need not be heard before. -/
theorem absorbed (h : Overwrites act) (s : σ) (e : ε) (es : List ε) :
    act (es.foldl act (act s e)) e = act (es.foldl act s) e := by
  induction es generalizing s with
  | nil => exact h.again s e
  | cons f es ih =>
    rw [List.foldl_cons, List.foldl_cons]
    rcases h.apart e f with hSwap | hHidden
    · have hSwapped : act (act s e) f = act (act s f) e := hSwap s
      rw [hSwapped, ih]
    · have hLost : act (act s e) f = act s f := hHidden s
      rw [hLost]

theorem foldl_twice (h : Overwrites act) (s : σ) (es : List ε) : es.foldl act (es.foldl act s) = es.foldl act s := by
  induction es using List.reverseRecOn generalizing s with
  | nil => rfl
  | append_singleton es e ih =>
    rw [List.foldl_append, List.foldl_append, List.foldl_cons, List.foldl_cons, List.foldl_nil, List.foldl_nil,
      h.absorbed, ih]

/-- Whoever has heard everything may hear the end of it again. -/
theorem foldl_suffix (h : Overwrites act) (s : σ) {heard late : List ε} (hLate : late <:+ heard) :
    late.foldl act (heard.foldl act s) = heard.foldl act s := by
  obtain ⟨early, rfl⟩ := hLate
  rw [List.foldl_append, h.foldl_twice]

end Overwrites

end Symulator.Library
