import Mathlib.Data.List.Basic
import Mathlib.Order.Basic

/-! # Traces of a step relation

A trace is a finite sequence of labelled steps. Where some of the labels count down what is left to wait, a
trace with enough of them passes the end of the wait.
-/

namespace Symulator.Library

set_option autoImplicit false

universe u v

variable {σ : Type u} {α : Type v}

inductive Trace (step : σ → α → σ → Prop) : σ → List α → σ → Prop
  | nil (s : σ) : Trace step s [] s
  | cons {s s' t : σ} {a : α} {labels : List α} (hStep : step s a s') (hRest : Trace step s' labels t) :
    Trace step s (a :: labels) t

namespace Trace

variable {step : σ → α → σ → Prop}

theorem invariant {I : σ → Prop} (hKeep : ∀ {s a s'}, I s → step s a s' → I s') {s t : σ} {labels : List α}
    (hTrace : Trace step s labels t) (hs : I s) : I t := by
  induction hTrace with
  | nil s => exact hs
  | cons hStep hRest ih => exact ih (hKeep hs hStep)

/-- As long as a state waits, at least one count is left, and each step ends the wait or leaves the count as its
label says. A trace with as many counting labels as are left passes a state in which the wait has ended. -/
theorem exists_done {I done : σ → Prop} {waits : σ → Int → Prop} {counts : α → Bool}
    (hKeep : ∀ {s a s'}, I s → step s a s' → I s') (hLeft : ∀ {s n}, I s → waits s n → 1 ≤ n)
    (hStep : ∀ {s a s' n}, I s → waits s n → step s a s' →
      done s' ∨ waits s' (if counts a = true then n - 1 else n))
    {s t : σ} {labels : List α} {n : Int} (hTrace : Trace step s labels t) (hs : I s) (hWaits : waits s n)
    (hEnough : n ≤ labels.countP counts) :
    ∃ before after u, labels = before ++ after ∧ Trace step s before u ∧ Trace step u after t ∧
      (before.countP counts : Int) ≤ n ∧ done u := by
  induction hTrace generalizing n with
  | nil s =>
    have hPos := hLeft hs hWaits
    rw [List.countP_nil] at hEnough
    omega
  | @cons s s' t a labels hFirst hRest ih =>
    have hPos := hLeft hs hWaits
    rw [List.countP_cons] at hEnough
    rcases hStep hs hWaits hFirst with hDone | hWaits'
    · refine ⟨[a], labels, s', rfl, cons hFirst (nil s'), hRest, ?_, hDone⟩
      rw [List.countP_singleton]
      split
      · exact hPos
      · omega
    · have hLess : (if counts a = true then n - 1 else n) ≤ labels.countP counts := by
        split
        · rw [if_pos ‹_›] at hEnough
          omega
        · rw [if_neg ‹_›] at hEnough
          omega
      obtain ⟨before, after, u, rfl, hBefore, hAfter, hCount, hDone⟩ := ih (hKeep hs hFirst) hWaits' hLess
      refine ⟨a :: before, after, u, rfl, cons hFirst hBefore, hAfter, ?_, hDone⟩
      rw [List.countP_cons]
      split
      · rw [if_pos ‹_›] at hCount
        omega
      · rw [if_neg ‹_›] at hCount
        omega

end Trace

end Symulator.Library
