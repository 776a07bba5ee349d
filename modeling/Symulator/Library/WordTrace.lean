import Mathlib.Computability.Language

/-! # Traces made of words

A conversation is a sequence of words of a language, said mark by mark. In every phase of it some word has
been begun, and each mark carries the word on or completes it. The trace of such a conversation is then a
prefix of a repetition of words.
-/

namespace Symulator.Library

set_option autoImplicit false

open Computability

universe u v

variable {α : Type u} {σ : Type v} (word : Language α) (begun : σ → Language α)

/-- A mark that leads from phase `p` to phase `q` carries every word begun in `p` on, or completes it. -/
def CarriesOn (p : σ) (a : α) (q : σ) : Prop :=
  ∀ part ∈ begun p, part ++ [a] ∈ begun q ∨ part ++ [a] ∈ word ∧ [] ∈ begun q

variable {word begun}

theorem concat_mem_kstar {done w : List α} (hDone : done ∈ word∗) (hWord : w ∈ word) : done ++ w ∈ word∗ := by
  obtain ⟨words, rfl, hWords⟩ := Language.mem_kstar.mp hDone
  refine Language.mem_kstar.mpr ⟨words ++ [w], by simp, ?_⟩
  intro v hv
  rcases List.mem_append.mp hv with hv | hv
  · exact hWords v hv
  · rw [List.mem_singleton.mp hv]
    exact hWord

theorem mem_kstar_mul_concat {p q : σ} {a : α} {trace : List α} (hTrace : trace ∈ word∗ * begun p)
    (h : CarriesOn word begun p a q) : trace ++ [a] ∈ word∗ * begun q := by
  obtain ⟨done, hDone, part, hPart, rfl⟩ := Language.mem_mul.mp hTrace
  rw [List.append_assoc]
  rcases h part hPart with hBegun | ⟨hWord, hNew⟩
  · exact Language.append_mem_mul hDone hBegun
  · have hStar : done ++ (part ++ [a]) ∈ word∗ := concat_mem_kstar hDone hWord
    rw [← List.append_nil (done ++ (part ++ [a]))]
    exact Language.append_mem_mul hStar hNew

/-- Where every word begun can be completed, the trace is a prefix of complete words. -/
theorem prefix_of_mem_kstar_mul {p : σ} {trace : List α} (hTrace : trace ∈ word∗ * begun p)
    (hComplete : ∀ part ∈ begun p, part ≠ [] → ∃ w ∈ word, part <+: w) : ∃ w ∈ word∗, trace <+: w := by
  obtain ⟨done, hDone, part, hPart, rfl⟩ := Language.mem_mul.mp hTrace
  by_cases hNone : part = []
  · subst hNone
    exact ⟨done, hDone, by rw [List.append_nil]⟩
  · obtain ⟨w, hWord, hPrefix⟩ := hComplete part hPart hNone
    exact ⟨done ++ w, concat_mem_kstar hDone hWord, (List.prefix_append_right_inj _).mpr hPrefix⟩

end Symulator.Library
