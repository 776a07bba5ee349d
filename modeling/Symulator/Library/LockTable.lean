import Mathlib.Logic.Basic

/-! # Lock tables that agree with their owners

A table says who holds each key, and a relation says who ought to. They agree when they are the same
relation. Taking keys for a new owner keeps the agreement exactly when the keys were free, and
releasing what an owner ought to hold always keeps it.
-/

namespace Symulator.Library

set_option autoImplicit false

universe u v

variable {κ : Type u} {ρ : Type v}

def Agrees (keys : κ → Prop) (holder : κ → Option ρ) (owns : ρ → κ → Prop) : Prop :=
  ∀ k, keys k → ∀ r, holder k = some r ↔ owns r k

/-- The table after `r` has taken every key that `claimed` picks, whoever held it. -/
def acquire (holder : κ → Option ρ) (claimed : κ → Prop) [DecidablePred claimed] (r : ρ) (k : κ) : Option ρ :=
  if claimed k then some r else holder k

section Agrees

variable {keys : κ → Prop} {holder : κ → Option ρ} {owns : ρ → κ → Prop} {claimed : κ → Prop}
  [DecidablePred claimed] {r : ρ}

theorem agrees_congr {keys' : κ → Prop} {holder' : κ → Option ρ} {owns' : ρ → κ → Prop}
    (hKeys : ∀ k, keys' k ↔ keys k) (hHolder : ∀ k, keys k → holder' k = holder k)
    (hOwns : ∀ k, keys k → ∀ r, owns' r k ↔ owns r k) :
    Agrees keys' holder' owns' ↔ Agrees keys holder owns := by
  refine forall_congr' fun k => ?_
  rw [hKeys k]
  refine forall_congr' fun hk => forall_congr' fun r => ?_
  rw [hHolder k hk, hOwns k hk]

/-- A new owner may take exactly the keys nobody holds. -/
theorem Agrees.acquire_iff (h : Agrees keys holder owns) (hNew : ∀ k, ¬ owns r k) :
    Agrees keys (acquire holder claimed r) (fun r' k => owns r' k ∨ r' = r ∧ claimed k) ↔
      ∀ k, keys k → claimed k → holder k = none := by
  constructor
  · intro h' k hk hClaimed
    cases hHolder : holder k with
    | none => rfl
    | some r' =>
      have hTaken := (h' k hk r').mpr (Or.inl ((h k hk r').mp hHolder))
      rw [acquire, if_pos hClaimed, Option.some.injEq] at hTaken
      subst hTaken
      exact absurd ((h k hk r).mp hHolder) (hNew k)
  · intro hFree k hk r'
    by_cases hClaimed : claimed k
    · rw [acquire, if_pos hClaimed, Option.some.injEq]
      constructor
      · rintro rfl
        exact Or.inr ⟨rfl, hClaimed⟩
      · rintro (hOwns | ⟨rfl, _⟩)
        · have hHolder := (h k hk r').mpr hOwns
          rw [hFree k hk hClaimed] at hHolder
          cases hHolder
        · rfl
    · rw [acquire, if_neg hClaimed, h k hk r']
      exact ⟨Or.inl, fun hOr => hOr.resolve_right (fun hNo => hClaimed hNo.2)⟩

/-- Taking keys for an owner that is not to own more keeps the agreement only if it held them. -/
theorem Agrees.overwrite_iff (h : Agrees keys holder owns) :
    Agrees keys (acquire holder claimed r) owns ↔ ∀ k, keys k → claimed k → holder k = some r := by
  constructor
  · intro h' k hk hClaimed
    exact (h k hk r).mpr ((h' k hk r).mp (if_pos hClaimed))
  · intro hHeld k hk r'
    by_cases hClaimed : claimed k
    · rw [acquire, if_pos hClaimed, ← hHeld k hk hClaimed]
      exact h k hk r'
    · rw [acquire, if_neg hClaimed]
      exact h k hk r'

/-- Releasing the keys of an owner that goes away keeps the agreement. -/
theorem Agrees.release (h : Agrees keys holder owns) {holder' : κ → Option ρ}
    (hFreed : ∀ k, keys k → owns r k → holder' k = none)
    (hKept : ∀ k, keys k → ¬ owns r k → holder' k = holder k) :
    Agrees keys holder' (fun r' k => r' ≠ r ∧ owns r' k) := by
  intro k hk r'
  by_cases hOwns : owns r k
  · rw [hFreed k hk hOwns]
    constructor
    · intro hNone
      cases hNone
    · rintro ⟨hne, hOwns'⟩
      have hHolder := (h k hk r).mpr hOwns
      rw [(h k hk r').mpr hOwns'] at hHolder
      exact absurd (Option.some.inj hHolder) hne
  · rw [hKept k hk hOwns, h k hk r']
    constructor
    · intro hOwns'
      refine ⟨?_, hOwns'⟩
      rintro rfl
      exact hOwns hOwns'
    · exact And.right

end Agrees

end Symulator.Library
