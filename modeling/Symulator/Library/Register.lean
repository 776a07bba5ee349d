import Mathlib.Data.List.Basic
import Mathlib.Logic.Basic

/-! # Registers over a log of changes

Many observations of a state behave as a register: each change of a log either overwrites the
value or leaves it alone. What a register holds after a whole log is then the last write for it.
-/

namespace Symulator.Library

set_option autoImplicit false

universe u v w

/-- The value a register holds after a log, the last write in it winning. -/
def lastWrite {γ : Type u} {β : Type v} (write : γ → Option β) (b : β) (log : List γ) : β :=
  log.foldl (fun b c => (write c).getD b) b

section LastWrite

variable {γ : Type u} {β : Type v} {write : γ → Option β}

@[simp] theorem lastWrite_nil (b : β) : lastWrite write b [] = b := rfl

@[simp] theorem lastWrite_cons (b : β) (c : γ) (log : List γ) :
    lastWrite write b (c :: log) = lastWrite write ((write c).getD b) log := rfl

@[simp] theorem lastWrite_append (b : β) (log log' : List γ) :
    lastWrite write b (log ++ log') = lastWrite write (lastWrite write b log) log' :=
  List.foldl_append

theorem lastWrite_of_silent {log : List γ} (h : ∀ c ∈ log, write c = none) (b : β) :
    lastWrite write b log = b := by
  induction log with
  | nil => rfl
  | cons c log ih =>
    rw [lastWrite_cons, h c List.mem_cons_self]
    exact ih (fun c' hc' => h c' (List.mem_cons_of_mem _ hc'))

/-- A log whose writes all store one value leaves that value, or the old one if it is silent. -/
theorem lastWrite_of_constant {log : List γ} {x : β} (h : ∀ c ∈ log, ∀ y, write c = some y → y = x) (b : β) :
    lastWrite write b log = if log.any (fun c => (write c).isSome) then x else b := by
  induction log generalizing b with
  | nil => rfl
  | cons c log ih =>
    rw [lastWrite_cons, ih (fun c' hc' => h c' (List.mem_cons_of_mem _ hc')), List.any_cons]
    cases hc : write c with
    | none => simp
    | some y =>
      rw [h c List.mem_cons_self y hc]
      simp

/-- As before, with the condition for the log to write at all given separately. -/
theorem lastWrite_of_iff {log : List γ} {x : β} {p : Prop} [Decidable p]
    (h : ∀ c ∈ log, ∀ y, write c = some y → y = x) (hp : p ↔ ∃ c ∈ log, write c ≠ none) (b : β) :
    lastWrite write b log = if p then x else b := by
  rw [lastWrite_of_constant h]
  have hAny : (log.any fun c => (write c).isSome) = decide p := by
    rw [Bool.eq_iff_iff, List.any_eq_true, decide_eq_true_eq, hp]
    simp only [Option.isSome_iff_ne_none]
  rw [hAny]
  simp only [decide_eq_true_eq]

theorem lastWrite_eq_getLastD (b : β) (log : List γ) :
    lastWrite write b log = (log.filterMap write).getLastD b := by
  induction log generalizing b with
  | nil => rfl
  | cons c log ih =>
    rw [lastWrite_cons, ih]
    cases hc : write c with
    | none => rw [List.filterMap_cons_none hc, Option.getD_none]
    | some y => rw [List.filterMap_cons_some hc, Option.getD_some, List.getLastD_cons]

theorem lastWrite_mem_or (b : β) (log : List γ) :
    lastWrite write b log = b ∨ ∃ c ∈ log, write c = some (lastWrite write b log) := by
  induction log generalizing b with
  | nil => exact Or.inl rfl
  | cons c log ih =>
    rw [lastWrite_cons]
    rcases ih ((write c).getD b) with h | ⟨c', hc', hw⟩
    · cases hc : write c with
      | none => exact Or.inl (by rw [hc] at h; exact h)
      | some y =>
        right
        refine ⟨c, List.mem_cons_self, ?_⟩
        rw [hc] at h
        rw [hc, h]
        rfl
    · exact Or.inr ⟨c', List.mem_cons_of_mem _ hc', hw⟩

theorem lastWrite_mem {log : List γ} {c : γ} (hc : c ∈ log) (hw : write c ≠ none) (b : β) :
    ∃ c ∈ log, write c = some (lastWrite write b log) := by
  induction log generalizing b with
  | nil => cases hc
  | cons a log ih =>
    rw [lastWrite_cons]
    rcases List.mem_cons.mp hc with rfl | hc
    · obtain ⟨y, hy⟩ := Option.ne_none_iff_exists'.mp hw
      rcases lastWrite_mem_or ((write c).getD b) log with h | ⟨c', hc', hw'⟩
      · refine ⟨c, List.mem_cons_self, ?_⟩
        rw [h, hy]
        rfl
      · exact ⟨c', List.mem_cons_of_mem _ hc', hw'⟩
    · obtain ⟨c', hc', hw'⟩ := ih hc ((write a).getD b)
      exact ⟨c', List.mem_cons_of_mem _ hc', hw'⟩

end LastWrite

/-- A partial observation of the state that every change overwrites or leaves alone. It reads
`none` where the state has nothing to observe, and no change brings it into being. -/
structure Register (σ : Type u) (γ : Type v) (apply : σ → γ → σ) (β : Type w) where
  read : σ → Option β
  write : γ → Option β
  read_apply : ∀ s c, read (apply s c) = (read s).map (fun b => (write c).getD b)

namespace Register

variable {σ : Type u} {γ : Type v} {apply : σ → γ → σ} {β : Type w}

theorem read_foldl (r : Register σ γ apply β) (s : σ) (log : List γ) :
    r.read (log.foldl apply s) = (r.read s).map (fun b => lastWrite r.write b log) := by
  induction log generalizing s with
  | nil => simp
  | cons c log ih =>
    rw [List.foldl_cons, ih, r.read_apply, Option.map_map]
    rfl

/-- What a register holds after a log, when all that the log can write to it is `x`. -/
theorem read_foldl_of_iff (r : Register σ γ apply β) (s : σ) {log : List γ} {x : β} {p : Prop} [Decidable p]
    (hConst : ¬ ∃ c ∈ log, ∃ y, r.write c = some y ∧ y ≠ x) (hp : p ↔ ∃ c ∈ log, r.write c ≠ none) :
    r.read (log.foldl apply s) = (r.read s).map (fun b => if p then x else b) := by
  rw [read_foldl]
  congr 1
  funext b
  refine lastWrite_of_iff (fun c hc y hy => ?_) hp b
  by_contra hne
  exact hConst ⟨c, hc, y, hy, hne⟩

theorem read_foldl_of_silent (r : Register σ γ apply β) (s : σ) {log : List γ}
    (h : ∀ c ∈ log, r.write c = none) : r.read (log.foldl apply s) = r.read s := by
  have hId : (fun b => lastWrite r.write b log) = id := funext (lastWrite_of_silent h)
  rw [read_foldl, hId, Option.map_id_fun, id]

end Register

end Symulator.Library
