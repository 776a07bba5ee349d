import Mathlib.Init

/-! # Saving over a file

A save that opens a file, and thereby empties it, before it turns what it saves into text. It leaves the file as it was
when it fails before it opens the file. When it fails after that, the old text is gone.
-/

namespace Symulator.Library

set_option autoImplicit false

universe u v w

/-- What is saved, whether the file opens, and the text of what is saved. -/
structure Overwrite (ε : Type u) (δ : Type v) (γ : Type w) where
  prepared : Except ε δ
  opened : Except ε Unit
  serialize : δ → Except ε γ
  cleared : γ

namespace Overwrite

variable {ε : Type u} {δ : Type v} {γ : Type w}

/-- The result, and the text of the file, `none` where there is no file. -/
def run (save : Overwrite ε δ γ) (before : Option γ) : Except ε Unit × Option γ :=
  match save.prepared with
  | .error e => (.error e, before)
  | .ok document =>
    match save.opened with
    | .error e => (.error e, before)
    | .ok _ =>
      match save.serialize document with
      | .error e => (.error e, some save.cleared)
      | .ok text => (.ok (), some text)

/-- The save returns and the file is as wanted, or it throws and the file is as before. -/
def Atomic (wanted : Option γ → Prop) (before : Option γ) : Except ε Unit × Option γ → Prop
  | (.ok _, after) => wanted after
  | (.error _, after) => after = before

theorem atomic_run_iff {save : Overwrite ε δ γ} {wanted : Option γ → Prop} {before : Option γ} :
    Atomic wanted before (save.run before) ↔
      ∀ document, save.prepared = .ok document → save.opened = .ok () →
        (∀ text, save.serialize document = .ok text → wanted (some text)) ∧
          ((∃ e, save.serialize document = .error e) → before = some save.cleared) := by
  unfold run
  cases hPrepared : save.prepared with
  | error e => simp [Atomic]
  | ok document =>
    cases hOpened : save.opened with
    | error e => simp [Atomic]
    | ok u =>
      cases hText : save.serialize document with
      | error e => simp [Atomic, hText, eq_comm]
      | ok text => simp [Atomic, hText]

end Overwrite

end Symulator.Library
