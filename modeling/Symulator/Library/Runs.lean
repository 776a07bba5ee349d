import Mathlib.Data.List.Induction

/-! # Runs of a partial step function

`step s a = none` means that action `a` is refused in state `s`. A property is kept along a run
either outright or under a guard on each step; where the guard is exactly what one step needs,
the guarded runs are exactly the runs that keep the property.
-/

namespace Symulator.Library

set_option autoImplicit false

universe u v w

variable {σ : Type u} {α : Type v} (step : σ → α → Option σ)

def run : σ → List α → Option σ
  | s, [] => some s
  | s, a :: actions => (step s a).bind (fun s' => run s' actions)

/-- Every step the run takes meets the guard in the state it starts from. -/
def Guarded (guard : σ → α → Prop) : σ → List α → Prop
  | _, [] => True
  | s, a :: actions => guard s a ∧ ∀ s', step s a = some s' → Guarded guard s' actions

/-- Every step the run takes stands in the relation to the states before and after it. -/
def EachStep (R : σ → α → σ → Prop) : σ → List α → Prop
  | _, [] => True
  | s, a :: actions => ∀ s', step s a = some s' → R s a s' ∧ EachStep R s' actions

/-- Every state the run goes through has the property, the first and the last included. -/
def Always (P : σ → Prop) : σ → List α → Prop
  | s, [] => P s
  | s, a :: actions => P s ∧ ∀ s', step s a = some s' → Always P s' actions

/-- In the state `t` of the run the property has come to hold with the step before. -/
def Enters (P : σ → Prop) (s : σ) (actions : List α) (t : σ) : Prop :=
  ∃ before a after u, actions = before ++ a :: after ∧ run step s before = some u ∧ step u a = some t ∧ ¬ P u ∧ P t

variable {step}

/-- Whether a run is guarded can be computed where each guard can. -/
instance decidableGuarded {guard : σ → α → Prop} [∀ s a, Decidable (guard s a)] :
    (s : σ) → (actions : List α) → Decidable (Guarded step guard s actions)
  | _, [] => inferInstanceAs (Decidable True)
  | s, a :: actions =>
    have : Decidable (∀ s', step s a = some s' → Guarded step guard s' actions) :=
      match step s a with
      | none => .isTrue fun _ hNext => nomatch hNext
      | some s' =>
        have : Decidable (Guarded step guard s' actions) := decidableGuarded s' actions
        decidable_of_iff (Guarded step guard s' actions) ⟨fun h _ hNext => Option.some.inj hNext ▸ h, fun h => h s' rfl⟩
    inferInstanceAs (Decidable (_ ∧ _))

@[simp] theorem run_nil (s : σ) : run step s [] = some s := rfl

theorem run_cons {s : σ} {a : α} {actions : List α} {t : σ} :
    run step s (a :: actions) = some t ↔ ∃ s', step s a = some s' ∧ run step s' actions = some t := by
  rw [run, Option.bind_eq_some_iff]

theorem exists_run (hTotal : ∀ s a, (step s a).isSome = true) (s : σ) (actions : List α) :
    ∃ t, run step s actions = some t := by
  induction actions generalizing s with
  | nil => exact ⟨s, rfl⟩
  | cons a actions ih =>
    obtain ⟨s', hFirst⟩ := Option.isSome_iff_exists.mp (hTotal s a)
    obtain ⟨t, hRest⟩ := ih s'
    exact ⟨t, run_cons.mpr ⟨s', hFirst, hRest⟩⟩

theorem run_append {s : σ} {xs ys : List α} {t : σ} :
    run step s (xs ++ ys) = some t ↔ ∃ s', run step s xs = some s' ∧ run step s' ys = some t := by
  induction xs generalizing s with
  | nil => simp
  | cons a xs ih =>
    rw [List.cons_append, run_cons]
    constructor
    · rintro ⟨s₁, hStep, hRest⟩
      obtain ⟨s₂, hXs, hYs⟩ := ih.mp hRest
      exact ⟨s₂, run_cons.mpr ⟨s₁, hStep, hXs⟩, hYs⟩
    · rintro ⟨s₂, hXs, hYs⟩
      obtain ⟨s₁, hStep, hXs⟩ := run_cons.mp hXs
      exact ⟨s₁, hStep, ih.mpr ⟨s₂, hXs, hYs⟩⟩

theorem Always.head {P : σ → Prop} {s : σ} {actions : List α} (h : Always step P s actions) : P s := by
  cases actions with
  | nil => exact h
  | cons a actions => exact h.1

theorem Always.mono {P Q : σ → Prop} (hPQ : ∀ s, P s → Q s) {s : σ} {actions : List α}
    (h : Always step P s actions) : Always step Q s actions := by
  induction actions generalizing s with
  | nil => exact hPQ s h
  | cons a actions ih => exact ⟨hPQ s h.1, fun s' hs' => ih (h.2 s' hs')⟩

theorem invariant (P : σ → Prop) (hStep : ∀ s a s', P s → step s a = some s' → P s')
    {s t : σ} {actions : List α} (hs : P s) (hRun : run step s actions = some t) : P t := by
  induction actions generalizing s with
  | nil =>
    cases hRun
    exact hs
  | cons a actions ih =>
    obtain ⟨s', hFirst, hRest⟩ := run_cons.mp hRun
    exact ih (hStep s a s' hs hFirst) hRest

theorem always_of_guarded (P : σ → Prop) (guard : σ → α → Prop)
    (hStep : ∀ s a s', P s → guard s a → step s a = some s' → P s')
    {s : σ} {actions : List α} (hs : P s) (h : Guarded step guard s actions) : Always step P s actions := by
  induction actions generalizing s with
  | nil => exact hs
  | cons a actions ih => exact ⟨hs, fun s' hs' => ih (hStep s a s' hs h.1 hs') (h.2 s' hs')⟩

/-- Where the guard is exactly what one step needs to keep `P`, it is exactly what a run needs to
keep `P` throughout. The invariant `Q` may lean on `P` and on the guard. -/
theorem always_iff_guarded (P Q : σ → Prop) (guard : σ → α → Prop)
    (hStep : ∀ s a s', P s → Q s → step s a = some s' → (P s' ↔ guard s a))
    (hInv : ∀ s a s', P s → Q s → guard s a → step s a = some s' → Q s')
    {s : σ} {actions : List α} (hP : P s) (hQ : Q s) {t : σ} (hRun : run step s actions = some t) :
    Always step P s actions ↔ Guarded step guard s actions := by
  induction actions generalizing s with
  | nil => exact ⟨fun _ => trivial, fun _ => hP⟩
  | cons a actions ih =>
    obtain ⟨s', hFirst, hRest⟩ := run_cons.mp hRun
    constructor
    · rintro ⟨_, hNext⟩
      have hGuard : guard s a := (hStep s a s' hP hQ hFirst).mp (hNext s' hFirst).head
      have hP' := (hNext s' hFirst).head
      refine ⟨hGuard, fun s₁ h₁ => ?_⟩
      rw [hFirst] at h₁
      cases h₁
      exact (ih hP' (hInv s a s' hP hQ hGuard hFirst) hRest).mp (hNext s' hFirst)
    · rintro ⟨hGuard, hNext⟩
      have hP' := (hStep s a s' hP hQ hFirst).mpr hGuard
      refine ⟨hP, fun s₁ h₁ => ?_⟩
      rw [hFirst] at h₁
      cases h₁
      exact (ih hP' (hInv s a s' hP hQ hGuard hFirst) hRest).mpr (hNext s' hFirst)

theorem Guarded.at {guard : σ → α → Prop} {s t : σ} {xs : List α} {a : α} {ys : List α}
    (h : Guarded step guard s (xs ++ a :: ys)) (hRun : run step s xs = some t) : guard t a := by
  induction xs generalizing s with
  | nil =>
    cases hRun
    exact h.1
  | cons x xs ih =>
    obtain ⟨s', hFirst, hRest⟩ := run_cons.mp hRun
    exact ih (h.2 s' hFirst) hRest

theorem EachStep.at {R : σ → α → σ → Prop} {s t u : σ} {xs : List α} {a : α} {ys : List α}
    (h : EachStep step R s (xs ++ a :: ys)) (hRun : run step s xs = some t) (hStep : step t a = some u) : R t a u := by
  induction xs generalizing s with
  | nil =>
    cases hRun
    exact (h u hStep).1
  | cons x xs ih =>
    obtain ⟨s', hFirst, hRest⟩ := run_cons.mp hRun
    exact ih (h s' hFirst).2 hRest

theorem guarded_iff_reached {guard : σ → α → Prop} {s : σ} {actions : List α} : Guarded step guard s actions ↔
    ∀ before a after t, actions = before ++ a :: after → run step s before = some t → guard t a := by
  constructor
  · rintro h before a after t rfl hRun
    exact h.at hRun
  · intro h
    induction actions generalizing s with
    | nil => trivial
    | cons a actions ih =>
      refine ⟨h [] a actions s rfl rfl, fun s' hNext => ih fun before b after t hSplit hRun => ?_⟩
      exact h (a :: before) b after t (by rw [hSplit, List.cons_append]) (run_cons.mpr ⟨s', hNext, hRun⟩)

/-- Where the guard is exactly what makes one step of a run within `domain` related, it is exactly what makes
all steps of the run related. The invariant may lean on the guard. -/
theorem eachStep_iff_guarded_within (R : σ → α → σ → Prop) (Q : σ → Prop) (domain guard : σ → α → Prop)
    (hStep : ∀ s a s', Q s → domain s a → step s a = some s' → (R s a s' ↔ guard s a))
    (hInv : ∀ s a s', Q s → domain s a → guard s a → step s a = some s' → Q s')
    {s t : σ} {actions : List α} (hQ : Q s) (hDomain : Guarded step domain s actions)
    (hRun : run step s actions = some t) : EachStep step R s actions ↔ Guarded step guard s actions := by
  induction actions generalizing s with
  | nil => exact Iff.rfl
  | cons a actions ih =>
    obtain ⟨s', hFirst, hRest⟩ := run_cons.mp hRun
    have hGuard := hStep s a s' hQ hDomain.1 hFirst
    have hNext := fun h => ih (hInv s a s' hQ hDomain.1 h hFirst) (hDomain.2 s' hFirst) hRest
    constructor
    · intro h
      have hGuarded := hGuard.mp (h s' hFirst).1
      refine ⟨hGuarded, fun s₁ h₁ => ?_⟩
      cases hFirst.symm.trans h₁
      exact (hNext hGuarded).mp (h s' hFirst).2
    · rintro ⟨hGuarded, hRest⟩ s₁ h₁
      cases hFirst.symm.trans h₁
      exact ⟨hGuard.mpr hGuarded, (hNext hGuarded).mpr (hRest s' hFirst)⟩

/-- What the actions keep gives each of them its guard. -/
theorem guarded_of_kept {P : σ → Prop} {guard : σ → α → Prop} {actions : List α}
    (h : ∀ a ∈ actions, ∀ s, P s → guard s a ∧ ∀ s', step s a = some s' → P s') {s : σ} (hs : P s) :
    Guarded step guard s actions := by
  induction actions generalizing s with
  | nil => trivial
  | cons a actions ih =>
    obtain ⟨hGuard, hKept⟩ := h a List.mem_cons_self s hs
    exact ⟨hGuard, fun s' hNext => ih (fun b hb => h b (List.mem_cons_of_mem _ hb)) (hKept s' hNext)⟩

theorem guarded_of_forall_mem {guard : σ → α → Prop} {actions : List α} (h : ∀ a ∈ actions, ∀ s, guard s a)
    (s : σ) : Guarded step guard s actions := by
  induction actions generalizing s with
  | nil => trivial
  | cons a actions ih =>
    exact ⟨h a List.mem_cons_self s, fun s' _ => ih (fun b hb => h b (List.mem_cons_of_mem _ hb)) s'⟩

theorem Guarded.and {guard guard' : σ → α → Prop} {s : σ} {actions : List α} (h : Guarded step guard s actions)
    (h' : Guarded step guard' s actions) : Guarded step (fun s a => guard s a ∧ guard' s a) s actions := by
  induction actions generalizing s with
  | nil => trivial
  | cons a actions ih => exact ⟨⟨h.1, h'.1⟩, fun s' hNext => ih (h.2 s' hNext) (h'.2 s' hNext)⟩

/-- Where the guard is exactly what makes one step related, it is exactly what makes all steps of a run
related. -/
theorem eachStep_iff_guarded (R : σ → α → σ → Prop) (Q : σ → Prop) (guard : σ → α → Prop)
    (hStep : ∀ s a s', Q s → step s a = some s' → (R s a s' ↔ guard s a))
    (hInv : ∀ s a s', Q s → step s a = some s' → Q s')
    {s t : σ} {actions : List α} (hQ : Q s) (hRun : run step s actions = some t) :
    EachStep step R s actions ↔ Guarded step guard s actions :=
  eachStep_iff_guarded_within R Q (fun _ _ => True) guard (fun s a s' h _ hNext => hStep s a s' h hNext)
    (fun s a s' h _ _ hNext => hInv s a s' h hNext) hQ (guarded_of_forall_mem (fun _ _ _ => trivial) s) hRun

/-- A property that each step ends in holds throughout a run that starts in it. -/
theorem eachStep_and_iff {R : σ → α → σ → Prop} {P : σ → Prop} {s : σ} {actions : List α} (hs : P s) :
    EachStep step (fun s a s' => R s a s' ∧ P s') s actions ↔
      Always step P s actions ∧ EachStep step R s actions := by
  induction actions generalizing s with
  | nil => exact ⟨fun _ => ⟨hs, trivial⟩, fun _ => trivial⟩
  | cons a actions ih =>
    constructor
    · intro h
      refine ⟨⟨hs, fun s' hNext => ?_⟩, fun s' hNext => ?_⟩
      · exact ((ih (h s' hNext).1.2).mp (h s' hNext).2).1
      · exact ⟨(h s' hNext).1.1, ((ih (h s' hNext).1.2).mp (h s' hNext).2).2⟩
    · rintro ⟨⟨-, hAlways⟩, hEach⟩ s' hNext
      have hP := (hAlways s' hNext).head
      exact ⟨⟨(hEach s' hNext).1, hP⟩, (ih hP).mpr ⟨hAlways s' hNext, (hEach s' hNext).2⟩⟩

/-- A guarded run keeps an invariant and relates the states of every step. -/
theorem eachStep_of_guarded (R : σ → α → σ → Prop) (P : σ → Prop) (guard : σ → α → Prop)
    (hStep : ∀ s a s', P s → guard s a → step s a = some s' → R s a s' ∧ P s')
    {s : σ} {actions : List α} (hs : P s) (h : Guarded step guard s actions) :
    EachStep step R s actions := by
  induction actions generalizing s with
  | nil => trivial
  | cons a actions ih =>
    intro s' hFirst
    obtain ⟨hRelated, hs'⟩ := hStep s a s' hs h.1 hFirst
    exact ⟨hRelated, ih hs' (h.2 s' hFirst)⟩

/-- Two properties that agree under an invariant of the runs within `domain` hold throughout the same ones. -/
theorem always_congr_within (P P' Q : σ → Prop) (domain : σ → α → Prop) (h : ∀ s, Q s → (P s ↔ P' s))
    (hInv : ∀ s a s', Q s → domain s a → step s a = some s' → Q s') {s : σ} {actions : List α} (hQ : Q s)
    (hDomain : Guarded step domain s actions) : Always step P s actions ↔ Always step P' s actions := by
  induction actions generalizing s with
  | nil => exact h s hQ
  | cons a actions ih =>
    refine and_congr (h s hQ) (forall_congr' fun s' => forall_congr' fun hFirst => ?_)
    exact ih (hInv s a s' hQ hDomain.1 hFirst) (hDomain.2 s' hFirst)

theorem always_congr (P P' Q : σ → Prop) (h : ∀ s, Q s → (P s ↔ P' s))
    (hInv : ∀ s a s', Q s → step s a = some s' → Q s') {s : σ} {actions : List α} (hQ : Q s) :
    Always step P s actions ↔ Always step P' s actions :=
  always_congr_within P P' Q (fun _ _ => True) h (fun s a s' hs _ hFirst => hInv s a s' hs hFirst) hQ
    (guarded_of_forall_mem (fun _ _ _ => trivial) s)

/-- What every step within `P` keeps, a run within `P` keeps. -/
theorem Always.invariant {P I : σ → Prop} (hStep : ∀ s a s', P s → P s' → I s → step s a = some s' → I s')
    {s t : σ} {actions : List α} (h : Always step P s actions) (hs : I s) (hRun : run step s actions = some t) :
    I t := by
  induction actions generalizing s with
  | nil =>
    cases hRun
    exact hs
  | cons a actions ih =>
    obtain ⟨s', hFirst, hRest⟩ := run_cons.mp hRun
    have hNext := h.2 s' hFirst
    exact ih hNext (hStep s a s' h.1 hNext.head hs hFirst) hRest

theorem Always.concat {P : σ → Prop} {s t u : σ} {actions : List α} {a : α} (h : Always step P s actions)
    (hRun : run step s actions = some t) (hLast : step t a = some u) (hu : P u) :
    Always step P s (actions ++ [a]) := by
  induction actions generalizing s with
  | nil =>
    cases hRun
    refine ⟨h, fun s' hs' => ?_⟩
    cases hLast.symm.trans hs'
    exact hu
  | cons b actions ih =>
    obtain ⟨s', hFirst, hRest⟩ := run_cons.mp hRun
    refine ⟨h.1, fun s₁ h₁ => ?_⟩
    cases hFirst.symm.trans h₁
    exact ih (h.2 s' hFirst) hRest

/-- A property that came to hold during a run came to hold, for the last time, at some step. -/
theorem exists_last_entry {P : σ → Prop} {s t : σ} {actions : List α} (hs : ¬ P s) (ht : P t)
    (hRun : run step s actions = some t) :
    ∃ before a after u v, actions = before ++ a :: after ∧ run step s before = some u ∧ step u a = some v ∧
      run step v after = some t ∧ ¬ P u ∧ Always step P v after := by
  induction actions using List.reverseRecOn generalizing t with
  | nil =>
    cases hRun
    exact absurd ht hs
  | append_singleton actions b ih =>
    obtain ⟨w, hPrefix, hLast⟩ := run_append.mp hRun
    obtain ⟨t', hLast, hDone⟩ := run_cons.mp hLast
    cases hDone
    by_cases hw : P w
    · obtain ⟨before, a, after, u, v, rfl, hBefore, hStep, hAfter, hu, hAlways⟩ := ih hw hPrefix
      refine ⟨before, a, after ++ [b], u, v, by simp, hBefore, hStep, ?_, hu, ?_⟩
      · exact run_append.mpr ⟨w, hAfter, run_cons.mpr ⟨t, hLast, rfl⟩⟩
      · exact hAlways.concat hAfter hLast ht
    · exact ⟨actions, b, [], w, t, rfl, hPrefix, hLast, rfl, hw, ht⟩

theorem Enters.append {P : σ → Prop} {s t : σ} {actions : List α} (h : Enters step P s actions t) (more : List α) :
    Enters step P s (actions ++ more) t := by
  obtain ⟨before, a, after, u, rfl, hBefore, hStep, hu, ht⟩ := h
  exact ⟨before, a, after ++ more, u, by simp, hBefore, hStep, hu, ht⟩

/-- The run goes on from the state in which the property has come to hold. -/
theorem Enters.run {P : σ → Prop} {s t v : σ} {actions : List α} (h : Enters step P s actions t)
    (hRun : run step s actions = some v) : ∃ before after, actions = before ++ after ∧
      Library.run step s before = some t ∧ Library.run step t after = some v := by
  obtain ⟨before, a, after, u, rfl, hBefore, hStep, -, -⟩ := h
  obtain ⟨u', hBefore', hRest⟩ := run_append.mp hRun
  cases hBefore.symm.trans hBefore'
  obtain ⟨t', hStep', hAfter⟩ := run_cons.mp hRest
  cases hStep.symm.trans hStep'
  exact ⟨before ++ [a], after, by simp, run_append.mpr ⟨u, hBefore, run_cons.mpr ⟨t, hStep, rfl⟩⟩, hAfter⟩

/-- What only steps that begin or end within `P` bring about shows that the run has entered `P`. -/
theorem exists_enters {P Q : σ → Prop} {s t : σ} {actions : List α} (hs : ¬ Q s) (hPQ : ∀ u, P u → Q u)
    (hStep : ∀ before u a v, run step s before = some u → step u a = some v → Q v → Q u ∨ P v)
    (hRun : run step s actions = some t) (ht : Q t) : ∃ v, Enters step P s actions v := by
  induction actions using List.reverseRecOn generalizing t with
  | nil =>
    cases hRun
    exact absurd ht hs
  | append_singleton actions a ih =>
    obtain ⟨u, hBefore, hLast⟩ := run_append.mp hRun
    obtain ⟨v, hLast, hDone⟩ := run_cons.mp hLast
    cases hDone
    by_cases hu : Q u
    · obtain ⟨w, hw⟩ := ih hBefore hu
      exact ⟨w, hw.append [a]⟩
    · have hP : P t := (hStep actions u a t hBefore hLast ht).resolve_left hu
      exact ⟨t, actions, a, [], u, rfl, hBefore, hLast, fun hPu => hu (hPQ u hPu), hP⟩

/-! ## Replicas

A replica of a state hears of each change by an event, if at all, and keeps a view of the state.
-/

section Replicas

variable {ε ν : Type w} (apply : σ → α → σ) (event : α → Option ε) (observe : ν → ε → ν) (view : σ → ν)

/-- The view after what the replica hears of a change. -/
def hear (v : ν) (c : α) : ν := (event c).elim v (observe v)

variable {apply event observe view}

theorem foldl_observe (v : ν) (changes : List α) :
    (changes.filterMap event).foldl observe v = changes.foldl (hear event observe) v := by
  induction changes generalizing v with
  | nil => rfl
  | cons c changes ih =>
    rw [List.foldl_cons, ← ih, hear]
    cases hEvent : event c with
    | none => rw [List.filterMap_cons_none hEvent, Option.elim_none]
    | some e => rw [List.filterMap_cons_some hEvent, List.foldl_cons, Option.elim_some]

/-- A replica that hears of every change what it does ends with the view of the state reached. -/
theorem view_of_told {told : σ → α → Prop} (hTold : ∀ s c, told s c → hear event observe (view s) c = view (apply s c))
    {s : σ} {changes : List α} (h : Guarded (fun s c => some (apply s c)) told s changes) :
    (changes.filterMap event).foldl observe (view s) = view (changes.foldl apply s) := by
  rw [foldl_observe]
  induction changes generalizing s with
  | nil => rfl
  | cons c changes ih => rw [List.foldl_cons, hTold s c h.1, ih (h.2 _ rfl), List.foldl_cons]

end Replicas

/-! ## Folds that can fail -/

section Folds

variable {ε : Type w} {β : Type v}

theorem bind_ok {x : Except ε α} {f : α → Except ε β} {b : β} (h : (x >>= f) = .ok b) :
    ∃ a, x = .ok a ∧ f a = .ok b := by
  cases x with
  | error e => cases h
  | ok a => exact ⟨a, rfl, h⟩

theorem bind_ok_iff {x : Except ε α} {f : α → Except ε β} {b : β} :
    (x >>= f) = .ok b ↔ ∃ a, x = .ok a ∧ f a = .ok b := by
  constructor
  · exact bind_ok
  · rintro ⟨a, rfl, h⟩
    exact h

/-- A fold that makes a value of each element and takes it in is the making of all and a plain fold. -/
theorem foldlM_make {γ : Type v} (make : α → Except ε γ) (insert : β → γ → β) (docs : List α) (b : β) :
    docs.foldlM (fun b a => make a >>= fun c => pure (insert b c)) b =
      docs.mapM make >>= fun made => pure (made.foldl insert b) := by
  induction docs generalizing b with
  | nil => rfl
  | cons a docs ih =>
    rw [List.foldlM_cons, List.mapM_cons]
    cases make a with
    | error e => rfl
    | ok c =>
      refine (ih (insert b c)).trans ?_
      cases docs.mapM make with
      | error e => rfl
      | ok made => rfl

theorem mapM_ok {γ : Type v} {make : α → Except ε γ} {docs : List α} {made : List γ}
    (h : docs.mapM make = .ok made) : ∀ a ∈ docs, ∃ c ∈ made, make a = .ok c := by
  induction docs generalizing made with
  | nil => simp
  | cons a docs ih =>
    rw [List.mapM_cons] at h
    obtain ⟨c, hHead, h⟩ := bind_ok h
    obtain ⟨rest, hTail, h⟩ := bind_ok h
    cases h
    intro a' ha'
    rcases List.mem_cons.mp ha' with rfl | ha'
    · exact ⟨c, List.mem_cons_self, hHead⟩
    · obtain ⟨c', hc', hMake⟩ := ih hTail a' ha'
      exact ⟨c', List.mem_cons_of_mem _ hc', hMake⟩

theorem exists_mapM_iff {γ : Type v} {make : α → Except ε γ} {docs : List α} :
    (∃ made, docs.mapM make = .ok made) ↔ ∀ a ∈ docs, ∃ c, make a = .ok c := by
  constructor
  · rintro ⟨made, h⟩ a ha
    obtain ⟨c, -, hMake⟩ := mapM_ok h a ha
    exact ⟨c, hMake⟩
  · intro h
    induction docs with
    | nil => exact ⟨[], rfl⟩
    | cons a docs ih =>
      obtain ⟨c, hHead⟩ := h a List.mem_cons_self
      obtain ⟨made, hTail⟩ := ih fun a' ha' => h a' (List.mem_cons_of_mem _ ha')
      refine ⟨c :: made, ?_⟩
      rw [List.mapM_cons, hHead, hTail]
      rfl

theorem forall_of_mapM {γ : Type v} {make : α → Except ε γ} {P : γ → Prop} (hMake : ∀ a c, make a = .ok c → P c)
    {docs : List α} {made : List γ} (h : docs.mapM make = .ok made) : ∀ c ∈ made, P c := by
  induction docs generalizing made with
  | nil =>
    cases h
    simp
  | cons a docs ih =>
    rw [List.mapM_cons] at h
    obtain ⟨c, hHead, h⟩ := bind_ok h
    obtain ⟨rest, hTail, h⟩ := bind_ok h
    cases h
    intro c' hc'
    rcases List.mem_cons.mp hc' with rfl | hc'
    · exact hMake a c' hHead
    · exact ih hTail c' hc'

theorem mapM_map_ok {γ : Type v} {make : α → Except ε γ} {nameOf : γ → α} {made : List γ}
    (h : ∀ c ∈ made, make (nameOf c) = .ok c) : (made.map nameOf).mapM make = .ok made := by
  induction made with
  | nil => rfl
  | cons c made ih =>
    rw [List.map_cons, List.mapM_cons, h c List.mem_cons_self, ih fun c' hc' => h c' (List.mem_cons_of_mem _ hc')]
    rfl

theorem map_eq_of_mapM {γ δ : Type v} {make : α → Except ε γ} {f : γ → δ} {g : α → δ}
    (hMake : ∀ a c, make a = .ok c → f c = g a) {docs : List α} {made : List γ} (h : docs.mapM make = .ok made) :
    made.map f = docs.map g := by
  induction docs generalizing made with
  | nil =>
    cases h
    rfl
  | cons a docs ih =>
    rw [List.mapM_cons] at h
    obtain ⟨c, hHead, h⟩ := bind_ok h
    obtain ⟨rest, hTail, h⟩ := bind_ok h
    cases h
    rw [List.map_cons, List.map_cons, hMake a c hHead, ih hTail]

theorem foldlM_ok_within {P : β → Prop} {f : β → α → Except ε β} {docs : List α}
    (hStep : ∀ b, ∀ a ∈ docs, ∀ b', P b → f b a = .ok b' → P b') {b b' : β} (hb : P b)
    (h : docs.foldlM f b = .ok b') : P b' := by
  induction docs generalizing b with
  | nil =>
    cases h
    exact hb
  | cons a docs ih =>
    rw [List.foldlM_cons] at h
    obtain ⟨b₁, hFirst, hRest⟩ := bind_ok h
    have h₁ := hStep b a List.mem_cons_self b₁ hb hFirst
    exact ih (fun b a ha => hStep b a (List.mem_cons_of_mem _ ha)) h₁ hRest

theorem foldlM_ok {P : β → Prop} {f : β → α → Except ε β}
    (hStep : ∀ b a b', P b → f b a = .ok b' → P b') {docs : List α} {b b' : β} (hb : P b)
    (h : docs.foldlM f b = .ok b') : P b' :=
  foldlM_ok_within (fun b a _ => hStep b a) hb h

/-- What one element brings about and no element undoes holds at the end. -/
theorem foldlM_ok_of_mem {P : β → Prop} {f : β → α → Except ε β}
    (hStep : ∀ b a b', P b → f b a = .ok b' → P b') {a : α} (hMade : ∀ b b', f b a = .ok b' → P b')
    {docs : List α} (ha : a ∈ docs) {b b' : β} (h : docs.foldlM f b = .ok b') : P b' := by
  obtain ⟨before, after, rfl⟩ := List.append_of_mem ha
  rw [List.foldlM_append] at h
  obtain ⟨b₁, _, h⟩ := bind_ok h
  rw [List.foldlM_cons] at h
  obtain ⟨b₂, hFirst, hRest⟩ := bind_ok h
  exact foldlM_ok hStep (hMade b₁ b₂ hFirst) hRest

end Folds

end Symulator.Library
