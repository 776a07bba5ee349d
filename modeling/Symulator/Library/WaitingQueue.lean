import Symulator.Library.Runs

/-! # A queue that consumers wait at

A mutex guards what is queued, and a consumer that finds nothing there waits on a condition variable. A critical section
is one step. Notifications come after the mutex was released, in steps of their own, and a consumer may wake without
one; whoever wakes looks again.
-/

namespace Symulator.Library

set_option autoImplicit false

universe u v

/-- A consumer is elsewhere, waits to be notified, or is about to look at the queue again. -/
inductive Consumer
  | away
  | asleep
  | awake
deriving DecidableEq

/-- How items are put in and taken out, and how many there are. -/
structure Container (β : Type u) (α : Type v) where
  put : β → α → β
  take : β → Option (α × β)
  size : β → Nat
  size_put : ∀ b a, size (put b a) = size b + 1
  size_take : ∀ {b a b'}, take b = some (a, b') → size b = size b' + 1
  size_of_none : ∀ {b}, take b = none → size b = 0

/-- The notifications owed are those of items put in and of closings whose mutex has been released. What was pushed and
taken is history, and whether a consumer was told that nothing more will come. -/
structure WaitingQueue (β : Type u) (α : Type v) where
  content : β
  closed : Bool := false
  consumers : List Consumer
  owed : Nat := 0
  owedAll : Nat := 0
  pushed : List α := []
  taken : List α := []
  drained : Bool := false

inductive WaitingQueueAction (α : Type v)
  | push (item : α)
  | close
  | notifyOne (consumer : Nat)
  | notifyAll
  | tryPop
  | look (consumer : Nat)
  | wake (consumer : Nat)

namespace WaitingQueue

variable {β : Type u} {α : Type v} (container : Container β α)

def start (content : β) (consumers : Nat) : WaitingQueue β α where
  content
  consumers := List.replicate consumers .away

/-- A push to a closed queue throws. One notification wakes one of those that wait, if any does. -/
def step (q : WaitingQueue β α) : WaitingQueueAction α → Option (WaitingQueue β α)
  | .push item =>
    if q.closed then none
    else some { q with content := container.put q.content item, owed := q.owed + 1, pushed := q.pushed ++ [item] }
  | .close => some { q with closed := true, owedAll := q.owedAll + 1 }
  | .notifyOne consumer =>
    if q.owed = 0 then none
    else if q.consumers[consumer]? = some .asleep then
      some { q with consumers := q.consumers.set consumer .awake, owed := q.owed - 1 }
    else if .asleep ∈ q.consumers then none
    else some { q with owed := q.owed - 1 }
  | .notifyAll =>
    if q.owedAll = 0 then none
    else
      some { q with
        consumers := q.consumers.map fun c => if c = .asleep then .awake else c
        owedAll := q.owedAll - 1 }
  | .tryPop =>
    match container.take q.content with
    | some (item, content) => some { q with content, taken := q.taken ++ [item] }
    | none => some q
  | .look consumer =>
    if q.consumers[consumer]? = some .away ∨ q.consumers[consumer]? = some .awake then
      match container.take q.content with
      | some (item, content) =>
        some { q with content, consumers := q.consumers.set consumer .away, taken := q.taken ++ [item] }
      | none =>
        if q.closed then some { q with consumers := q.consumers.set consumer .away, drained := true }
        else some { q with consumers := q.consumers.set consumer .asleep }
    else none
  | .wake consumer =>
    if q.consumers[consumer]? = some .asleep then some { q with consumers := q.consumers.set consumer .awake }
    else none

/-! ## What a step can do -/

variable {container} {q q' : WaitingQueue β α} {a : WaitingQueueAction α}

/-- A step of each kind: only these change the queue. -/
inductive Moves (container : Container β α) (q : WaitingQueue β α) : WaitingQueueAction α → WaitingQueue β α → Prop
  | push (item : α) (hOpen : q.closed = false) :
    Moves container q (.push item)
      { q with content := container.put q.content item, owed := q.owed + 1, pushed := q.pushed ++ [item] }
  | close : Moves container q .close { q with closed := true, owedAll := q.owedAll + 1 }
  | notifyOne {consumer : Nat} (hOwed : 0 < q.owed) (hAsleep : q.consumers[consumer]? = some .asleep) :
    Moves container q (.notifyOne consumer) { q with consumers := q.consumers.set consumer .awake, owed := q.owed - 1 }
  | notifyNobody {consumer : Nat} (hOwed : 0 < q.owed) (hNobody : .asleep ∉ q.consumers) :
    Moves container q (.notifyOne consumer) { q with owed := q.owed - 1 }
  | notifyAll (hOwed : 0 < q.owedAll) :
    Moves container q .notifyAll
      { q with
        consumers := q.consumers.map fun c => if c = .asleep then .awake else c
        owedAll := q.owedAll - 1 }
  | tryPop {item : α} {content : β} (hTake : container.take q.content = some (item, content)) :
    Moves container q .tryPop { q with content, taken := q.taken ++ [item] }
  | tryPopNone (hTake : container.take q.content = none) : Moves container q .tryPop q
  | take {consumer : Nat} {c : Consumer} {item : α} {content : β} (hConsumer : q.consumers[consumer]? = some c)
      (hUp : c ≠ .asleep) (hTake : container.take q.content = some (item, content)) :
    Moves container q (.look consumer)
      { q with content, consumers := q.consumers.set consumer .away, taken := q.taken ++ [item] }
  | drain {consumer : Nat} {c : Consumer} (hConsumer : q.consumers[consumer]? = some c) (hUp : c ≠ .asleep)
      (hTake : container.take q.content = none) (hClosed : q.closed = true) :
    Moves container q (.look consumer) { q with consumers := q.consumers.set consumer .away, drained := true }
  | sleep {consumer : Nat} {c : Consumer} (hConsumer : q.consumers[consumer]? = some c) (hUp : c ≠ .asleep)
      (hTake : container.take q.content = none) (hOpen : q.closed = false) :
    Moves container q (.look consumer) { q with consumers := q.consumers.set consumer .asleep }
  | wake {consumer : Nat} (hAsleep : q.consumers[consumer]? = some .asleep) :
    Moves container q (.wake consumer) { q with consumers := q.consumers.set consumer .awake }

theorem step_moves (h : q.step container a = some q') : Moves container q a q' := by
  cases a with
  | push item =>
    simp only [step] at h
    split at h
    · cases h
    · rename_i hOpen
      cases h
      exact .push item (Bool.eq_false_iff.mpr hOpen)
  | close =>
    cases h
    exact .close
  | notifyOne consumer =>
    simp only [step] at h
    split at h
    · cases h
    · rename_i hOwed
      split at h
      · rename_i hAsleep
        cases h
        exact .notifyOne (Nat.pos_of_ne_zero hOwed) hAsleep
      · split at h
        · cases h
        · rename_i hNobody
          cases h
          exact .notifyNobody (Nat.pos_of_ne_zero hOwed) hNobody
  | notifyAll =>
    simp only [step] at h
    split at h
    · cases h
    · rename_i hOwed
      cases h
      exact .notifyAll (Nat.pos_of_ne_zero hOwed)
  | tryPop =>
    simp only [step] at h
    split at h
    · rename_i item content hTake
      cases h
      exact .tryPop hTake
    · rename_i hTake
      cases h
      exact .tryPopNone hTake
  | look consumer =>
    simp only [step] at h
    split at h
    · rename_i hUp
      have hConsumer : ∃ c, q.consumers[consumer]? = some c ∧ c ≠ .asleep := by
        rcases hUp with hAway | hAwake
        · exact ⟨.away, hAway, by decide⟩
        · exact ⟨.awake, hAwake, by decide⟩
      obtain ⟨c, hConsumer, hUp⟩ := hConsumer
      split at h
      · rename_i item content hTake
        cases h
        exact .take hConsumer hUp hTake
      · rename_i hTake
        split at h
        · rename_i hClosed
          cases h
          exact .drain hConsumer hUp hTake hClosed
        · rename_i hOpen
          cases h
          exact .sleep hConsumer hUp hTake (Bool.eq_false_iff.mpr hOpen)
    · cases h
  | wake consumer =>
    simp only [step] at h
    split at h
    · rename_i hAsleep
      cases h
      exact .wake hAsleep
    · cases h

/-! ## Nobody waits in vain -/

/-- How many consumers are about to look. -/
def awake (q : WaitingQueue β α) : Nat := q.consumers.count .awake

theorem count_set {consumers : List Consumer} {consumer : Nat} {c : Consumer} (h : consumers[consumer]? = some c)
    (c' d : Consumer) : (consumers.set consumer c').count d + (if c = d then 1 else 0) =
      consumers.count d + if c' = d then 1 else 0 := by
  obtain ⟨hLt, hHere⟩ := List.getElem?_eq_some_iff.mp h
  rw [List.count_set hLt, hHere]
  by_cases hSame : c = d
  · have hSome : 0 < consumers.count d := List.count_pos_iff.mpr (hSame ▸ hHere ▸ List.getElem_mem hLt)
    simp only [hSame, beq_self_eq_true, if_true, beq_iff_eq]
    omega
  · simp only [beq_iff_eq, hSame, if_false]
    omega

/-- The items that are there are spoken for: as many notifications are owed, or consumers about to look. A closed queue
owes one to all. -/
def Spoken (container : Container β α) (q : WaitingQueue β α) : Prop :=
  .asleep ∈ q.consumers → container.size q.content ≤ q.owed + q.awake ∧ (q.closed = true → 0 < q.owedAll)

theorem Spoken.step (h : q.Spoken container) (hStep : q.step container a = some q') : q'.Spoken container := by
  have hSet : ∀ {consumer : Nat} {c : Consumer}, c ≠ .asleep → .asleep ∈ q.consumers.set consumer c →
      .asleep ∈ q.consumers := by
    intro consumer c hUp hIn
    rcases List.mem_or_eq_of_mem_set hIn with hOld | hNew
    · exact hOld
    · exact absurd hNew.symm hUp
  cases step_moves hStep with
  | push item hOpen =>
    intro hAsleep
    obtain ⟨hSize, hClosed⟩ := h hAsleep
    refine ⟨?_, hClosed⟩
    change container.size (container.put q.content item) ≤ q.owed + 1 + q.awake
    rw [container.size_put]
    omega
  | close => exact fun hAsleep => ⟨(h hAsleep).1, fun _ => Nat.succ_pos _⟩
  | @notifyOne consumer hOwed hAsleep =>
    intro hIn
    obtain ⟨hSize, hClosed⟩ := h (List.mem_of_getElem? hAsleep)
    refine ⟨?_, hClosed⟩
    have hCount := count_set hAsleep .awake .awake
    change container.size q.content ≤ q.owed - 1 + (q.consumers.set consumer .awake).count .awake
    simp only [awake, reduceCtorEq, if_false, if_true] at hSize hCount
    omega
  | notifyNobody hOwed hNobody => exact fun hAsleep => absurd hAsleep hNobody
  | notifyAll hOwed =>
    intro hAsleep
    obtain ⟨c, -, hc⟩ := List.mem_map.mp hAsleep
    split at hc
    · cases hc
    · rename_i hUp
      exact absurd hc hUp
  | tryPop hTake =>
    intro hAsleep
    obtain ⟨hSize, hClosed⟩ := h hAsleep
    rw [container.size_take hTake] at hSize
    exact ⟨Nat.le_of_succ_le hSize, hClosed⟩
  | tryPopNone => exact h
  | @take consumer c item content hConsumer hUp hTake =>
    intro hAsleep
    obtain ⟨hSize, hClosed⟩ := h (hSet (by decide) hAsleep)
    refine ⟨?_, hClosed⟩
    have hCount := count_set hConsumer .away .awake
    change container.size content ≤ q.owed + (q.consumers.set consumer .away).count .awake
    rw [container.size_take hTake] at hSize
    simp only [awake, reduceCtorEq, if_false] at hSize hCount
    split at hCount <;> omega
  | @drain consumer c hConsumer hUp hTake hClosed' =>
    intro hAsleep
    obtain ⟨-, hClosed⟩ := h (hSet (by decide) hAsleep)
    exact ⟨container.size_of_none hTake ▸ Nat.zero_le _, hClosed⟩
  | sleep hConsumer hUp hTake hOpen =>
    intro hAsleep
    refine ⟨container.size_of_none hTake ▸ Nat.zero_le _, fun hClosed => ?_⟩
    exact absurd (hOpen.symm.trans hClosed) (by decide)
  | @wake consumer hAsleep =>
    intro hIn
    obtain ⟨hSize, hClosed⟩ := h (List.mem_of_getElem? hAsleep)
    refine ⟨?_, hClosed⟩
    have hCount := count_set hAsleep .awake .awake
    change container.size q.content ≤ q.owed + (q.consumers.set consumer .awake).count .awake
    simp only [awake, reduceCtorEq, if_false, if_true] at hSize hCount
    omega

/-- What is left to be done by itself: a notification that is owed, and a consumer that is about to look. -/
def Due (q : WaitingQueue β α) : WaitingQueueAction α → Prop
  | .notifyOne _ | .notifyAll => True
  | .look consumer => q.consumers[consumer]? = some .awake
  | .push _ | .close | .tryPop | .wake _ => False

/-- A bound on the steps that are due. -/
def dues (q : WaitingQueue β α) : Nat := 2 * q.owed + (q.consumers.length + 1) * q.owedAll + q.awake

theorem dues_lt (hDue : q.Due a) (hStep : q.step container a = some q') : q'.dues < q.dues := by
  cases step_moves hStep with
  | push | close | tryPop | tryPopNone | wake => exact hDue.elim
  | @notifyOne consumer hOwed hAsleep =>
    have hCount := count_set hAsleep .awake .awake
    simp only [reduceCtorEq, if_false, if_true] at hCount
    simp only [dues, awake, List.length_set]
    omega
  | notifyNobody hOwed hNobody =>
    simp only [dues, awake]
    omega
  | notifyAll hOwed =>
    have hCount := @List.count_le_length _ _ Consumer.awake
      (q.consumers.map fun c => if c = .asleep then Consumer.awake else c)
    rw [List.length_map] at hCount
    obtain ⟨owedAll, hAll⟩ := Nat.exists_eq_succ_of_ne_zero (Nat.pos_iff_ne_zero.mp hOwed)
    simp only [dues, awake, List.length_map, hAll, Nat.succ_sub_one, Nat.mul_succ] at hCount ⊢
    omega
  | @take consumer c item content hConsumer hUp hTake =>
    cases hConsumer.symm.trans hDue
    have hCount := count_set hConsumer .away .awake
    simp only [reduceCtorEq, if_false, if_true] at hCount
    simp only [dues, awake, List.length_set]
    omega
  | @drain consumer c hConsumer hUp hTake hClosed =>
    cases hConsumer.symm.trans hDue
    have hCount := count_set hConsumer .away .awake
    simp only [reduceCtorEq, if_false, if_true] at hCount
    simp only [dues, awake, List.length_set]
    omega
  | @sleep consumer c hConsumer hUp hTake hOpen =>
    cases hConsumer.symm.trans hDue
    have hCount := count_set hConsumer .asleep .awake
    simp only [reduceCtorEq, if_false, if_true] at hCount
    simp only [dues, awake, List.length_set]
    omega

/-- What is due can be done. -/
theorem exists_due (container : Container β α) (h : 0 < q.dues) : ∃ a q', q.Due a ∧ q.step container a = some q' := by
  by_cases hOwed : 0 < q.owed
  · by_cases hAsleep : .asleep ∈ q.consumers
    · obtain ⟨consumer, hConsumer⟩ := List.mem_iff_getElem?.mp hAsleep
      refine ⟨.notifyOne consumer, { q with consumers := q.consumers.set consumer .awake, owed := q.owed - 1 },
        trivial, ?_⟩
      simp [step, Nat.ne_of_gt hOwed, hConsumer]
    · refine ⟨.notifyOne 0, { q with owed := q.owed - 1 }, trivial, ?_⟩
      have hNobody : q.consumers[0]? ≠ some .asleep := fun hFirst => hAsleep (List.mem_of_getElem? hFirst)
      simp [step, Nat.ne_of_gt hOwed, hNobody, hAsleep]
  · by_cases hOwedAll : 0 < q.owedAll
    · exact ⟨.notifyAll, _, trivial, by rw [step, if_neg (Nat.ne_of_gt hOwedAll)]⟩
    · have hAwake : 0 < q.awake := by
        rw [dues, Nat.eq_zero_of_not_pos hOwed, Nat.eq_zero_of_not_pos hOwedAll] at h
        omega
      obtain ⟨consumer, hConsumer⟩ := List.mem_iff_getElem?.mp (List.count_pos_iff.mp hAwake)
      refine ⟨.look consumer, ?_⟩
      simp only [step, hConsumer, or_true, if_true, Due, true_and]
      split
      · exact ⟨_, rfl⟩
      · split <;> exact ⟨_, rfl⟩

theorem length_add_dues_le {actions : List (WaitingQueueAction α)} (hRun : run (step container) q actions = some q')
    (hDue : Guarded (step container) Due q actions) : actions.length + q'.dues ≤ q.dues := by
  induction actions generalizing q with
  | nil =>
    cases hRun
    exact Nat.le_of_eq (Nat.zero_add _)
  | cons a actions ih =>
    obtain ⟨next, hFirst, hRest⟩ := run_cons.mp hRun
    have hLess := dues_lt hDue.1 hFirst
    have hLater := ih hRest (hDue.2 next hFirst)
    rw [List.length_cons]
    omega

theorem spoken_start (content : β) (consumers : Nat) : (start (α := α) content consumers).Spoken container := by
  intro hAsleep
  cases List.eq_of_mem_replicate hAsleep

variable {content : β} {n : Nat} {actions : List (WaitingQueueAction α)}

/-- Left to itself the queue comes to rest, after a bounded number of steps in whatever order. Then whoever still waits
waits at an open queue with nothing in it. -/
theorem settles (h : run (step container) (start content n) actions = some q) {more : List (WaitingQueueAction α)}
    (hMore : run (step container) q more = some q') (hDue : Guarded (step container) Due q more) :
    more.length ≤ q.dues ∧ ((∀ a, q'.Due a → q'.step container a = none) → .asleep ∈ q'.consumers →
      container.size q'.content = 0 ∧ q'.closed = false) := by
  refine ⟨Nat.le_trans (Nat.le_add_right _ _) (length_add_dues_le hMore hDue), fun hRest hAsleep => ?_⟩
  have hSpoken : q'.Spoken container :=
    invariant (Spoken container) (fun _ _ _ hBefore hStep => hBefore.step hStep) (spoken_start content n)
      (run_append.mpr ⟨q, h, hMore⟩)
  have hDues : q'.dues = 0 := by
    by_contra hSome
    obtain ⟨a, next, hDueStep, hStep⟩ := exists_due container (Nat.pos_of_ne_zero hSome)
    rw [hRest a hDueStep] at hStep
    cases hStep
  obtain ⟨hSize, hClosed⟩ := hSpoken hAsleep
  have hNone : q'.owed = 0 ∧ q'.awake = 0 ∧ q'.owedAll = 0 := by
    rw [dues] at hDues
    refine ⟨by omega, by omega, ?_⟩
    by_contra hSome
    have hMany : 0 < (q'.consumers.length + 1) * q'.owedAll := Nat.mul_pos (Nat.succ_pos _) (Nat.pos_of_ne_zero hSome)
    omega
  obtain ⟨hOwed, hAwake, hOwedAll⟩ := hNone
  refine ⟨by omega, Bool.eq_false_iff.mpr fun hShut => ?_⟩
  exact absurd (hClosed hShut) (by omega)

/-! ## What is taken -/

/-- A part of the content is a line of its own, whatever the state the content is kept in: the items selected are put in
at its end and taken from its front. -/
structure Line (container : Container β α) (kept : β → Prop) (part : β → List α) (select : α → Bool) : Prop where
  kept_put : ∀ {b} item, kept b → kept (container.put b item)
  kept_take : ∀ {b item b'}, kept b → container.take b = some (item, b') → kept b'
  put : ∀ b item, part (container.put b item) = if select item then part b ++ [item] else part b
  take : ∀ {b item b'}, kept b → container.take b = some (item, b') →
    part b = if select item then item :: part b' else part b'

section Lines

variable {kept : β → Prop} {part : β → List α} {select : α → Bool} (hLine : Line container kept part select)
include hLine

theorem kept_run (hKept : kept content) (h : run (step container) (start content n) actions = some q) :
    kept q.content := by
  refine invariant (fun q => kept q.content) ?_ hKept h
  intro q a q' hBefore hStep
  cases step_moves hStep with
  | push item hOpen => exact hLine.kept_put item hBefore
  | tryPop hTake | take hConsumer hUp hTake => exact hLine.kept_take hBefore hTake
  | close | notifyOne | notifyNobody | notifyAll | tryPopNone | drain | sleep | wake => exact hBefore

/-- The items of a line leave in the order in which they were pushed, each of them once. -/
theorem taken_append_part (hKept : kept content) (hEmpty : part content = [])
    (h : run (step container) (start content n) actions = some q) :
    q.taken.filter select ++ part q.content = q.pushed.filter select := by
  induction actions using List.reverseRecOn generalizing q with
  | nil =>
    cases h
    exact hEmpty
  | append_singleton actions a ih =>
    obtain ⟨before, hBefore, hLast⟩ := run_append.mp h
    obtain ⟨q', hStep, hDone⟩ := run_cons.mp hLast
    cases hDone
    have hOrder := ih hBefore
    have hTaken : ∀ {item b'}, container.take before.content = some (item, b') →
        (before.taken ++ [item]).filter select ++ part b' = before.pushed.filter select := by
      intro item b' hTake
      rw [← hOrder, hLine.take (kept_run hLine hKept hBefore) hTake, List.filter_append]
      cases hSelect : select item <;> simp [hSelect]
    cases step_moves hStep with
    | push item hOpen =>
      change before.taken.filter select ++ part (container.put before.content item) =
        (before.pushed ++ [item]).filter select
      rw [List.filter_append, ← hOrder, hLine.put]
      cases hSelect : select item <;> simp [hSelect]
    | tryPop hTake | take hConsumer hUp hTake => exact hTaken hTake
    | close | notifyOne | notifyNobody | notifyAll | tryPopNone | drain | sleep | wake => exact hOrder

end Lines

/-- A consumer is told that nothing more will come only of a closed queue that is empty. -/
theorem drained_run (h : run (step container) (start content n) actions = some q) :
    q.drained = true → q.closed = true ∧ container.size q.content = 0 := by
  refine invariant (fun q => q.drained = true → q.closed = true ∧ container.size q.content = 0) ?_ ?_ h
  · intro q a q' hBefore hStep
    cases step_moves hStep with
    | push item hOpen => exact fun hDrained => absurd (hOpen.symm.trans (hBefore hDrained).1) (by decide)
    | close => exact fun hDrained => ⟨rfl, (hBefore hDrained).2⟩
    | tryPop hTake | take hConsumer hUp hTake =>
      intro hDrained
      have hSize := (hBefore hDrained).2
      rw [container.size_take hTake] at hSize
      exact absurd hSize (Nat.succ_ne_zero _)
    | drain hConsumer hUp hTake hClosed => exact fun _ => ⟨hClosed, container.size_of_none hTake⟩
    | notifyOne | notifyNobody | notifyAll | tryPopNone | sleep | wake => exact hBefore
  · exact fun hDrained => absurd hDrained (by simp [start])

end WaitingQueue

end Symulator.Library
