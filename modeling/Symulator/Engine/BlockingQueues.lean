import Symulator.Engine.Command
import Symulator.Library.WaitingQueue

/-! # The blocking queues

Consumers that call `wait_and_pop` of one of the two queues sleep until something is pushed or the queue is closed.
However many there are, and whenever notifications reach them, none sleeps on while there is something for it.
-/

namespace Symulator.Engine

open Symulator.Library

set_option autoImplicit false

variable {α : Type}

/-- `EventQueue`: first in, first out. -/
def EventQueue.container : Container (List α) α where
  put queue item := queue ++ [item]
  take
    | [] => none
    | item :: queue => some (item, queue)
  size := List.length
  size_put _ _ := List.length_append
  size_take := by
    intro queue _ _ hTake
    cases queue with
    | nil => cases hTake
    | cons =>
      cases hTake
      rfl
  size_of_none := by
    intro queue hTake
    cases queue with
    | nil => rfl
    | cons => cases hTake

/-- `PriorityCommandQueue`, whose items are pushed with the priority they have. -/
def PriorityCommandQueue.container (priorityOf : α → CommandPriority) : Container (PriorityCommandQueue α) α where
  put queue item := queue.push item (priorityOf item)
  take := PriorityCommandQueue.tryPop
  size queue := queue.items.length
  size_put _ item := (PriorityCommandQueue.perm_items_push item (priorityOf item)).length_eq
  size_take hTake := congrArg List.length (PriorityCommandQueue.items_tryPop hTake)
  size_of_none hTake := congrArg List.length (PriorityCommandQueue.items_of_tryPop_none hTake)

theorem EventQueue.line : WaitingQueue.Line (α := α) EventQueue.container (fun _ => True) id fun _ => true where
  kept_put _ _ := trivial
  kept_take _ _ := trivial
  put _ _ := rfl
  take := by
    intro queue _ _ _ hTake
    cases queue with
    | nil => cases hTake
    | cons =>
      cases hTake
      rfl

namespace PriorityCommandQueue

/-- Each item is in the bucket of its priority. -/
def Sorted (priorityOf : α → CommandPriority) (queue : PriorityCommandQueue α) : Prop :=
  ∀ p, ∀ item ∈ queue.buckets p, priorityOf item = p

variable {priorityOf : α → CommandPriority} {queue queue' : PriorityCommandQueue α} {item : α}

theorem Sorted.push (h : queue.Sorted priorityOf) (item : α) :
    (queue.push item (priorityOf item)).Sorted priorityOf := by
  intro p other hOther
  simp only [PriorityCommandQueue.push] at hOther
  split at hOther
  · rename_i hHere
    rw [hHere]
    rcases List.mem_append.mp hOther with hOld | hNew
    · exact h _ other hOld
    · rw [List.mem_singleton.mp hNew]
  · exact h p other hOther

/-- What leaves a sorted queue leaves the front of the bucket of its priority. -/
theorem Sorted.tryPop (h : queue.Sorted priorityOf) (hPop : queue.tryPop = some (item, queue')) :
    queue.buckets (priorityOf item) = item :: queue'.buckets (priorityOf item) ∧
      ∀ p, p ≠ priorityOf item → queue'.buckets p = queue.buckets p := by
  obtain ⟨-, p, -, -, -, hHead, hSame⟩ := exists_of_popFrom hPop
  have hPriority : priorityOf item = p := h p item (hHead ▸ List.mem_cons_self)
  subst hPriority
  exact ⟨hHead, hSame⟩

/-- A bucket is a line of its own. -/
theorem line (priorityOf : α → CommandPriority) (p : CommandPriority) :
    WaitingQueue.Line (container priorityOf) (Sorted priorityOf) (fun queue => queue.buckets p)
      fun item => priorityOf item = p where
  kept_put item h := h.push item
  kept_take := by
    intro queue item queue' h hPop p other hOther
    obtain ⟨hHead, hSame⟩ := h.tryPop hPop
    refine h p other ?_
    by_cases hHere : p = priorityOf item
    · rw [hHere, hHead]
      exact List.mem_cons_of_mem _ (hHere ▸ hOther)
    · exact hSame p hHere ▸ hOther
  put queue item := by
    by_cases hHere : priorityOf item = p
    · subst hHere
      simp [container, push]
    · simp [container, push, hHere, Ne.symm hHere]
  take := by
    intro queue item queue' h hPop
    obtain ⟨hHead, hSame⟩ := h.tryPop hPop
    by_cases hHere : priorityOf item = p
    · subst hHere
      simpa using hHead
    · simp [hHere, hSame p (Ne.symm hHere)]

/-- Nothing that is queued goes before what leaves. -/
theorem Sorted.highest (h : queue.Sorted priorityOf) (hPop : queue.tryPop = some (item, queue')) :
    ∀ other ∈ queue.items, (priorityOf item).index ≤ (priorityOf other).index := by
  obtain ⟨before, p, after, hSplit, hEmpty, hHead, -⟩ := exists_of_popFrom hPop
  have hPriority : priorityOf item = p := h p item (hHead ▸ List.mem_cons_self)
  intro other hOther
  obtain ⟨r, hr, hBucket⟩ := List.mem_flatMap.mp hOther
  rw [h r other hBucket, hPriority]
  rw [hSplit] at hr
  have hOrdered : (before ++ p :: after).Pairwise fun p r => p.index ≤ r.index := hSplit ▸ (by decide)
  rcases List.mem_append.mp hr with hBefore | hLater
  · rw [hEmpty r hBefore] at hBucket
    cases hBucket
  · rcases List.mem_cons.mp hLater with rfl | hAfter
    · exact Nat.le_refl _
    · exact (List.pairwise_cons.mp (List.pairwise_append.mp hOrdered).2.1).1 r hAfter

end PriorityCommandQueue

/-! ## Runs of producers and consumers -/

/-- What is left to be done by itself is done in a bounded number of steps, in whatever order, and then only those
consumers still wait for whom there is nothing. -/
def Serves {β : Type} (container : Container β α) (q : WaitingQueue β α) : Prop :=
  ∀ more q', run (WaitingQueue.step container) q more = some q' →
    Guarded (WaitingQueue.step container) WaitingQueue.Due q more → more.length ≤ q.dues ∧
      ((∀ a, q'.Due a → q'.step container a = none) → .asleep ∈ q'.consumers →
        container.size q'.content = 0 ∧ q'.closed = false)

variable {n : Nat} {actions : List (WaitingQueueAction α)}

/-- Whatever producers and consumers do, each item leaves once and in order, a consumer is told that nothing more will
come when all that was ever pushed has left, and no consumer sleeps on while there is something for it. -/
theorem EventQueue.serves_fifo {q : WaitingQueue (List α) α}
    (h : run (WaitingQueue.step container) (WaitingQueue.start [] n) actions = some q) :
    q.taken ++ q.content = q.pushed ∧ (q.drained = true → q.closed = true ∧ q.taken = q.pushed) ∧
      Serves container q := by
  have hOrder : q.taken ++ q.content = q.pushed := by
    have hLine := WaitingQueue.taken_append_part EventQueue.line trivial rfl h
    simpa using hLine
  refine ⟨hOrder, fun hDrained => ?_, fun more q' hMore hDue => WaitingQueue.settles h hMore hDue⟩
  obtain ⟨hClosed, hSize⟩ := WaitingQueue.drained_run h hDrained
  have hNone : q.content = [] := List.length_eq_zero_iff.mp hSize
  rw [hNone, List.append_nil] at hOrder
  exact ⟨hClosed, hOrder⟩

/-- The same of the command queue: here each priority is a line, and none leaves before one of a higher priority that is
queued. -/
theorem PriorityCommandQueue.serves {priorityOf : α → CommandPriority} {q : WaitingQueue (PriorityCommandQueue α) α}
    (h : run (WaitingQueue.step (container priorityOf)) (WaitingQueue.start {} n) actions = some q) :
    (∀ p, (q.taken.filter fun item => priorityOf item = p) ++ q.content.buckets p =
      q.pushed.filter fun item => priorityOf item = p) ∧
    (∀ item queue, q.content.tryPop = some (item, queue) → ∀ other ∈ q.content.items,
      (priorityOf item).index ≤ (priorityOf other).index) ∧
    (q.drained = true → q.closed = true ∧ ∀ p, (q.taken.filter fun item => priorityOf item = p) =
      q.pushed.filter fun item => priorityOf item = p) ∧ Serves (container priorityOf) q := by
  have hStart : Sorted priorityOf ({} : PriorityCommandQueue α) := fun p item hItem => absurd hItem List.not_mem_nil
  have hOrder := fun p => WaitingQueue.taken_append_part (line priorityOf p) hStart rfl h
  refine ⟨hOrder, fun item queue hPop => ?_, fun hDrained => ?_,
    fun more q' hMore hDue => WaitingQueue.settles h hMore hDue⟩
  · exact (WaitingQueue.kept_run (line priorityOf .normal) hStart h).highest hPop
  · obtain ⟨hClosed, hSize⟩ := WaitingQueue.drained_run h hDrained
    refine ⟨hClosed, fun p => ?_⟩
    have hNone : q.content.buckets p = [] :=
      List.flatMap_eq_nil_iff.mp (List.length_eq_zero_iff.mp hSize) p (by cases p <;> decide)
    rw [← hOrder p, hNone, List.append_nil]

/-- A consumer falls asleep, two commands are pushed, and one notification brings it the urgent one. -/
def sleepAndTake : List (WaitingQueueAction (Nat × CommandPriority)) :=
  [.look 0, .push (1, .normal), .push (2, .emergency), .notifyOne 0, .look 0, .close]

theorem PriorityCommandQueue.serves_sleeper : ∃ q,
    run (WaitingQueue.step (container Prod.snd)) (WaitingQueue.start {} 1) sleepAndTake = some q ∧
      q.taken = [(2, .emergency)] ∧ Serves (container Prod.snd) q := by
  have hTaken : (run (WaitingQueue.step (container Prod.snd)) (WaitingQueue.start {} 1) sleepAndTake).any
      (fun q => q.taken = [(2, .emergency)]) = true := by decide +kernel
  obtain ⟨q, hRun, hTest⟩ := (Option.any_eq_true _ _).mp hTaken
  exact ⟨q, hRun, of_decide_eq_true hTest, (serves hRun).2.2.2⟩

end Symulator.Engine
