import Symulator.Library.Runs

/-! # A thread that works off what is posted to it

One thread takes the tasks of a queue in turn. A task is a handler, which changes the state of the thread and
posts further tasks, or an item to be put out. What a handler posts goes to the back of the queue one after the
other, and others may post in between, but none but handlers post items. So what is put out is what the handlers
post when they run one after the other, and what one of them posts is not torn apart.

This is an Asio `io_context` with one thread in `run`, as documented: handlers are invoked one at a time and in the
order in which they were posted, `post` never invokes its handler before it returns, and an exception that a handler
throws leaves `run`. The completions of asynchronous operations are queued like posts, in any order.
-/

namespace Symulator.Library

set_option autoImplicit false

universe u v

/-- The queue, what the running handler has still to post, and the history: the handlers run, all that were
queued, and the items put out. A thread whose task throws is halted. -/
structure Executor (σ : Type u) (η ω : Type v) where
  state : σ
  waiting : List (η ⊕ ω) := []
  posting : List (η ⊕ ω) := []
  halted : Bool := false
  handled : List η := []
  queued : List η := []
  out : List ω := []

/-- Others post a handler, the thread does what comes next, or the task at the front throws. -/
inductive ExecutorAction (ε : Type u)
  | enter (event : ε)
  | work
  | fail

namespace Executor

variable {σ : Type u} {ε η ω : Type v} (task : ε → η) (exec : σ → η → σ × List (η ⊕ ω)) (mayTake : σ → η ⊕ ω → Bool)

def handlersOf (tasks : List (η ⊕ ω)) : List η := tasks.filterMap Sum.getLeft?

def itemsOf (tasks : List (η ⊕ ω)) : List ω := tasks.filterMap Sum.getRight?

/-- Once the running handler has posted everything, the next task is taken. -/
def step (e : Executor σ η ω) : ExecutorAction ε → Option (Executor σ η ω)
  | .enter event =>
    if e.halted then none
    else some { e with waiting := e.waiting ++ [.inl (task event)], queued := e.queued ++ [task event] }
  | .work =>
    if e.halted then none
    else
      match e.posting, e.waiting with
      | posted :: posting, _ =>
        some { e with waiting := e.waiting ++ [posted], posting, queued := e.queued ++ handlersOf [posted] }
      | [], [] => none
      | [], .inl h :: waiting =>
        if mayTake e.state (.inl h) then
          some
            { e with
              state := (exec e.state h).1
              waiting
              posting := (exec e.state h).2
              handled := e.handled ++ [h] }
        else none
      | [], .inr item :: waiting =>
        if mayTake e.state (.inr item) then some { e with waiting, out := e.out ++ [item] } else none
  | .fail =>
    if e.halted then none
    else
      match e.posting, e.waiting with
      | [], .inl h :: _ => if mayTake e.state (.inl h) then none else some { e with halted := true }
      | [], .inr _ :: _ => some { e with halted := true }
      | _, _ => none

/-! ## The handlers one after the other -/

def stateAfter (s : σ) (handlers : List η) : σ := handlers.foldl (fun s h => (exec s h).1) s

def posts (s : σ) : List η → List (η ⊕ ω)
  | [] => []
  | h :: handlers => (exec s h).2 ++ posts (exec s h).1 handlers

variable {task exec mayTake}

@[simp] theorem stateAfter_nil (s : σ) : stateAfter exec s [] = s := rfl

theorem stateAfter_append (s : σ) (handlers more : List η) :
    stateAfter exec s (handlers ++ more) = stateAfter exec (stateAfter exec s handlers) more := List.foldl_append

@[simp] theorem stateAfter_concat (s : σ) (handlers : List η) (h : η) :
    stateAfter exec s (handlers ++ [h]) = (exec (stateAfter exec s handlers) h).1 := stateAfter_append s handlers [h]

@[simp] theorem posts_nil (s : σ) : posts exec s [] = [] := rfl

theorem posts_append (s : σ) (handlers more : List η) :
    posts exec s (handlers ++ more) = posts exec s handlers ++ posts exec (stateAfter exec s handlers) more := by
  induction handlers generalizing s with
  | nil => rfl
  | cons h handlers ih => rw [List.cons_append, posts, ih, posts, List.append_assoc]; rfl

@[simp] theorem posts_concat (s : σ) (handlers : List η) (h : η) :
    posts exec s (handlers ++ [h]) = posts exec s handlers ++ (exec (stateAfter exec s handlers) h).2 := by
  rw [posts_append, posts, posts, List.append_nil]

@[simp] theorem itemsOf_append (tasks more : List (η ⊕ ω)) : itemsOf (tasks ++ more) = itemsOf tasks ++ itemsOf more :=
  List.filterMap_append

@[simp] theorem handlersOf_append (tasks more : List (η ⊕ ω)) :
    handlersOf (tasks ++ more) = handlersOf tasks ++ handlersOf more := List.filterMap_append

@[simp] theorem itemsOf_inl (h : η) (tasks : List (η ⊕ ω)) : itemsOf (.inl h :: tasks) = itemsOf tasks := rfl

@[simp] theorem itemsOf_inr (item : ω) (tasks : List (η ⊕ ω)) :
    itemsOf (.inr item :: tasks) = item :: itemsOf tasks := rfl

@[simp] theorem handlersOf_inl (h : η) (tasks : List (η ⊕ ω)) :
    handlersOf (.inl h :: tasks) = h :: handlersOf tasks := rfl

@[simp] theorem handlersOf_inr (item : ω) (tasks : List (η ⊕ ω)) :
    handlersOf (.inr item :: tasks) = handlersOf tasks := rfl

@[simp] theorem itemsOf_nil : itemsOf ([] : List (η ⊕ ω)) = [] := rfl

@[simp] theorem handlersOf_nil : handlersOf ([] : List (η ⊕ ω)) = [] := rfl

/-! ## What a run comes to -/

variable (exec) in
/-- What the thread has done is what its handlers do one after the other. -/
structure Serial (s : σ) (e : Executor σ η ω) : Prop where
  state : e.state = stateAfter exec s e.handled
  queued : e.handled ++ handlersOf e.waiting = e.queued
  items : e.out ++ itemsOf (e.waiting ++ e.posting) = itemsOf (posts exec s e.handled)

/-- What a step can do. -/
theorem step_cases {e e' : Executor σ η ω} {a : ExecutorAction ε} (h : e.step task exec mayTake a = some e') :
    (∃ event, a = .enter event ∧
      e' = { e with waiting := e.waiting ++ [.inl (task event)], queued := e.queued ++ [task event] }) ∨
    (∃ posted posting, a = .work ∧ e.posting = posted :: posting ∧
      e' = { e with waiting := e.waiting ++ [posted], posting, queued := e.queued ++ handlersOf [posted] }) ∨
    (∃ handler waiting, a = .work ∧ e.posting = [] ∧ e.waiting = .inl handler :: waiting ∧
      mayTake e.state (.inl handler) = true ∧
      e' =
        { e with
          state := (exec e.state handler).1
          waiting
          posting := (exec e.state handler).2
          handled := e.handled ++ [handler] }) ∨
    (∃ item waiting, a = .work ∧ e.posting = [] ∧ e.waiting = .inr item :: waiting ∧
      mayTake e.state (.inr item) = true ∧ e' = { e with waiting, out := e.out ++ [item] }) ∨
    a = .fail ∧ e' = { e with halted := true } := by
  cases a with
  | enter event =>
    simp only [Executor.step] at h
    split at h
    · cases h
    · exact Or.inl ⟨event, rfl, (Option.some.inj h).symm⟩
  | work =>
    simp only [Executor.step] at h
    split at h
    · cases h
    · split at h
      · rename_i posted posting hPosting
        exact Or.inr (Or.inl ⟨posted, posting, rfl, hPosting, (Option.some.inj h).symm⟩)
      · cases h
      · rename_i handler waiting hPosting hWaiting
        split at h
        · rename_i hTake
          have hSame := (Option.some.inj h).symm
          exact Or.inr (Or.inr (Or.inl ⟨handler, waiting, rfl, hPosting, hWaiting, hTake, hSame⟩))
        · cases h
      · rename_i item waiting hPosting hWaiting
        split at h
        · rename_i hTake
          have hSame := (Option.some.inj h).symm
          exact Or.inr (Or.inr (Or.inr (Or.inl ⟨item, waiting, rfl, hPosting, hWaiting, hTake, hSame⟩)))
        · cases h
  | fail =>
    simp only [Executor.step] at h
    refine Or.inr (Or.inr (Or.inr (Or.inr ⟨rfl, ?_⟩)))
    repeat' split at h
    all_goals simp_all

theorem serial_start (s : σ) : Serial exec s ({ state := s } : Executor σ η ω) := ⟨rfl, rfl, rfl⟩

theorem Serial.step {s : σ} {e e' : Executor σ η ω} {a : ExecutorAction ε} (h : Serial exec s e)
    (hStep : e.step task exec mayTake a = some e') : Serial exec s e' := by
  obtain ⟨hState, hQueued, hItems⟩ := h
  rcases step_cases hStep with ⟨event, rfl, rfl⟩ | ⟨posted, posting, rfl, hPosting, rfl⟩ |
    ⟨handler, waiting, rfl, hPosting, hWaiting, -, rfl⟩ | ⟨item, waiting, rfl, hPosting, hWaiting, -, rfl⟩ | ⟨rfl, rfl⟩
  · refine ⟨hState, ?_, ?_⟩
    · simp [← hQueued]
    · simpa using hItems
  · refine ⟨hState, ?_, ?_⟩
    · simp [← hQueued]
    · rw [← hItems, hPosting, List.append_assoc e.waiting, List.singleton_append]
  · refine ⟨?_, ?_, ?_⟩
    · simp [hState]
    · simp [← hQueued, hWaiting]
    · simp only [posts_concat, itemsOf_append, ← hItems, ← hState, hWaiting, hPosting, itemsOf_inl, List.append_nil,
        List.append_assoc]
  · refine ⟨hState, ?_, ?_⟩
    · simp [← hQueued, hWaiting]
    · simp [← hItems, hWaiting]
  · exact ⟨hState, hQueued, hItems⟩

theorem serial_run {s : σ} {e : Executor σ η ω} {actions : List (ExecutorAction ε)}
    (h : run (step task exec mayTake) { state := s } actions = some e) : Serial exec s e :=
  invariant (Serial exec s) (fun _ _ _ hSerial hStep => hSerial.step hStep) (serial_start s) h

/-- The handlers that have run stay the first of those that run. -/
theorem handled_run {e e' : Executor σ η ω} {actions : List (ExecutorAction ε)}
    (h : run (step task exec mayTake) e actions = some e') : e.handled <+: e'.handled := by
  refine invariant (fun e' : Executor σ η ω => e.handled <+: e'.handled) ?_ List.prefix_rfl h
  intro u a v hPrefix hStep
  rcases step_cases hStep with ⟨_, -, rfl⟩ | ⟨_, _, -, -, rfl⟩ | ⟨handler, _, -, -, -, -, rfl⟩ |
    ⟨_, _, -, -, -, -, rfl⟩ | ⟨-, rfl⟩
  · exact hPrefix
  · exact hPrefix
  · exact hPrefix.trans (List.prefix_append _ _)
  · exact hPrefix
  · exact hPrefix

/-- What others posted, in order. -/
def entered (actions : List (ExecutorAction ε)) : List ε :=
  actions.filterMap fun a =>
    match a with
    | .enter event => some event
    | .work | .fail => none

/-- Where handlers post none of a kind, all of the kind that were queued came from others, in the order they came. -/
theorem selected_run {β : Type v} {select : η → Option β}
    (hSilent : ∀ s h, ∀ t ∈ handlersOf (exec s h).2, select t = none) {s : σ} {e : Executor σ η ω}
    {actions : List (ExecutorAction ε)} (h : run (step task exec mayTake) { state := s } actions = some e) :
    e.queued.filterMap select = (entered actions).filterMap (select ∘ task) := by
  suffices hBoth : e.queued.filterMap select = (entered actions).filterMap (select ∘ task) ∧
      ∀ t ∈ handlersOf e.posting, select t = none from hBoth.1
  induction actions using List.reverseRecOn generalizing e with
  | nil =>
    cases h
    exact ⟨rfl, fun t ht => absurd ht List.not_mem_nil⟩
  | append_singleton actions a ih =>
    obtain ⟨before, hBefore, hLast⟩ := run_append.mp h
    obtain ⟨e', hStep, hDone⟩ := run_cons.mp hLast
    cases hDone
    obtain ⟨hQueued, hSilentPosting⟩ := ih hBefore
    rw [entered, List.filterMap_append, List.filterMap_append, ← entered, ← hQueued]
    rcases step_cases hStep with ⟨event, rfl, rfl⟩ | ⟨posted, posting, rfl, hPosting, rfl⟩ |
      ⟨handler, waiting, rfl, -, -, -, rfl⟩ | ⟨item, waiting, rfl, -, -, -, rfl⟩ | ⟨rfl, rfl⟩
    · exact ⟨List.filterMap_append, hSilentPosting⟩
    · rw [hPosting, ← List.singleton_append, handlersOf_append] at hSilentPosting
      have hNone := List.filterMap_eq_nil_iff.mpr fun t ht => hSilentPosting t (List.mem_append_left _ ht)
      refine ⟨?_, fun t ht => hSilentPosting t (List.mem_append_right _ ht)⟩
      rw [List.filterMap_append, hNone]
      rfl
    · exact ⟨(List.append_nil _).symm, hSilent _ _⟩
    · exact ⟨(List.append_nil _).symm, hSilentPosting⟩
    · exact ⟨(List.append_nil _).symm, hSilentPosting⟩

/-! ## Working on -/

variable (mayTake) in
/-- The task at the front can not be taken: when its turn comes, it throws. -/
def Throws (e : Executor σ η ω) : Prop :=
  e.halted = false ∧ e.posting = [] ∧ ∃ t waiting, e.waiting = t :: waiting ∧ mayTake e.state t = false

theorem work_handler {e : Executor σ η ω} {handler : η} {waiting : List (η ⊕ ω)} (hHalted : e.halted = false)
    (hPosting : e.posting = []) (hWaiting : e.waiting = .inl handler :: waiting)
    (hTake : mayTake e.state (.inl handler) = true) : e.step task exec mayTake .work =
      some
        { e with
          state := (exec e.state handler).1
          waiting
          posting := (exec e.state handler).2
          handled := e.handled ++ [handler] } := by
  simp only [Executor.step, hHalted, hPosting, hWaiting, hTake, if_true, Bool.false_eq_true, if_false]

theorem work_item {e : Executor σ η ω} {item : ω} {waiting : List (η ⊕ ω)} (hHalted : e.halted = false)
    (hPosting : e.posting = []) (hWaiting : e.waiting = .inr item :: waiting)
    (hTake : mayTake e.state (.inr item) = true) : e.step task exec mayTake .work =
      some { e with waiting, out := e.out ++ [item] } := by
  simp only [Executor.step, hHalted, hPosting, hWaiting, hTake, if_true, Bool.false_eq_true, if_false]

theorem exists_posted (e : Executor σ η ω) (h : e.halted = false) :
    ∃ n e', run (step task exec mayTake) e (List.replicate n .work) = some e' ∧ e'.halted = false ∧ e'.posting = [] ∧
      e'.waiting = e.waiting ++ e.posting ∧ e'.state = e.state := by
  obtain ⟨state, waiting, posting, halted, handled, queued, out⟩ := e
  dsimp only at h
  subst h
  induction posting generalizing waiting queued with
  | nil => exact ⟨0, _, rfl, rfl, rfl, (List.append_nil _).symm, rfl⟩
  | cons posted posting ih =>
    obtain ⟨n, e', hRun, hHalted, hPosting, hWaiting, hState⟩ :=
      ih (waiting ++ [posted]) (queued ++ handlersOf [posted])
    refine ⟨n + 1, e', run_cons.mpr ⟨_, rfl, hRun⟩, hHalted, hPosting, ?_, hState⟩
    rw [hWaiting, List.append_assoc, List.singleton_append]

theorem replicate_append_work (m n : Nat) :
    (List.replicate m .work ++ List.replicate n .work : List (ExecutorAction ε)) = List.replicate (m + n) .work :=
  List.replicate_append_replicate

/-- The thread gets to what is behind the tasks at the front, unless one of them throws. What the handlers at the front
keep holds then. -/
theorem exists_front (P : σ → Prop) {front back : List (η ⊕ ω)} {e : Executor σ η ω}
    (hHalted : e.halted = false) (hWaiting : e.waiting = front ++ back)
    (hKept : ∀ h ∈ handlersOf front, ∀ s, P s → P (exec s h).1) (hP : P e.state) :
    ∃ n e', run (step task exec mayTake) e (List.replicate n .work) = some e' ∧ (Throws mayTake e' ∨
      e'.halted = false ∧ e'.posting = [] ∧ (∃ later, e'.waiting = back ++ later) ∧ P e'.state) := by
  induction front generalizing e back with
  | nil =>
    obtain ⟨n, e', hRun, hHalted', hPosting, hWaiting', hState⟩ := @exists_posted _ _ _ _ task exec mayTake e hHalted
    refine ⟨n, e', hRun, Or.inr ⟨hHalted', hPosting, ⟨e.posting, ?_⟩, hState ▸ hP⟩⟩
    rw [hWaiting', hWaiting, List.nil_append]
  | cons t front ih =>
    obtain ⟨n, e', hRun, hHalted', hPosting, hWaiting', hState⟩ := @exists_posted _ _ _ _ task exec mayTake e hHalted
    rw [hWaiting, List.cons_append, List.cons_append] at hWaiting'
    cases hTake : mayTake e'.state t with
    | false => exact ⟨n, e', hRun, Or.inl ⟨hHalted', hPosting, t, _, hWaiting', hTake⟩⟩
    | true =>
      have hNext : ∃ e'', e'.step task exec mayTake .work = some e'' ∧ e''.halted = false ∧
          e''.waiting = front ++ (back ++ e.posting) ∧ P e''.state := by
        rw [List.append_assoc] at hWaiting'
        cases t with
        | inl handler =>
          have hNextP := hKept handler (by simp) _ (hState ▸ hP)
          exact ⟨_, work_handler hHalted' hPosting hWaiting' hTake, hHalted', rfl, hNextP⟩
        | inr item => exact ⟨_, work_item hHalted' hPosting hWaiting' hTake, hHalted', rfl, hState ▸ hP⟩
      obtain ⟨e'', hStep, hHalted'', hWaiting'', hP''⟩ := hNext
      have hRest : ∀ h ∈ handlersOf front, ∀ s, P s → P (exec s h).1 := by
        intro h hIn
        refine hKept h ?_
        rw [← List.singleton_append, handlersOf_append]
        exact List.mem_append_right _ hIn
      obtain ⟨m, last, hLast, hEnd⟩ := ih hHalted'' hWaiting'' hRest hP''
      refine ⟨n + (1 + m), last, ?_, ?_⟩
      · rw [← replicate_append_work, ← replicate_append_work]
        exact run_append.mpr ⟨e', hRun, run_cons.mpr ⟨e'', hStep, hLast⟩⟩
      · refine hEnd.imp_right fun ⟨hStill, hDone, ⟨later, hLater⟩, hLastP⟩ =>
          ⟨hStill, hDone, ⟨e.posting ++ later, ?_⟩, hLastP⟩
        rw [hLater, List.append_assoc]

end Executor

end Symulator.Library
