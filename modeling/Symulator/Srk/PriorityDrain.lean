import Symulator.Library.StableSort
import Symulator.Srk.EngineLoop

/-! # How the command queue drains

Commands are pushed at any time, and each tick takes the next of them. Pushes are numbered, and for every command
taken the world it was checked in and the world it left are kept.
-/

namespace Symulator.Srk

open Symulator.Library Symulator.Engine

set_option autoImplicit false

structure Posted where
  number : Nat
  priority : CommandPriority
  command : EnvelopedCommand

/-- The command taken, with the world before and after. -/
structure Popped (φ : Type) where
  posted : Posted
  before : World φ
  after : World φ

/-- The loop with its queue. `naks` lists the calls of the rejection callback, `executed` the commands that were
given to the control system. -/
structure LoopState (φ : Type) where
  world : World φ
  queue : PriorityCommandQueue Posted := {}
  pushed : List Posted := []
  popped : List (Popped φ) := []
  naks : List (Posted × InterlockingViolation) := []
  executed : List Posted := []

inductive LoopAction (φ : Type)
  | push (command : EnvelopedCommand) (priority : CommandPriority)
  | tick (fleetCommands : List (FleetCommand φ))

namespace LoopState

variable {φ : Type} (dynamics : TrainDynamics φ)

def push (s : LoopState φ) (command : EnvelopedCommand) (priority : CommandPriority) : LoopState φ :=
  let posted : Posted := { number := s.pushed.length, priority, command }
  { s with queue := s.queue.push posted priority, pushed := s.pushed ++ [posted] }

/-- A command taken from the queue is checked, and reported or executed. -/
def process (s : LoopState φ) (posted : Posted) : LoopState φ :=
  match s.world.control.checkCommand s.world.state posted.command.payload with
  | some violation =>
    { s with
      popped := s.popped ++ [{ posted, before := s.world, after := s.world }]
      naks := s.naks ++ [(posted, violation)] }
  | none =>
    let world := s.world.attempt dynamics (.command posted.command.payload)
    { s with
      world
      popped := s.popped ++ [{ posted, before := s.world, after := world }]
      executed := s.executed ++ [posted] }

def drain : Nat → LoopState φ → LoopState φ
  | 0, s => s
  | n + 1, s =>
    match s.queue.tryPop with
    | none => s
    | some (posted, queue) => drain n ({ s with queue }.process dynamics posted)

/-- The commands are drained, and the rest of the tick finds no more of them. -/
def tick (s : LoopState φ) (fleetCommands : List (FleetCommand φ)) : LoopState φ :=
  let s := s.drain dynamics maxCmdsPerTick
  { s with world := s.world.doTick dynamics [] fleetCommands }

def act (s : LoopState φ) : LoopAction φ → LoopState φ
  | .push command priority => s.push command priority
  | .tick fleetCommands => s.tick dynamics fleetCommands

def after (w : World φ) (actions : List (LoopAction φ)) : LoopState φ :=
  actions.foldl (fun s a => s.act dynamics a) { world := w }

/-! ## What is to be shown of a run -/

def poppedNumbers (s : LoopState φ) : List Nat := s.popped.map fun entry => entry.posted.number

/-- The commands pushed and not yet taken, in the order of the pushes. -/
def waiting (s : LoopState φ) : List Posted := s.pushed.filter fun posted => posted.number ∉ s.poppedNumbers

/-- The waiting commands, sorted by priority and otherwise as they were pushed. -/
def sorted (s : LoopState φ) : List Posted := sortByRank Posted.priority CommandPriority.index s.waiting

/-- Every command pushed was taken once or is in the queue once, and the pushes are told apart by their numbers. -/
structure ExactlyOnce (s : LoopState φ) : Prop where
  accounted : (s.popped.map Popped.posted ++ s.queue.items).Perm s.pushed
  numbered : s.pushed.map Posted.number = List.range s.pushed.length

def violation (entry : Popped φ) : Option InterlockingViolation :=
  entry.before.control.checkCommand entry.before.state entry.posted.command.payload

/-- A command taken was reported once and changed nothing, or executed once, as its check had it. -/
structure Resolved (s : LoopState φ) : Prop where
  naks : s.naks = s.popped.filterMap fun entry => (violation entry).map fun v => (entry.posted, v)
  executed : s.executed = (s.popped.filter fun entry => (violation entry).isNone).map Popped.posted
  refused : ∀ entry ∈ s.popped, ∀ v, violation entry = some v → entry.after = entry.before
  effect : ∀ entry ∈ s.popped, violation entry = none →
    entry.before.step dynamics (.command entry.posted.command.payload) = some entry.after

/-- Each command was checked in the world the one before it left. -/
def Threaded : World φ → List (Popped φ) → World φ → Prop
  | w, [], w' => w' = w
  | w, entry :: entries, w' => entry.before = w ∧ Threaded entry.after entries w'

/-- A tick takes the first of the waiting commands, at most as many as a tick may. -/
def TickDrains (s : LoopState φ) (fleetCommands : List (FleetCommand φ)) : Prop :=
  ∃ entries, (s.tick dynamics fleetCommands).popped = s.popped ++ entries ∧
    entries.map Popped.posted = s.sorted.take maxCmdsPerTick ∧
    (∃ w, Threaded s.world entries w ∧ (s.tick dynamics fleetCommands).world = w.doTick dynamics [] fleetCommands) ∧
    (s.tick dynamics fleetCommands).world =
      s.world.doTick dynamics (s.sorted.map fun posted => posted.command.payload) fleetCommands

/-- Over ticks with no pushes between them, the commands taken and those left are the sorted queue. -/
def QuietDrains (s : LoopState φ) (ticks : List (List (FleetCommand φ))) : Prop :=
  ∃ entries, (ticks.foldl (tick dynamics) s).popped = s.popped ++ entries ∧
    s.sorted = entries.map Popped.posted ++ (ticks.foldl (tick dynamics) s).queue.items ∧
    (ticks.foldl (tick dynamics) s).queue.items = (ticks.foldl (tick dynamics) s).sorted

/-! ## The queue and the waiting commands -/

structure Consistent (s : LoopState φ) : Prop where
  numbered : s.pushed.map Posted.number = List.range s.pushed.length
  fromPushed : ∀ entry ∈ s.popped, entry.posted ∈ s.pushed
  once : s.poppedNumbers.Nodup
  buckets : ∀ p, s.queue.buckets p = s.waiting.filter fun posted => posted.priority = p

theorem items_eq_sorted {s : LoopState φ} (h : s.Consistent) : s.queue.items = s.sorted := by
  have hRanks : PriorityCommandQueue.priorities.Pairwise fun p q => p.index < q.index := by decide
  rw [sorted, sortByRank_eq_flatMap hRanks (fun p => by cases p <;> decide)]
  exact List.flatMap_congr fun p _ => h.buckets p

theorem Consistent.number_lt {s : LoopState φ} (h : s.Consistent) {posted : Posted} (hIn : posted ∈ s.pushed) :
    posted.number < s.pushed.length := by
  have hMem : posted.number ∈ s.pushed.map Posted.number := List.mem_map_of_mem hIn
  rw [h.numbered] at hMem
  exact List.mem_range.mp hMem

theorem Consistent.eq_of_number {s : LoopState φ} (h : s.Consistent) {a b : Posted} (ha : a ∈ s.pushed)
    (hb : b ∈ s.pushed) (hNumber : a.number = b.number) : a = b := by
  refine List.inj_on_of_nodup_map (f := Posted.number) ?_ ha hb hNumber
  rw [h.numbered]
  exact List.nodup_range

theorem Consistent.unused {s : LoopState φ} (h : s.Consistent) : s.pushed.length ∉ s.poppedNumbers := by
  intro hMem
  obtain ⟨entry, hEntry, hNumber⟩ := List.mem_map.mp hMem
  have hLess := h.number_lt (h.fromPushed entry hEntry)
  omega

theorem consistent_start (w : World φ) : ({ world := w } : LoopState φ).Consistent where
  numbered := rfl
  fromPushed _ hEntry := nomatch hEntry
  once := List.nodup_nil
  buckets _ := rfl

theorem waiting_push {s : LoopState φ} (h : s.Consistent) (command : EnvelopedCommand) (priority : CommandPriority) :
    (s.push command priority).waiting = s.waiting ++ [{ number := s.pushed.length, priority, command }] := by
  change (s.pushed ++ [_]).filter (fun posted : Posted => posted.number ∉ s.poppedNumbers) = _
  rw [List.filter_append]
  refine congrArg (s.waiting ++ ·) (List.filter_eq_self.mpr fun posted hPosted => ?_)
  rw [List.mem_singleton.mp hPosted]
  exact decide_eq_true h.unused

theorem consistent_push {s : LoopState φ} (h : s.Consistent) (command : EnvelopedCommand)
    (priority : CommandPriority) : (s.push command priority).Consistent where
  numbered := by
    simp only [push, List.map_append, List.map_cons, List.map_nil, List.length_append, List.length_singleton]
    rw [h.numbered, List.range_succ]
  fromPushed entry hEntry := List.mem_append_left _ (h.fromPushed entry hEntry)
  once := h.once
  buckets p := by
    rw [waiting_push h, List.filter_append, ← h.buckets p]
    simp only [push, PriorityCommandQueue.push]
    split
    · rename_i hEq
      rw [List.filter_cons_of_pos (by simpa using hEq.symm), List.filter_nil, hEq]
    · rename_i hNe
      rw [List.filter_cons_of_neg (by simpa using Ne.symm hNe), List.filter_nil, List.append_nil]

theorem process_spec (s : LoopState φ) (posted : Posted) :
    (s.process dynamics posted).queue = s.queue ∧ (s.process dynamics posted).pushed = s.pushed ∧
      (s.process dynamics posted).world = s.world.attempt dynamics (.command posted.command.payload) ∧
      (s.process dynamics posted).popped =
        s.popped ++ [{ posted, before := s.world, after := (s.process dynamics posted).world }] := by
  cases hCheck : s.world.control.checkCommand s.world.state posted.command.payload with
  | some v => simp only [process, World.attempt, World.step, hCheck, Option.getD_none, and_self]
  | none => simp only [process, hCheck, and_self]

variable {dynamics}

theorem waiting_process {s : LoopState φ} {posted : Posted} {queue : PriorityCommandQueue Posted} :
    ({ s with queue }.process dynamics posted).waiting =
      s.waiting.filter fun other => other.number ≠ posted.number := by
  obtain ⟨-, hPushed, -, hPopped⟩ := process_spec dynamics { s with queue } posted
  have hNumbers : ({ s with queue }.process dynamics posted).poppedNumbers = s.poppedNumbers ++ [posted.number] := by
    rw [poppedNumbers, hPopped, List.map_append]
    rfl
  rw [waiting, hPushed, hNumbers, waiting, List.filter_filter]
  refine List.filter_congr fun other _ => ?_
  by_cases hEq : other.number = posted.number <;> simp [hEq]

theorem mem_waiting_of_bucket {s : LoopState φ} (h : s.Consistent) {posted : Posted} {p : CommandPriority}
    (hIn : posted ∈ s.queue.buckets p) : posted ∈ s.waiting ∧ posted.priority = p := by
  rw [h.buckets p] at hIn
  exact ⟨(List.mem_filter.mp hIn).1, of_decide_eq_true (List.mem_filter.mp hIn).2⟩

theorem Consistent.nodup_waiting {s : LoopState φ} (h : s.Consistent) : (s.waiting.map Posted.number).Nodup := by
  have hNodup : (s.pushed.map Posted.number).Nodup := by
    rw [h.numbered]
    exact List.nodup_range
  exact hNodup.sublist (List.filter_sublist.map _)

/-- The bucket of a priority stays the waiting commands of that priority when its head is taken. -/
theorem bucket_after_pop {s : LoopState φ} (h : s.Consistent) {posted : Posted} {p : CommandPriority}
    {rest : List Posted} (hHead : s.queue.buckets p = posted :: rest) :
    rest = (s.waiting.filter fun other => other.priority = p).filter fun other => other.number ≠ posted.number := by
  have hBucket := h.buckets p
  rw [hHead] at hBucket
  have hNodup := h.nodup_waiting.sublist ((List.filter_sublist (p := fun x => decide (x.priority = p))).map _)
  rw [← hBucket, List.map_cons, List.nodup_cons] at hNodup
  rw [← hBucket, List.filter_cons_of_neg (by simp), List.filter_eq_self.mpr]
  intro other hOther
  refine decide_eq_true fun hEq => hNodup.1 ?_
  exact hEq ▸ List.mem_map_of_mem hOther

theorem consistent_process {s : LoopState φ} (h : s.Consistent) {posted : Posted} {queue : PriorityCommandQueue Posted}
    (hPop : s.queue.tryPop = some (posted, queue)) : ({ s with queue }.process dynamics posted).Consistent := by
  obtain ⟨hQueue, hPushed, -, hPopped⟩ := process_spec dynamics { s with queue } posted
  obtain ⟨-, p, -, -, -, hHead, hSame⟩ := PriorityCommandQueue.exists_of_popFrom hPop
  obtain ⟨hWaiting, hPriority⟩ := mem_waiting_of_bucket h (by rw [hHead]; exact List.mem_cons_self)
  obtain ⟨hIn, hFresh⟩ := List.mem_filter.mp hWaiting
  constructor
  case numbered =>
    rw [hPushed]
    exact h.numbered
  case fromPushed =>
    intro entry hEntry
    rw [hPopped] at hEntry
    rw [hPushed]
    rcases List.mem_append.mp hEntry with hEntry | hEntry
    · exact h.fromPushed entry hEntry
    · rw [List.mem_singleton.mp hEntry]
      exact hIn
  case once =>
    rw [poppedNumbers, hPopped, List.map_append]
    refine List.nodup_append.mpr ⟨h.once, List.nodup_singleton _, ?_⟩
    intro number hNumber other hOther hEq
    have hPopped' : number = posted.number := hEq.trans (List.mem_singleton.mp hOther)
    exact of_decide_eq_true hFresh (hPopped' ▸ hNumber)
  case buckets =>
    intro q
    rw [hQueue, waiting_process, List.filter_filter]
    by_cases hq : q = p
    · subst hq
      rw [bucket_after_pop h hHead, List.filter_filter]
      exact List.filter_congr fun other _ => Bool.and_comm _ _
    · rw [hSame q hq, h.buckets q]
      refine List.filter_congr fun other hOther => ?_
      by_cases hq' : other.priority = q
      · have hApart : other.number ≠ posted.number := by
          intro hEq
          rw [h.eq_of_number (List.mem_filter.mp hOther).1 hIn hEq, hPriority] at hq'
          exact hq hq'.symm
        simp [hq', hApart]
      · simp [hq']

/-! ## Draining -/

theorem drain_spec {s : LoopState φ} (h : s.Consistent) (n : Nat) : (s.drain dynamics n).Consistent ∧
    ∃ entries, (s.drain dynamics n).popped = s.popped ++ entries ∧ entries.map Popped.posted = s.sorted.take n ∧
      (s.drain dynamics n).sorted = s.sorted.drop n ∧ Threaded s.world entries (s.drain dynamics n).world ∧
      (s.drain dynamics n).world = ((s.sorted.take n).map fun posted => posted.command.payload).foldl
        (fun w cmd => w.attempt dynamics (.command cmd)) s.world := by
  induction n generalizing s with
  | zero => exact ⟨h, [], (List.append_nil _).symm, rfl, rfl, rfl, rfl⟩
  | succ n ih =>
    cases hPop : s.queue.tryPop with
    | none =>
      have hSorted : s.sorted = [] := by
        rw [← items_eq_sorted h]
        exact PriorityCommandQueue.items_of_tryPop_none hPop
      simp only [drain, hPop, hSorted]
      exact ⟨h, [], (List.append_nil _).symm, rfl, rfl, rfl, rfl⟩
    | some next =>
      obtain ⟨posted, queue⟩ := next
      obtain ⟨hQueue, -, hWorld, hPopped⟩ := process_spec dynamics { s with queue } posted
      have hNext : ({ s with queue }.process dynamics posted).Consistent := consistent_process h hPop
      have hSorted : s.sorted = posted :: ({ s with queue }.process dynamics posted).sorted := by
        rw [← items_eq_sorted h, ← items_eq_sorted hNext, hQueue]
        exact PriorityCommandQueue.items_tryPop hPop
      obtain ⟨hAfter, entries, hEntries, hTaken, hLeft, hThreaded, hFold⟩ := ih hNext
      simp only [drain, hPop]
      refine ⟨hAfter, ⟨posted, s.world, _⟩ :: entries, ?_, ?_, ?_, ⟨rfl, hThreaded⟩, ?_⟩
      · rw [hEntries, hPopped, List.append_assoc]
        rfl
      · rw [hSorted, List.map_cons, List.take_succ_cons, hTaken]
      · rw [hSorted, List.drop_succ_cons, hLeft]
      · rw [hFold, hSorted, List.take_succ_cons, List.map_cons, List.foldl_cons, hWorld]

theorem tick_spec {s : LoopState φ} (h : s.Consistent) (fleetCommands : List (FleetCommand φ)) :
    (s.tick dynamics fleetCommands).Consistent ∧ s.TickDrains dynamics fleetCommands ∧
      (s.tick dynamics fleetCommands).sorted = s.sorted.drop maxCmdsPerTick := by
  obtain ⟨hAfter, entries, hEntries, hTaken, hLeft, hThreaded, hFold⟩ := drain_spec h maxCmdsPerTick
  refine ⟨⟨hAfter.numbered, hAfter.fromPushed, hAfter.once, hAfter.buckets⟩, ?_, hLeft⟩
  refine ⟨entries, hEntries, hTaken, ⟨_, hThreaded, rfl⟩, ?_⟩
  simp only [tick, World.doTick, List.take_nil, List.foldl_nil, hFold, List.map_take]

theorem quietDrains_of_consistent {s : LoopState φ} (h : s.Consistent) (ticks : List (List (FleetCommand φ))) :
    s.QuietDrains dynamics ticks := by
  induction ticks generalizing s with
  | nil => exact ⟨[], (List.append_nil _).symm, (items_eq_sorted h).symm, items_eq_sorted h⟩
  | cons fleetCommands ticks ih =>
    obtain ⟨hNext, ⟨first, hFirst, hTaken, -⟩, hLeft⟩ := tick_spec h fleetCommands
    obtain ⟨later, hLater, hQueue, hItems⟩ := ih hNext
    refine ⟨first ++ later, ?_, ?_, hItems⟩
    · rw [List.foldl_cons, hLater, hFirst, List.append_assoc]
    · rw [List.foldl_cons, List.map_append, List.append_assoc, ← hQueue, hTaken, hLeft, List.take_append_drop]

theorem Consistent.exactlyOnce {s : LoopState φ} (h : s.Consistent) : s.ExactlyOnce := by
  refine ⟨?_, h.numbered⟩
  have hPushed : s.pushed.Nodup := by
    refine List.Nodup.of_map Posted.number ?_
    rw [h.numbered]
    exact List.nodup_range
  have hTaken : (s.popped.map Popped.posted).Perm (s.pushed.filter fun posted => posted.number ∈ s.poppedNumbers) := by
    refine (List.perm_ext_iff_of_nodup ?_ (hPushed.filter _)).mpr fun posted => ?_
    · refine List.Nodup.of_map Posted.number ?_
      rw [List.map_map]
      exact h.once
    · rw [List.mem_filter, decide_eq_true_eq]
      constructor
      · intro hIn
        obtain ⟨entry, hEntry, rfl⟩ := List.mem_map.mp hIn
        exact ⟨h.fromPushed entry hEntry, List.mem_map_of_mem hEntry⟩
      · rintro ⟨hIn, hNumber⟩
        obtain ⟨entry, hEntry, hSame⟩ := List.mem_map.mp hNumber
        exact List.mem_map.mpr ⟨entry, hEntry, h.eq_of_number (h.fromPushed entry hEntry) hIn hSame⟩
  rw [items_eq_sorted h]
  refine (hTaken.append (perm_sortByRank s.waiting)).trans ?_
  simp only [waiting, decide_not]
  exact List.filter_append_perm _ s.pushed

/-! ## Reported or executed -/

theorem resolved_process {s : LoopState φ} (h : s.Resolved dynamics) (posted : Posted) :
    (s.process dynamics posted).Resolved dynamics := by
  obtain ⟨-, -, hWorld, hPopped⟩ := process_spec dynamics s posted
  let entry : Popped φ := { posted, before := s.world, after := (s.process dynamics posted).world }
  have hMem : ∀ other ∈ (s.process dynamics posted).popped, other ∈ s.popped ∨ other = entry := by
    intro other hOther
    rw [hPopped] at hOther
    exact (List.mem_append.mp hOther).imp_right List.mem_singleton.mp
  constructor
  case naks =>
    rw [hPopped, List.filterMap_append, ← h.naks]
    cases hCheck : s.world.control.checkCommand s.world.state posted.command.payload with
    | some v => simp [process, hCheck, violation]
    | none => simp [process, hCheck, violation]
  case executed =>
    rw [hPopped, List.filter_append, List.map_append, ← h.executed]
    cases hCheck : s.world.control.checkCommand s.world.state posted.command.payload with
    | some v => simp [process, hCheck, violation]
    | none => simp [process, hCheck, violation]
  case refused =>
    intro other hOther v hv
    rcases hMem other hOther with hOld | rfl
    · exact h.refused other hOld v hv
    · have hCheck : s.world.control.checkCommand s.world.state posted.command.payload = some v := hv
      simp only [entry, process, hCheck]
  case effect =>
    intro other hOther hNone
    rcases hMem other hOther with hOld | rfl
    · exact h.effect other hOld hNone
    · have hCheck : s.world.control.checkCommand s.world.state posted.command.payload = none := hNone
      simp only [entry, hWorld, World.attempt, World.step, hCheck, Option.getD_some]

theorem resolved_drain {s : LoopState φ} (h : s.Resolved dynamics) (n : Nat) :
    (s.drain dynamics n).Resolved dynamics := by
  induction n generalizing s with
  | zero => exact h
  | succ n ih =>
    cases hPop : s.queue.tryPop with
    | none => simpa only [drain, hPop] using h
    | some next =>
      have hQueued : ({ s with queue := next.2 } : LoopState φ).Resolved dynamics :=
        ⟨h.naks, h.executed, h.refused, h.effect⟩
      simp only [drain, hPop]
      exact ih (resolved_process hQueued next.1)

theorem resolved_start (w : World φ) : ({ world := w } : LoopState φ).Resolved dynamics where
  naks := rfl
  executed := rfl
  refused _ hEntry := nomatch hEntry
  effect _ hEntry := nomatch hEntry

theorem act_spec {s : LoopState φ} (h : s.Consistent ∧ s.Resolved dynamics) (a : LoopAction φ) :
    (s.act dynamics a).Consistent ∧ (s.act dynamics a).Resolved dynamics := by
  cases a with
  | push command priority =>
    exact ⟨consistent_push h.1 command priority, h.2.naks, h.2.executed, h.2.refused, h.2.effect⟩
  | tick fleetCommands =>
    have hDrained := resolved_drain h.2 maxCmdsPerTick
    exact ⟨(tick_spec h.1 fleetCommands).1, hDrained.naks, hDrained.executed, hDrained.refused, hDrained.effect⟩

theorem after_spec (w : World φ) (actions : List (LoopAction φ)) :
    (after dynamics w actions).Consistent ∧ (after dynamics w actions).Resolved dynamics := by
  induction actions using List.reverseRecOn with
  | nil => exact ⟨consistent_start w, resolved_start w⟩
  | append_singleton actions a ih =>
    rw [after, List.foldl_append]
    exact act_spec ih a

/-- Whatever is pushed and however often the loop ticks, commands leave the queue in the order of their priorities,
at most so many a tick. None is lost or taken twice, and each is reported or executed in the world that the commands
before it left. -/
theorem priorityDrain (w : World φ) (actions : List (LoopAction φ)) :
    (after dynamics w actions).ExactlyOnce ∧ (after dynamics w actions).Resolved dynamics ∧
      (∀ fleetCommands, (after dynamics w actions).TickDrains dynamics fleetCommands) ∧
      ∀ ticks, (after dynamics w actions).QuietDrains dynamics ticks := by
  obtain ⟨hConsistent, hResolved⟩ := @after_spec φ dynamics w actions
  exact ⟨hConsistent.exactlyOnce, hResolved, fun fleetCommands => (tick_spec hConsistent fleetCommands).2.1,
    quietDrains_of_consistent hConsistent⟩

end LoopState

end Symulator.Srk
