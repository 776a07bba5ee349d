import Symulator.Server.CommandOrder

/-! # How long a command waits

In a tick the engine takes commands until the queue is empty or sixty-four have been taken. So a command that waits
behind others is taken as soon as enough ticks have ended, however many are queued after it. And the engine needs nobody
for that: as long as the gateway's thread lives, the engine can end one tick after another.
-/

namespace Symulator.Server

open Symulator.Library Symulator.Engine Symulator.Srk

set_option autoImplicit false

namespace SessionServer

variable {φ : Type} {dynamics : TrainDynamics φ} {codec : ServerCodec} {s s' : SessionServer φ}
  {coordinator : DispatchCoordinator} {w : World φ} {actions : List (ServerAction φ)}

/-! ## Turns -/

/-- The turns to take a command that the engine has had. -/
def turns (s : SessionServer φ) : Nat :=
  maxCmdsPerTick * s.ticks.length +
    match s.phase with
    | .commands processed => processed
    | .fleetCommands => maxCmdsPerTick
    | .report => 0

theorem turns_le (h : s.Ticking dynamics w) : s.turns ≤ maxCmdsPerTick * s.ticks.length + maxCmdsPerTick := by
  have hSoFar := h.soFar
  unfold TickSoFar at hSoFar
  unfold turns
  refine Nat.add_le_add_left ?_ _
  split
  · rename_i processed hPhase
    rw [hPhase] at hSoFar
    exact hSoFar.2.1
  · exact le_rfl
  · exact Nat.zero_le _

/-- Each turn a command is taken, unless the queue is empty. -/
theorem turns_moves (hTicking : s.Ticking dynamics w) (hLine : s.InLine) (hMoves : Moves dynamics codec s s') :
    s'.taken.length + s.turns = s.taken.length + s'.turns ∨ s'.taken = s'.io.state.pushed := by
  cases hMoves with
  | io | post | terminal => exact Or.inl rfl
  | @command processed next cmdQueue hPosting hPhase hMore hPop =>
    left
    simp only [turns, hPhase, takeCommand, act_eq, List.length_append, List.length_singleton]
    omega
  | @onTick processed hPosting hPhase hDrained =>
    have hSoFar := hTicking.soFar
    simp only [TickSoFar, hPhase] at hSoFar
    by_cases hMore : processed < maxCmdsPerTick
    · right
      have hOrder := hLine.order
      rw [PriorityCommandQueue.items_of_tryPop_none (hDrained hMore), List.append_nil] at hOrder
      exact hOrder
    · left
      have hAll : processed = maxCmdsPerTick := by omega
      simp only [turns, hPhase, act_eq, hAll]
  | fleetCommand hPosting hPhase hQueue =>
    left
    simp only [turns, hPhase, takeFleetCommand, act_eq]
  | endTick hPosting hPhase hQueue =>
    left
    rw [endTick_eq]
    simp only [turns, hPhase, List.length_append, List.length_singleton, Nat.mul_add, Nat.mul_one, Nat.add_zero]
  | report timestampUs hPosting hPhase =>
    left
    simp only [turns, hPhase, SessionServer.report]

theorem taken_extends (hMoves : Moves dynamics codec s s') : s.taken <+: s'.taken := by
  cases hMoves with
  | command => exact List.prefix_append _ _
  | endTick =>
    rw [endTick_eq]
  | io | terminal | post | onTick | fleetCommand | report => exact List.prefix_rfl

theorem pushed_extends (hMoves : Moves dynamics codec s s') : s.io.state.pushed <+: s'.io.state.pushed := by
  cases hMoves with
  | io hOther hFinds hStep => exact IoThread.pushed_extends hStep
  | post hPosting hStep => exact IoThread.pushed_extends hStep
  | endTick =>
    rw [endTick_eq]
  | terminal | command | onTick | fleetCommand | report => exact List.prefix_rfl

/-- A command that has not been taken after some more turns is still behind as many others. -/
theorem turns_run (h : run (step dynamics codec) (start coordinator w) actions = some s) {more : List (ServerAction φ)}
    (hMore : run (step dynamics codec) s more = some s') {i : Nat} (hi : i < s.io.state.pushed.length) :
    s.io.state.pushed <+: s'.io.state.pushed ∧ s.taken <+: s'.taken ∧
      (i < s'.taken.length ∨ s'.taken.length + s.turns = s.taken.length + s'.turns) := by
  induction more using List.reverseRecOn generalizing s' with
  | nil =>
    cases hMore
    exact ⟨List.prefix_rfl, List.prefix_rfl, Or.inr rfl⟩
  | append_singleton more a ih =>
    obtain ⟨t, hBefore, hLast⟩ := run_append.mp hMore
    obtain ⟨u, hStep, hDone⟩ := run_cons.mp hLast
    cases hDone
    have hRun := run_append.mpr ⟨s, h, hBefore⟩
    have hMoves := step_moves hStep
    obtain ⟨hPushed, hTaken, hWaits⟩ := ih hBefore
    have hPushed' := hPushed.trans (pushed_extends hMoves)
    refine ⟨hPushed', hTaken.trans (taken_extends hMoves), ?_⟩
    rcases hWaits with hTook | hTurns
    · exact Or.inl (Nat.lt_of_lt_of_le hTook (taken_extends hMoves).length_le)
    · rcases turns_moves (ticking_run hRun) (inLine_run hRun) hMoves with hTurn | hAll
      · right
        omega
      · left
        rw [hAll]
        exact Nat.lt_of_lt_of_le hi hPushed'.length_le

/-- A command that has had its turn has been taken. -/
theorem lt_taken (h : run (step dynamics codec) (start coordinator w) actions = some s) {more : List (ServerAction φ)}
    (hMore : run (step dynamics codec) s more = some s') {i : Nat} (hi : i < s.io.state.pushed.length)
    (hTicks : i < s.taken.length + maxCmdsPerTick * (s'.ticks.length - (s.ticks.length + 1))) :
    i < s'.taken.length := by
  obtain ⟨-, hPrefix, hWaits⟩ := turns_run h hMore hi
  rcases hWaits with hTaken | hTurns
  · exact hTaken
  · have hBefore := turns_le (ticking_run h)
    have hAfter : maxCmdsPerTick * s'.ticks.length ≤ s'.turns := Nat.le_add_right _ _
    have hLonger := hPrefix.length_le
    rw [Nat.mul_sub, Nat.mul_succ] at hTicks
    omega

/-- A command waits for as many ticks as it takes for those before it, sixty-four a tick, whatever is queued after
it. -/
theorem commands_wait (h : run (step dynamics codec) (start coordinator w) actions = some s)
    {more : List (ServerAction φ)}
    (hMore : run (step dynamics codec) s more = some s') {i : Nat} (hi : i < s.io.state.pushed.length)
    (hTicks : i < s.taken.length + maxCmdsPerTick * (s'.ticks.length - (s.ticks.length + 1))) :
    i < s'.taken.length ∧ s'.taken[i]? = s.io.state.pushed[i]? := by
  have hTaken := lt_taken h hMore hi hTicks
  have hOrder := (inLine_run (run_append.mpr ⟨s, h, hMore⟩)).order
  obtain ⟨new, hNew⟩ := (turns_run h hMore hi).1
  refine ⟨hTaken, ?_⟩
  rw [← List.getElem?_append_left hTaken, hOrder, ← hNew, List.getElem?_append_left hi]

/-- A's third command waits behind the one of B, and it is taken before the second tick from now has ended. -/
theorem commands_wait_joined : ∃ s s', run (step World.idleTrains pairServer)
      (start {} (World.start .ml8 forkStation)) (firstClient ++ secondClient) = some s ∧
    run (step World.idleTrains pairServer) s (List.replicate 12 (.engine 0)) = some s' ∧ s.taken.length = 2 ∧
      s.cmdQueue.items.length = 2 ∧ 3 < s'.taken.length ∧ s'.taken[3]? = s.io.state.pushed[3]? := by
  have hTaken : (run (step World.idleTrains pairServer) (start {} (World.start .ml8 forkStation))
      (firstClient ++ secondClient)).any (fun s => decide (s.taken.length = 2) &&
        decide (s.cmdQueue.items.length = 2) && decide (3 < s.io.state.pushed.length) &&
        (run (step World.idleTrains pairServer) s (List.replicate 12 (.engine 0))).any fun s' =>
          decide (3 < s.taken.length + maxCmdsPerTick * (s'.ticks.length - (s.ticks.length + 1)))) = true := by
    decide +kernel
  obtain ⟨s, hRun, hTest⟩ := (Option.any_eq_true _ _).mp hTaken
  simp only [Bool.and_eq_true, decide_eq_true_eq] at hTest
  obtain ⟨⟨⟨hTook, hQueued⟩, hPushed⟩, hMore⟩ := hTest
  obtain ⟨s', hMore, hTicks⟩ := (Option.any_eq_true _ _).mp hMore
  have hWait := commands_wait hRun hMore hPushed (of_decide_eq_true hTicks)
  exact ⟨s, s', hRun, hMore, hTook, hQueued, hWait⟩

/-! ## The engine alone -/

/-- How many steps of the engine are left at most until it ends a tick. -/
def stepsLeft (s : SessionServer φ) : Nat :=
  s.posting.length + s.fleetCommands.length +
    match s.phase with
    | .commands processed => 2 * (maxCmdsPerTick - processed) + 2
    | .fleetCommands => 1
    | .report => s.changes.length + 2 * maxCmdsPerTick + 3

/-- A tick has just ended, with everything posted and all fleet commands taken. -/
def AtTickEnd (s : SessionServer φ) : Prop := s.phase = .report ∧ s.posting = [] ∧ s.fleetCommands = []

theorem exists_enter {e : IoThread} {gateway : GatewayCodec} (h : e.halted = false) (frame : List Byte) :
    ∃ e', e.step gateway (.enter (.broadcast frame)) = some e' ∧ e'.halted = false ∧ e'.state = e.state := by
  refine ⟨{ e with
    waiting := e.waiting ++ [.inl (.event (.broadcast frame))]
    queued := e.queued ++ [.event (.broadcast frame)] }, ?_, h, rfl⟩
  simp [IoThread.step, IoThread.possible, Executor.step, h]

theorem length_onStateChanges_le (body : DomainEvent → List Byte) (bus : DispatchBus) (timestampUs : BitVec 64)
    (changes : List DeviceStateChange) : (onStateChanges body bus timestampUs changes).2.length ≤ changes.length := by
  rw [← (onStateChanges_frames bus timestampUs changes).length_eq]
  exact List.length_filterMap_le _ _

/-- A step of the engine brings it nearer to the end of its tick. -/
theorem exists_engine_step (h : s.io.halted = false) (timestampUs : BitVec 64) :
    ∃ s', s.step dynamics codec (.engine timestampUs) = some s' ∧ s'.io.halted = false ∧
      s'.io.state.pushed = s.io.state.pushed ∧
      (s'.ticks = s.ticks ∧ s'.stepsLeft < s.stepsLeft ∨ s'.ticks.length = s.ticks.length + 1 ∧ s'.AtTickEnd) := by
  rw [step, h, if_neg Bool.false_ne_true, engineStep]
  cases hPosting : s.posting with
  | cons frame posting =>
    obtain ⟨io, hEnter, hLives, hState⟩ := @exists_enter s.io codec.gateway h frame
    refine ⟨{ s with io, posting }, ?_, hLives, by rw [hState], Or.inl ⟨rfl, ?_⟩⟩
    · simp only [hEnter, Option.map_some]
    · simp only [stepsLeft, hPosting, List.length_cons]
      omega
  | nil =>
    dsimp only
    cases hPhase : s.phase with
    | commands processed =>
      dsimp only
      cases hNext : (if processed < maxCmdsPerTick then s.cmdQueue.tryPop else none) with
      | some taken =>
        obtain ⟨next, cmdQueue⟩ := taken
        refine ⟨_, rfl, h, rfl, Or.inl ⟨rfl, ?_⟩⟩
        have hMore : processed < maxCmdsPerTick := by
          by_contra hAll
          rw [if_neg hAll] at hNext
          cases hNext
        have hOne : ({ s with cmdQueue }.takeCommand dynamics codec processed next).posting.length ≤ 1 :=
          Option.length_toList_le
        simp only [stepsLeft, hPosting, hPhase, List.length_nil] at hOne ⊢
        change _ + s.fleetCommands.length + (2 * (maxCmdsPerTick - (processed + 1)) + 2) < _
        omega
      | none =>
        refine ⟨_, rfl, h, rfl, Or.inl ⟨rfl, ?_⟩⟩
        simp only [stepsLeft, hPosting, hPhase, act_eq, List.length_nil]
        omega
    | fleetCommands =>
      dsimp only
      cases hQueue : s.fleetCommands with
      | cons cmd fleetCommands =>
        refine ⟨_, rfl, h, rfl, Or.inl ⟨rfl, ?_⟩⟩
        simp only [stepsLeft, hPosting, hPhase, hQueue, takeFleetCommand, act_eq, List.length_nil, List.length_cons]
        omega
      | nil =>
        refine ⟨s.endTick dynamics, rfl, ?_⟩
        rw [endTick_eq]
        exact ⟨h, rfl, Or.inr ⟨List.length_append, rfl, hPosting, hQueue⟩⟩
    | report =>
      dsimp only
      refine ⟨s.report codec timestampUs, rfl, h, rfl, Or.inl ⟨rfl, ?_⟩⟩
      have hFrames := length_onStateChanges_le codec.body s.dispatchBus timestampUs s.changes
      simp only [stepsLeft, SessionServer.report, hPosting, hPhase, List.length_nil]
      omega

/-- While the gateway's thread lives, the engine ends its tick by itself. -/
theorem exists_tickEnd (h : s.io.halted = false) (timestampUs : BitVec 64) :
    ∃ n s', run (step dynamics codec) s (List.replicate n (.engine timestampUs)) = some s' ∧ s'.io.halted = false ∧
      s'.io.state.pushed = s.io.state.pushed ∧ s'.ticks.length = s.ticks.length + 1 ∧ s'.AtTickEnd := by
  induction hLeft : s.stepsLeft using Nat.strong_induction_on generalizing s with
  | _ left ih =>
    obtain ⟨t, hStep, hLives, hPushed, hNext⟩ := @exists_engine_step φ dynamics codec s h timestampUs
    rcases hNext with ⟨hTicks, hNearer⟩ | ⟨hTicks, hEnd⟩
    · obtain ⟨n, s', hRun, hLives', hPushed', hTicks', hEnd⟩ := ih t.stepsLeft (hLeft ▸ hNearer) hLives rfl
      exact ⟨n + 1, s', run_cons.mpr ⟨t, hStep, hRun⟩, hLives', hPushed'.trans hPushed, by rw [hTicks', hTicks], hEnd⟩
    · exact ⟨1, t, run_cons.mpr ⟨t, hStep, rfl⟩, hLives, hPushed, hTicks, hEnd⟩

theorem exists_tickEnds (h : s.io.halted = false) (timestampUs : BitVec 64) (k : Nat) :
    ∃ n s', run (step dynamics codec) s (List.replicate n (.engine timestampUs)) = some s' ∧ s'.io.halted = false ∧
      s'.io.state.pushed = s.io.state.pushed ∧ s'.ticks.length = s.ticks.length + (k + 1) ∧ s'.AtTickEnd := by
  induction k with
  | zero => exact exists_tickEnd h timestampUs
  | succ k ih =>
    obtain ⟨n, t, hRun, hLives, hPushed, hTicks, -⟩ := ih
    obtain ⟨m, s', hRun', hLives', hPushed', hTicks', hEnd⟩ := @exists_tickEnd φ dynamics codec t hLives timestampUs
    refine ⟨n + m, s', ?_, hLives', hPushed'.trans hPushed, by omega, hEnd⟩
    rw [← List.replicate_append_replicate]
    exact run_append.mpr ⟨t, hRun, hRun'⟩

/-- From every state in which the gateway's thread lives the engine alone gets to the end of a tick with all commands
taken that had been queued, and all fleet commands, whatever the clients had sent and however many they are. -/
theorem engine_serves (h : run (step dynamics codec) (start coordinator w) actions = some s)
    (hLives : s.io.halted = false) (timestampUs : BitVec 64) :
    ∃ n s', run (step dynamics codec) s (List.replicate n (.engine timestampUs)) = some s' ∧
      s'.taken = s.io.state.pushed ∧ s'.cmdQueue.items = [] ∧ s'.AtTickEnd := by
  obtain ⟨n, s', hRun, -, hPushed, hTicks, hEnd⟩ :=
    @exists_tickEnds φ dynamics codec s hLives timestampUs s.io.state.pushed.length
  have hOrder := (inLine_run (run_append.mpr ⟨s, h, hRun⟩)).order
  rw [hPushed] at hOrder
  have hAll : s.io.state.pushed.length ≤ s'.taken.length := by
    by_contra hFewer
    -- the next command to be taken would have had its turn
    have hNext : s'.taken.length < s.io.state.pushed.length := by omega
    have hTurn : s'.taken.length < s.taken.length + maxCmdsPerTick * (s'.ticks.length - (s.ticks.length + 1)) := by
      rw [hTicks, maxCmdsPerTick]
      omega
    exact absurd (lt_taken h hRun hNext hTurn) (Nat.lt_irrefl _)
  have hLength := congrArg List.length hOrder
  rw [List.length_append] at hLength
  have hNone : s'.cmdQueue.items = [] := List.length_eq_zero_iff.mp (by omega)
  rw [hNone, List.append_nil] at hOrder
  exact ⟨n, s', hRun, hOrder, hNone, hEnd⟩

theorem engine_serves_joined : ∃ s n s', run (step World.idleTrains stopServer)
      (start {} (World.start .ml8 forkStation)) (joinAndCommand.take 4) = some s ∧
    run (step World.idleTrains stopServer) s (List.replicate n (.engine 0)) = some s' ∧ s.taken = [] ∧
      s'.taken = s.io.state.pushed ∧ s'.taken ≠ [] := by
  have hTaken : (run (step World.idleTrains stopServer) (start {} (World.start .ml8 forkStation))
      (joinAndCommand.take 4)).any (fun s =>
        s.taken.isEmpty && ! s.io.halted && ! s.io.state.pushed.isEmpty) = true := by
    decide +kernel
  obtain ⟨s, hRun, hTest⟩ := (Option.any_eq_true _ _).mp hTaken
  simp only [Bool.and_eq_true, Bool.not_eq_true', List.isEmpty_iff] at hTest
  obtain ⟨⟨hNone, hLives⟩, hQueued⟩ := hTest
  obtain ⟨n, s', hServed, hAll, -, -⟩ := engine_serves hRun hLives 0
  refine ⟨s, n, s', hRun, hServed, hNone, hAll, fun hEmpty => ?_⟩
  rw [← hAll, hEmpty] at hQueued
  cases hQueued

end SessionServer

end Symulator.Server
