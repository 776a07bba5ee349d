import Symulator.Server.GatewayDelivery
import Symulator.Server.SessionServer

/-! # The ticks of the server

Whatever the clients do meanwhile, what the engine does is one tick after another. Each tick takes some of the
commands in the order they were taken from the queue and some of the fleet commands in the order they were queued, and
each snapshot shows the world a tick has ended in.
-/

namespace Symulator.Server

open Symulator.Library Symulator.Engine Symulator.Srk

set_option autoImplicit false

section Ticks

variable {φ : Type} (dynamics : TrainDynamics φ)

/-- Each tick starts from the world the one before it ended in. -/
def Chained : World φ → List (World φ × TickInput φ) → World φ → Prop
  | w, [], w' => w' = w
  | w, t :: ticks, w' => t.1 = w ∧ Chained (t.1.doTick dynamics t.2.queue t.2.fleetCommands) ticks w'

variable {dynamics}

theorem Chained.concat {w w' : World φ} {ticks : List (World φ × TickInput φ)} (h : Chained dynamics w ticks w')
    (input : TickInput φ) :
    Chained dynamics w (ticks ++ [(w', input)]) (w'.doTick dynamics input.queue input.fleetCommands) := by
  induction ticks generalizing w with
  | nil =>
    cases h
    exact ⟨rfl, rfl⟩
  | cons t ticks ih => exact ⟨h.1, ih h.2⟩

theorem Chained.exists_run {w w' : World φ} {ticks : List (World φ × TickInput φ)} (h : Chained dynamics w ticks w') :
    ∃ actions, run (World.step dynamics) w actions = some w' := by
  induction ticks generalizing w with
  | nil =>
    cases h
    exact ⟨[], rfl⟩
  | cons t ticks ih =>
    obtain ⟨rfl, hRest⟩ := h
    obtain ⟨first, hFirst⟩ := @World.exists_run_doTick φ dynamics t.1 t.2.queue t.2.fleetCommands
    obtain ⟨later, hLater⟩ := ih hRest
    exact ⟨first ++ later, run_append.mpr ⟨_, hFirst, hLater⟩⟩

end Ticks

namespace SessionServer

variable {φ : Type} (dynamics : TrainDynamics φ)

/-- The world the finished ticks have led to. -/
def settled (s : SessionServer φ) : World φ := if s.phase = .report then s.world else s.started

/-- The finished ticks and the one under way. -/
def allTicks (s : SessionServer φ) : List (World φ × TickInput φ) :=
  if s.phase = .report then s.ticks else s.ticks ++ [(s.started, s.input)]

/-- The engine stands in the tick where it would stand if nothing came between its steps. -/
def TickSoFar (s : SessionServer φ) : Prop :=
  match s.phase with
  | .commands processed =>
    s.input.queue.length = processed ∧ processed ≤ maxCmdsPerTick ∧ s.input.fleetCommands = [] ∧
      (s.world, s.changes) =
        s.input.queue.foldl (fun p cmd => World.attemptListed dynamics p (.command cmd)) (s.started, [])
  | .fleetCommands =>
    s.input.queue.length ≤ maxCmdsPerTick ∧
      (s.world, s.changes) = s.started.beforeTrains dynamics s.input.queue s.input.fleetCommands
  | .report =>
    s.input.queue.length ≤ maxCmdsPerTick ∧
      (s.world, s.changes) = s.started.doTickListed dynamics s.input.queue s.input.fleetCommands

/-- What holds of the ticks of a server that started in `w`. -/
structure Ticking (w : World φ) (s : SessionServer φ) : Prop where
  chained : Chained dynamics w s.ticks s.settled
  soFar : s.TickSoFar dynamics
  commands : (s.allTicks.flatMap fun t => t.2.queue) = s.taken.map fun entry => entry.2.payload
  fleet : (s.allTicks.flatMap fun t => t.2.fleetCommands) ++ s.fleetCommands = s.fleetQueued
  snapshot : s.snapshot = if s.ticks = [] then none else some (publish dynamics s.settled.state s.settled.fleet)
  bounded : ∀ t ∈ s.ticks, t.2.queue.length ≤ maxCmdsPerTick
  reported : s.phase = .report → ∃ ticks, s.ticks = ticks ++ [(s.started, s.input)]

variable {dynamics} {codec : ServerCodec} {s s' : SessionServer φ} {w : World φ}

theorem ticking_start (coordinator : DispatchCoordinator) (w : World φ) : (start coordinator w).Ticking dynamics w where
  chained := rfl
  soFar := ⟨rfl, Nat.zero_le _, rfl, rfl⟩
  commands := rfl
  fleet := rfl
  snapshot := rfl
  bounded := List.forall_mem_nil _
  reported hReport := by cases hReport

theorem act_eq (s : SessionServer φ) (a : Action φ) : s.act dynamics a =
    { s with
      world := (World.attemptListed dynamics (s.world, s.changes) a).1
      changes := (World.attemptListed dynamics (s.world, s.changes) a).2 } := rfl

theorem world_act (s : SessionServer φ) (a : Action φ) : (s.act dynamics a).world = s.world.attempt dynamics a :=
  World.attemptListed_fst (s.world, s.changes) a

theorem world_endTick (s : SessionServer φ) : (s.endTick dynamics).world =
    (if s.world.fleet.isEmpty then s.world else s.world.attempt dynamics .tickTrains).attempt dynamics
      .advanceTick := by
  unfold endTick
  split
  · exact world_act s _
  · exact (world_act _ _).trans (congrArg (World.attempt dynamics · .advanceTick) (world_act s _))

theorem take_of_le {α : Type} {xs : List α} (h : xs.length ≤ maxCmdsPerTick) : xs.take maxCmdsPerTick = xs :=
  List.take_of_length_le h

theorem Ticking.command (h : s.Ticking dynamics w) {processed : Nat} {next : Nat × EnvelopedCommand}
    {cmdQueue : PriorityCommandQueue (Nat × EnvelopedCommand)} (hPhase : s.phase = .commands processed)
    (hMore : processed < maxCmdsPerTick) :
    ({ s with cmdQueue }.takeCommand dynamics codec processed next).Ticking dynamics w := by
  have hChained := h.chained
  have hSoFar := h.soFar
  have hCommands := h.commands
  have hFleet := h.fleet
  have hSnapshot := h.snapshot
  simp only [TickSoFar, settled, allTicks, hPhase, reduceCtorEq, if_false] at hChained hSoFar hCommands hFleet hSnapshot
  obtain ⟨hLength, -, hNone, hTick⟩ := hSoFar
  refine ⟨hChained, ⟨?_, hMore, hNone, ?_⟩, ?_, ?_, hSnapshot, h.bounded, fun hReport => by cases hReport⟩
  · simp [takeCommand, hLength]
  · simp only [takeCommand, act_eq, List.foldl_append, List.foldl_cons, List.foldl_nil, ← hTick]
  · simp [allTicks, takeCommand, act_eq, ← hCommands]
  · simpa [allTicks, takeCommand, act_eq] using hFleet

theorem Ticking.onTick (h : s.Ticking dynamics w) {processed : Nat} (hPhase : s.phase = .commands processed) :
    ({ s.act dynamics .onTick with phase := .fleetCommands } : SessionServer φ).Ticking dynamics w := by
  have hChained := h.chained
  have hSoFar := h.soFar
  have hCommands := h.commands
  have hFleet := h.fleet
  have hSnapshot := h.snapshot
  simp only [TickSoFar, settled, allTicks, hPhase, reduceCtorEq, if_false] at hChained hSoFar hCommands hFleet hSnapshot
  obtain ⟨hLength, hMax, hNone, hTick⟩ := hSoFar
  have hQueue : s.input.queue.length ≤ maxCmdsPerTick := hLength ▸ hMax
  refine ⟨hChained, ⟨hQueue, ?_⟩, hCommands, hFleet, hSnapshot, h.bounded, fun hReport => by cases hReport⟩
  simp only [act_eq, World.beforeTrains, take_of_le hQueue, hNone, List.foldl_nil, ← hTick]

theorem Ticking.fleetCommand (h : s.Ticking dynamics w) {cmd : FleetCommand φ} {fleetCommands : List (FleetCommand φ)}
    (hPhase : s.phase = .fleetCommands) (hQueue : s.fleetCommands = cmd :: fleetCommands) :
    ({ s with fleetCommands }.takeFleetCommand dynamics cmd).Ticking dynamics w := by
  have hChained := h.chained
  have hSoFar := h.soFar
  have hCommands := h.commands
  have hFleet := h.fleet
  have hSnapshot := h.snapshot
  simp only [TickSoFar, settled, allTicks, hPhase, reduceCtorEq, if_false] at hChained hSoFar hCommands hFleet hSnapshot
  obtain ⟨hLength, hTick⟩ := hSoFar
  refine ⟨?_, ?_, ?_, ?_, ?_, h.bounded, fun hReport => ?_⟩
  · simpa [settled, takeFleetCommand, act_eq, hPhase] using hChained
  · simp only [TickSoFar, takeFleetCommand, act_eq, hPhase]
    refine ⟨hLength, ?_⟩
    simp only [World.beforeTrains, List.foldl_append, List.foldl_cons, List.foldl_nil] at hTick ⊢
    rw [← hTick]
  · simpa [allTicks, takeFleetCommand, act_eq, hPhase] using hCommands
  · simpa [allTicks, takeFleetCommand, act_eq, hPhase, hQueue] using hFleet
  · simpa [settled, takeFleetCommand, act_eq, hPhase] using hSnapshot
  · simp [takeFleetCommand, act_eq, hPhase] at hReport

theorem endTick_eq (s : SessionServer φ) : s.endTick dynamics =
    let p := World.attemptListed dynamics
      (if s.world.fleet.isEmpty then (s.world, s.changes)
      else World.attemptListed dynamics (s.world, s.changes) .tickTrains)
      .advanceTick
    { s with
      world := p.1
      changes := p.2
      snapshot := some (publish dynamics p.1.state p.1.fleet)
      phase := .report
      ticks := s.ticks ++ [(s.started, s.input)] } := by
  unfold endTick
  split <;> rfl

theorem Ticking.endTick (h : s.Ticking dynamics w) (hPhase : s.phase = .fleetCommands) :
    (s.endTick dynamics).Ticking dynamics w := by
  have hChained := h.chained
  have hSoFar := h.soFar
  have hCommands := h.commands
  have hFleet := h.fleet
  simp only [TickSoFar, settled, allTicks, hPhase, reduceCtorEq, if_false] at hChained hSoFar hCommands hFleet
  obtain ⟨hLength, hTick⟩ := hSoFar
  have hDone : World.attemptListed dynamics
      (if s.world.fleet.isEmpty then (s.world, s.changes)
      else World.attemptListed dynamics (s.world, s.changes) .tickTrains)
      .advanceTick = s.started.doTickListed dynamics s.input.queue s.input.fleetCommands := by
    rw [World.doTickListed, ← hTick]
  rw [endTick_eq, hDone]
  refine ⟨?_, ⟨hLength, rfl⟩, hCommands, hFleet, ?_, ?_, fun _ => ⟨_, rfl⟩⟩
  · have hNext := hChained.concat s.input
    rw [← World.doTickListed_fst] at hNext
    exact hNext
  · rw [if_neg (by simp)]
    rfl
  · intro t ht
    rcases List.mem_append.mp ht with ht | ht
    · exact h.bounded t ht
    · rw [List.mem_singleton.mp ht]
      exact hLength

theorem Ticking.report (h : s.Ticking dynamics w) (hPhase : s.phase = .report) (timestampUs : BitVec 64) :
    (s.report codec timestampUs).Ticking dynamics w := by
  have hChained := h.chained
  have hCommands := h.commands
  have hFleet := h.fleet
  have hSnapshot := h.snapshot
  simp only [settled, allTicks, hPhase, if_true] at hChained hCommands hFleet hSnapshot
  refine ⟨hChained, ⟨rfl, Nat.zero_le _, rfl, rfl⟩, ?_, ?_, hSnapshot, h.bounded, fun hReport => by cases hReport⟩
  · simpa [allTicks, SessionServer.report] using hCommands
  · simpa [allTicks, SessionServer.report] using hFleet

theorem Ticking.moves (h : s.Ticking dynamics w) (hMoves : Moves dynamics codec s s') : s'.Ticking dynamics w := by
  cases hMoves with
  | io | post => exact ⟨h.chained, h.soFar, h.commands, h.fleet, h.snapshot, h.bounded, h.reported⟩
  | terminal cmd =>
    refine ⟨h.chained, h.soFar, h.commands, ?_, h.snapshot, h.bounded, h.reported⟩
    rw [← List.append_assoc]
    exact congrArg (· ++ [cmd]) h.fleet
  | command hPosting hPhase hMore hPop => exact h.command hPhase hMore
  | onTick hPosting hPhase hDrained => exact h.onTick hPhase
  | fleetCommand hPosting hPhase hQueue => exact h.fleetCommand hPhase hQueue
  | endTick hPosting hPhase hQueue => exact h.endTick hPhase
  | report timestampUs hPosting hPhase => exact h.report hPhase timestampUs

variable {coordinator : DispatchCoordinator} {actions : List (ServerAction φ)}

theorem ticking_run (h : run (step dynamics codec) (start coordinator w) actions = some s) : s.Ticking dynamics w :=
  invariant (Ticking dynamics w) (fun _ _ _ hTicking hStep => hTicking.moves (step_moves hStep))
    (ticking_start coordinator w) h

theorem exists_run_foldl_attemptListed (p : World φ × List DeviceStateChange) (acts : List (Action φ)) :
    ∃ taken, run (World.step dynamics) p.1 taken = some (acts.foldl (World.attemptListed dynamics) p).1 := by
  obtain ⟨taken, hTaken⟩ := @World.exists_run_attempts φ dynamics p.1 acts
  refine ⟨taken, hTaken.trans (congrArg some ?_)⟩
  exact List.foldl_hom Prod.fst fun p a => (World.attemptListed_fst p a).symm

/-- The engine has got to its world by steps of the loop. -/
theorem TickSoFar.exists_run (h : s.TickSoFar dynamics) :
    ∃ taken, run (World.step dynamics) s.started taken = some s.world := by
  unfold TickSoFar at h
  split at h
  · obtain ⟨-, -, -, hTick⟩ := h
    rw [← List.foldl_map] at hTick
    rw [show s.world = _ from congrArg Prod.fst hTick]
    exact exists_run_foldl_attemptListed (s.started, []) _
  · obtain ⟨-, hTick⟩ := h
    rw [World.beforeTrains_eq_foldl] at hTick
    rw [show s.world = _ from congrArg Prod.fst hTick]
    exact exists_run_foldl_attemptListed (s.started, []) _
  · obtain ⟨-, hTick⟩ := h
    rw [show s.world = _ from congrArg Prod.fst hTick, World.doTickListed_fst]
    exact World.exists_run_doTick _ _ _

theorem Ticking.exists_run (h : s.Ticking dynamics w) : ∃ taken, run (World.step dynamics) w taken = some s.world := by
  obtain ⟨first, hFirst⟩ := h.chained.exists_run
  unfold settled at hFirst
  split at hFirst
  · exact ⟨first, hFirst⟩
  · obtain ⟨later, hLater⟩ := h.soFar.exists_run
    exact ⟨first ++ later, run_append.mpr ⟨s.started, hFirst, hLater⟩⟩

theorem ticks_moves (h : Moves dynamics codec s s') : s.ticks <+: s'.ticks := by
  cases h with
  | endTick =>
    rw [endTick_eq]
    exact List.prefix_append _ _
  | io | terminal | post | command | onTick | fleetCommand | report => exact List.prefix_refl _

/-- The snapshot shows the world that one of the ticks has ended in. -/
def PublishedIn (dynamics : TrainDynamics φ) (w : World φ) (ticks : List (World φ × TickInput φ))
    (snap : EngineSnapshot) :
    Prop :=
  ∃ done w', done <+: ticks ∧ done ≠ [] ∧ Chained dynamics w done w' ∧ snap = publish dynamics w'.state w'.fleet

theorem PublishedIn.mono {ticks ticks' : List (World φ × TickInput φ)} {snap : EngineSnapshot}
    (h : PublishedIn dynamics w ticks snap) (hMore : ticks <+: ticks') : PublishedIn dynamics w ticks' snap := by
  obtain ⟨done, w', hDone, hRest⟩ := h
  exact ⟨done, w', hDone.trans hMore, hRest⟩

/-- What the terminal finds published shows where a tick has ended. -/
theorem Ticking.publishedIn (h : s.Ticking dynamics w) {snap : EngineSnapshot} (hSnap : s.snapshot = some snap) :
    PublishedIn dynamics w s.ticks snap := by
  have hPublished := h.snapshot
  rw [hSnap] at hPublished
  split at hPublished
  · cases hPublished
  · rename_i hTicks
    exact ⟨s.ticks, s.settled, List.prefix_refl _, hTicks, h.chained, Option.some.inj hPublished⟩

/-- However the server is run, its engine works through whole ticks of the loop, one after another, over the commands in
the order they were taken and the fleet commands in the order the terminal queued them, none left out or taken twice.
The published snapshot shows where the last of them ended. -/
theorem engine_ticks (h : run (step dynamics codec) (start coordinator w) actions = some s) :
    Chained dynamics w s.ticks s.settled ∧ s.TickSoFar dynamics ∧
      (s.allTicks.flatMap fun t => t.2.queue) = s.taken.map (fun entry => entry.2.payload) ∧
      (s.allTicks.flatMap fun t => t.2.fleetCommands) ++ s.fleetCommands = s.fleetQueued ∧
      (s.snapshot = if s.ticks = [] then none else some (publish dynamics s.settled.state s.settled.fleet)) ∧
      (∀ t ∈ s.ticks, t.2.queue.length ≤ maxCmdsPerTick) ∧
      ∃ taken, run (World.step dynamics) w taken = some s.world := by
  have hTicking := ticking_run h
  exact ⟨hTicking.chained, hTicking.soFar, hTicking.commands, hTicking.fleet, hTicking.snapshot, hTicking.bounded,
    hTicking.exists_run⟩

/-- A server for player A, whose every command is to put a signal to stop. -/
def stopServer : ServerCodec where
  gateway := { plainGateway with session := { plainGateway.session with parsePayload := fun _ => some stopSignal } }
  body _ := [1]
  finish _ := [2]

def commandFrame : DecodedFrame := { msgType := MsgType.kCommand, seqId := 7, payload := [1] }

/-- A client joins and sends a command, and the engine ticks. -/
def joinAndCommand : List (ServerAction Unit) :=
  [.io (.enter .accept), .io .work,
    .io (.enter (.read 0 ((joinFrame [1]).encode ++ commandFrame.encode) (fun _ => {}) (fun _ => 0))), .io .work,
    .engine 0, .engine 0, .engine 0, .engine 0]

/-- The tick takes the command and the fleet command. -/
theorem engine_ticks_joined : ∃ s, run (step World.idleTrains stopServer) (start {} (World.start .ml8 forkStation))
      (joinAndCommand ++ [.terminal (.despawn ⟨9⟩), .engine 0, .engine 0]) = some s ∧
    s.ticks.length = 1 ∧ (s.allTicks.flatMap fun t => t.2.queue).length = 1 ∧ s.fleetQueued.length = 1 ∧
      ∃ taken, run (World.step World.idleTrains) (World.start .ml8 forkStation) taken = some s.world := by
  have hTaken : (run (step World.idleTrains stopServer) (start {} (World.start .ml8 forkStation))
      (joinAndCommand ++ [.terminal (.despawn ⟨9⟩), .engine 0, .engine 0])).any (fun s =>
        s.ticks.length = 1 && s.taken.length = 1 && s.fleetQueued.length = 1) = true := by decide +kernel
  obtain ⟨s, hRun, hLengths⟩ := (Option.any_eq_true _ _).mp hTaken
  simp only [Bool.and_eq_true, decide_eq_true_eq] at hLengths
  obtain ⟨-, -, hCommands, -, -, -, hReached⟩ := engine_ticks hRun
  refine ⟨s, hRun, hLengths.1.1, ?_, hLengths.2, hReached⟩
  rw [hCommands, List.length_map]
  exact hLengths.1.2

end SessionServer

end Symulator.Server
