import Symulator.Server.EventDelivery

/-! # What becomes of a command

The engine checks a command against the world in which it takes it. A command that is refused changes nothing, and one
notice with its number goes to all clients. The notices go out in the order in which the commands were taken, one for
each that was refused, whatever events are reported between them.
-/

namespace Symulator.Server

open Symulator.Library Symulator.Engine Symulator.Srk

set_option autoImplicit false

section Verdicts

variable {φ : Type} (dynamics : TrainDynamics φ)

/-- The commands of a tick, each with the world in which it is taken. -/
def takenIn (w : World φ) : List Command → List (World φ × Command)
  | [] => []
  | cmd :: queue => (w, cmd) :: takenIn (w.attempt dynamics (.command cmd)) queue

def violationOf (p : World φ × Command) : Option InterlockingViolation := p.1.control.checkCommand p.1.state p.2

def afterCommands (w : World φ) (queue : List Command) : World φ :=
  queue.foldl (fun w cmd => w.attempt dynamics (.command cmd)) w

variable {dynamics} (w : World φ)

theorem map_snd_takenIn (queue : List Command) : (takenIn dynamics w queue).map Prod.snd = queue := by
  induction queue generalizing w with
  | nil => rfl
  | cons cmd queue ih => rw [takenIn, List.map_cons, ih]

theorem takenIn_concat (queue : List Command) (cmd : Command) : takenIn dynamics w (queue ++ [cmd]) =
    takenIn dynamics w queue ++ [(afterCommands dynamics w queue, cmd)] := by
  induction queue generalizing w with
  | nil => rfl
  | cons first queue ih => rw [List.cons_append, takenIn, ih, takenIn, List.cons_append]; rfl

theorem attempt_of_refused {cmd : Command} (h : (violationOf (w, cmd)).isSome = true) :
    w.attempt dynamics (.command cmd) = w := by
  obtain ⟨v, hv⟩ := Option.isSome_iff_exists.mp h
  have hCheck : w.control.checkCommand w.state cmd = some v := hv
  rw [World.attempt, World.step, hCheck]
  rfl

/-- The commands that are not refused lead where all of them lead. -/
theorem afterCommands_accepted (queue : List Command) : afterCommands dynamics w
      (((takenIn dynamics w queue).filter fun p => (violationOf p).isNone).map Prod.snd) =
    afterCommands dynamics w queue := by
  induction queue generalizing w with
  | nil => rfl
  | cons cmd queue ih =>
    rw [takenIn]
    cases hViolation : violationOf (w, cmd) with
    | none =>
      rw [List.filter_cons_of_pos (by rw [hViolation]; rfl), List.map_cons]
      exact ih _
    | some v =>
      have hSame : w.attempt dynamics (.command cmd) = w := attempt_of_refused w (by rw [hViolation]; rfl)
      rw [List.filter_cons_of_neg (by rw [hViolation]; exact Bool.false_ne_true), hSame, ih]
      rw [afterCommands, afterCommands, List.foldl_cons, hSame]

end Verdicts

namespace SessionServer

variable {φ : Type} (dynamics : TrainDynamics φ)

/-- All commands taken, each with the world in which it was taken. -/
def commandLog (s : SessionServer φ) : List (World φ × Command) :=
  s.allTicks.flatMap fun t => takenIn dynamics t.1 t.2.queue

def noticeFor (codec : ServerCodec) (entry : (Nat × EnvelopedCommand) × (World φ × Command)) : Option (List Byte) :=
  (violationOf entry.2).map fun v => (makeNakFrame codec.gateway.session.build entry.1.2.cmdMeta.seqId v).encode

/-- A notice for each command refused. -/
def notices (codec : ServerCodec) (s : SessionServer φ) : List (List Byte) :=
  (s.taken.zip (s.commandLog dynamics)).filterMap (noticeFor codec)

def isNotice (frame : List Byte) : Bool := ! isEventFrame frame

def noticesHeard (s : SessionServer φ) (session : Nat) : List (List Byte) :=
  ((s.io.sent session).filterMap Outgoing.shared?).filter isNotice

def noticesWaiting (s : SessionServer φ) : List (List Byte) :=
  (broadcastsOf (Executor.handlersOf s.io.waiting) ++ s.posting).filter isNotice

variable {dynamics} {codec : ServerCodec} {s s' : SessionServer φ} {coordinator : DispatchCoordinator} {w : World φ}
  {actions : List (ServerAction φ)}

theorem Ticking.map_snd_commandLog (h : s.Ticking dynamics w) :
    (s.commandLog dynamics).map Prod.snd = s.taken.map fun entry => entry.2.payload := by
  rw [← h.commands, commandLog, List.map_flatMap]
  exact congrArg (fun f => s.allTicks.flatMap f) (funext fun t => map_snd_takenIn t.1 t.2.queue)

theorem Ticking.length_commandLog (h : s.Ticking dynamics w) : (s.commandLog dynamics).length = s.taken.length := by
  have hLength := congrArg List.length h.map_snd_commandLog
  rwa [List.length_map, List.length_map] at hLength

/-- While commands are taken, the world is where the commands of the tick have led. -/
theorem TickSoFar.world_commands (h : s.TickSoFar dynamics) {processed : Nat} (hPhase : s.phase = .commands processed) :
    s.world = afterCommands dynamics s.started s.input.queue := by
  simp only [TickSoFar, hPhase] at h
  have hWorld := congrArg Prod.fst h.2.2.2
  rw [show s.world = _ from hWorld]
  exact (List.foldl_hom Prod.fst fun p cmd => (World.attemptListed_fst p (.command cmd)).symm).symm

/-- A command joins the log with the world as it is; nothing else does. -/
theorem Ticking.commandLog_moves (h : s.Ticking dynamics w) (hMoves : Moves dynamics codec s s') :
    (∃ processed next cmdQueue, s.posting = [] ∧ s' = { s with cmdQueue }.takeCommand dynamics codec processed next ∧
      s'.commandLog dynamics = s.commandLog dynamics ++ [(s.world, next.2.payload)]) ∨
    s'.commandLog dynamics = s.commandLog dynamics ∧ s'.taken = s.taken := by
  cases hMoves with
  | io | post | terminal => exact Or.inr ⟨rfl, rfl⟩
  | @command processed next cmdQueue hPosting hPhase hMore hPop =>
    refine Or.inl ⟨processed, next, cmdQueue, hPosting, rfl, ?_⟩
    rw [h.soFar.world_commands hPhase]
    simp [commandLog, allTicks, takeCommand, act_eq, hPhase, takenIn_concat]
  | onTick hPosting hPhase hDrained =>
    right
    simp [commandLog, allTicks, act_eq, hPhase]
  | fleetCommand hPosting hPhase hQueue =>
    right
    simp [commandLog, allTicks, takeFleetCommand, act_eq, hPhase]
  | endTick hPosting hPhase hQueue =>
    right
    rw [endTick_eq]
    simp [commandLog, allTicks, hPhase]
  | report timestampUs hPosting hPhase =>
    right
    simp [commandLog, allTicks, SessionServer.report, hPhase, takenIn]

/-! ## Notices -/

theorem isNotice_nak (seqId : BitVec 32) (v : InterlockingViolation) :
    isNotice (makeNakFrame codec.gateway.session.build seqId v).encode = true := by
  rw [isNotice, isEventFrame_nak]
  rfl

theorem filter_isNotice_report (hPosting : s.posting = []) (timestampUs : BitVec 64) :
    (s.report codec timestampUs).made.filter isNotice = s.made.filter isNotice := by
  have hNone : (onStateChanges codec.body s.dispatchBus timestampUs s.changes).2.filter isNotice = [] := by
    refine List.filter_eq_nil_iff.mpr fun frame hFrame => ?_
    rw [isNotice, isEventFrame_onStateChanges _ _ _ frame hFrame]
    exact Bool.false_ne_true
  simp only [made, SessionServer.report, hPosting, List.append_nil, List.filter_append, hNone]

/-- What the engine has made besides events are the notices. -/
def Noticing (dynamics : TrainDynamics φ) (codec : ServerCodec) (s : SessionServer φ) : Prop :=
  s.made.filter isNotice = s.notices dynamics codec

theorem Noticing.moves (h : Noticing dynamics codec s) (hTicking : s.Ticking dynamics w)
    (hRun : ∃ ioActions, run (IoThread.step codec.gateway) (IoThread.start coordinator) ioActions = some s.io)
    (hMoves : Moves dynamics codec s s') : Noticing dynamics codec s' := by
  have hQuiet : s'.made.filter isNotice = s.made.filter isNotice → s'.commandLog dynamics = s.commandLog dynamics →
      s'.taken = s.taken → Noticing dynamics codec s' := by
    intro hMade hLog hTaken
    rw [Noticing, notices, hMade, hLog, hTaken]
    exact h
  rcases hTicking.commandLog_moves hMoves with ⟨processed, next, cmdQueue, hPosting, rfl, hLog⟩ | ⟨hLog, hTaken⟩
  · rw [Noticing, notices, hLog]
    change _ = ((s.taken ++ [next]).zip _).filterMap _
    rw [List.zip_append hTicking.length_commandLog.symm, List.filterMap_append, made_takeCommand hPosting,
      List.filter_append, h]
    refine congrArg (s.notices dynamics codec ++ ·) ?_
    change List.filter isNotice (Option.map _ (violationOf (s.world, next.2.payload))).toList =
      ([(next, s.world, next.2.payload)].filterMap (noticeFor codec))
    cases hViolation : violationOf (s.world, next.2.payload) with
    | none => simp [noticeFor, hViolation]
    | some v => simp [noticeFor, hViolation, isNotice_nak]
  · rcases made_moves hRun hMoves with ⟨timestampUs, hPosting, -, rfl⟩ | ⟨processed, next, cmdQueue, -, -, rfl⟩ |
      ⟨hMade, -⟩
    · exact hQuiet (filter_isNotice_report hPosting timestampUs) hLog hTaken
    · exact absurd (congrArg List.length hTaken) (by simp [takeCommand])
    · exact hQuiet (by rw [hMade]) hLog hTaken

theorem noticing_run (h : run (step dynamics codec) (start coordinator w) actions = some s) :
    Noticing dynamics codec s := by
  induction actions using List.reverseRecOn generalizing s with
  | nil =>
    cases h
    rfl
  | append_singleton actions a ih =>
    obtain ⟨t, hBefore, hLast⟩ := run_append.mp h
    obtain ⟨s', hStep, hDone⟩ := run_cons.mp hLast
    cases hDone
    exact (ih hBefore).moves (ticking_run hBefore) (exists_ioRun hBefore) (step_moves hStep)

/-- For every command refused there is one notice, and the notices go out in the order in which the commands were taken.
A session hears a stretch of them, which begins behind those handled when it came to listen; one that listens misses
only those that wait. A refused command does nothing else. -/
theorem notices_inOrder (h : run (step dynamics codec) (start coordinator w) actions = some s) (session : Nat) :
    (s.commandLog dynamics).map Prod.snd = s.taken.map (fun entry => entry.2.payload) ∧
      s.made.filter isNotice = s.notices dynamics codec ∧
      (∃ before after, s.notices dynamics codec = before ++ s.noticesHeard session ++ after ∧
        (session ∈ s.io.state.sessions → s.io.state.hears session = true → after = s.noticesWaiting) ∧
        (s.io.state.listens session = true ∨ s.noticesHeard session ≠ [] →
          ∃ s₁, ListensFrom dynamics codec (start coordinator w) actions session s₁ ∧
            before = (broadcastsOf s₁.io.handled).filter isNotice)) ∧
      ∀ t ∈ s.allTicks, afterCommands dynamics t.1
        (((takenIn dynamics t.1 t.2.queue).filter fun p => (violationOf p).isNone).map Prod.snd) =
          afterCommands dynamics t.1 t.2.queue := by
  have hNotices := noticing_run h
  obtain ⟨before, after, hStretch, hListens, hFrom⟩ := exists_stretch h session isNotice
  rw [hNotices] at hStretch
  exact ⟨(ticking_run h).map_snd_commandLog, hNotices, ⟨before, after, hStretch, hListens, hFrom⟩,
    fun t _ => afterCommands_accepted t.1 t.2.queue⟩

/-- A hears that its command was refused and that B's was; B, who joined in between, hears the second notice. -/
theorem notices_inOrder_joined : ∃ s before s₁, run (step World.idleTrains pairServer)
      (start {} (World.start .ml8 forkStation)) twoClients = some s ∧
    s.made.filter isNotice = s.notices World.idleTrains pairServer ∧
    (s.notices World.idleTrains pairServer).length = 2 ∧
    (s.noticesHeard 0).length = 2 ∧
    s.notices World.idleTrains pairServer = before ++ s.noticesHeard 1 ∧ (s.noticesHeard 1).length = 1 ∧
    ListensFrom World.idleTrains pairServer (start {} (World.start .ml8 forkStation)) twoClients 1 s₁ ∧
    before = (broadcastsOf s₁.io.handled).filter isNotice := by
  have hTaken : (run (step World.idleTrains pairServer) (start {} (World.start .ml8 forkStation)) twoClients).any
      (fun s => decide ((s.made.filter isNotice).length = 2) && decide ((s.noticesHeard 0).length = 2) &&
        decide ((s.noticesHeard 1).length = 1) && s.io.state.listens 1 && s.noticesWaiting.isEmpty) = true := by
    decide +kernel
  obtain ⟨s, hRun, hTest⟩ := (Option.any_eq_true _ _).mp hTaken
  simp only [Bool.and_eq_true, decide_eq_true_eq, List.isEmpty_iff] at hTest
  obtain ⟨⟨⟨⟨hMade, hFirst⟩, hSecond⟩, hListens⟩, hWaiting⟩ := hTest
  obtain ⟨-, hNotices, ⟨before, after, hStretch, hAfter, hFrom⟩, -⟩ := notices_inOrder hRun 1
  obtain ⟨s₁, hFrom, hBefore⟩ := hFrom (Or.inl hListens)
  obtain ⟨hIn, hHears⟩ := TransportGateway.listens_iff.mp hListens
  rw [hAfter hIn hHears, hWaiting, List.append_nil] at hStretch
  rw [hNotices] at hMade
  exact ⟨s, before, s₁, hRun, hNotices, hMade, hFirst, hStretch, hSecond, hFrom, hBefore⟩

end SessionServer

end Symulator.Server
