import Symulator.Server.CommandOrder

/-! # How events reach a client

Each tick the engine makes one frame for each event of its changes, numbered by the bus, and between them the notices
of refused commands. A client hears a stretch of the frames, so the events it hears are a stretch of those of the
world, and their numbers run on without a gap.
-/

namespace Symulator.Server

open Symulator.Library Symulator.Engine Symulator.Srk

set_option autoImplicit false

def isEventFrame (frame : List Byte) : Bool := frame.getD 2 0 = MsgType.kDomainEvent

/-- A frame the bus makes for the event. -/
def IsFrameOf (body : DomainEvent → List Byte) (event : DomainEvent) (frame : List Byte) : Prop :=
  ∃ eventId seqId timestampUs, frame = encodeFrame MsgType.kDomainEvent 0 seqId
    (buildEventPrefix event.eventType eventId timestampUs ++ body event)

theorem isEventFrame_encodeFrame (msgType flags : Byte) (seqId : BitVec 32) (payload : List Byte) :
    isEventFrame (encodeFrame msgType flags seqId payload) = decide (msgType = MsgType.kDomainEvent) := rfl

theorem IsFrameOf.isEventFrame {body : DomainEvent → List Byte} {event : DomainEvent} {frame : List Byte}
    (h : IsFrameOf body event frame) : isEventFrame frame = true := by
  obtain ⟨eventId, seqId, timestampUs, rfl⟩ := h
  rfl

/-- All frames the bus makes are frames of events. -/
theorem isEventFrame_onStateChanges {body : DomainEvent → List Byte} (bus : DispatchBus) (timestampUs : BitVec 64)
    (changes : List DeviceStateChange) :
    ∀ frame ∈ (onStateChanges body bus timestampUs changes).2, isEventFrame frame = true := by
  have hFrames := @onStateChanges_frames body bus timestampUs changes
  intro frame hFrame
  obtain ⟨i, hi, rfl⟩ := List.getElem_of_mem hFrame
  obtain ⟨eventId, seqId, hEq⟩ := hFrames.get (by rw [hFrames.length_eq]; exact hi) hi
  rw [List.get_eq_getElem] at hEq
  rw [hEq]
  rfl

/-- What others posted to the gateway are all the broadcasts it has. -/
theorem IoThread.broadcastsOf_queued {codec : GatewayCodec} {coordinator : DispatchCoordinator}
    {actions : List (ExecutorAction IoEvent)} {e : IoThread}
    (h : run (IoThread.step codec) (IoThread.start coordinator) actions = some e) :
    broadcastsOf e.queued = broadcastFrames actions := by
  have hSilent : ∀ g handler, ∀ t ∈ Executor.handlersOf (TransportGateway.exec codec g handler).2,
      t.broadcast? = none :=
    fun g handler t ht => by
      obtain ⟨b, rfl⟩ := TransportGateway.posts_pair g handler t ht
      rfl
  have hQueued := Executor.selected_run hSilent (IoThread.run_executor h)
  rw [broadcastFrames, broadcastsOf, broadcastsOf, List.filterMap_map]
  exact hQueued

namespace SessionServer

variable {φ : Type} (dynamics : TrainDynamics φ)

/-- The frames the engine has made. -/
def made (s : SessionServer φ) : List (List Byte) := broadcastsOf s.io.queued ++ s.posting

def tickEvents (t : World φ × TickInput φ) : List DomainEvent :=
  (t.1.doTickListed dynamics t.2.queue t.2.fleetCommands).2.filterMap makeEvent

/-- The ticks whose events have been made. -/
def reportedTicks (s : SessionServer φ) : List (World φ × TickInput φ) :=
  if s.phase = .report then s.ticks.dropLast else s.ticks

def reportedEvents (s : SessionServer φ) : List DomainEvent := s.reportedTicks.flatMap (tickEvents dynamics)

variable {dynamics} {codec : ServerCodec} {s s' : SessionServer φ} {coordinator : DispatchCoordinator} {w : World φ}
  {actions : List (ServerAction φ)}

/-- The events of the ticks are those reported and those of the changes that are about to be. -/
theorem Ticking.flatMap_tickEvents (h : s.Ticking dynamics w) : s.ticks.flatMap (tickEvents dynamics) =
    s.reportedEvents dynamics ++ if s.phase = .report then s.changes.filterMap makeEvent else [] := by
  unfold reportedEvents reportedTicks
  split
  · rename_i hPhase
    obtain ⟨ticks, hTicks⟩ := h.reported hPhase
    have hSoFar := h.soFar
    simp only [TickSoFar, hPhase] at hSoFar
    rw [hTicks, List.dropLast_concat, List.flatMap_append, List.flatMap_singleton,
      show s.changes = _ from congrArg Prod.snd hSoFar.2]
    rfl
  · exact (List.append_nil _).symm

/-- The numbers of the event frames are those of the bus, one frame for each event. -/
structure Reporting (dynamics : TrainDynamics φ) (codec : ServerCodec) (s : SessionServer φ) : Prop where
  numbers : (s.made.filter isEventFrame).map frameSeqId =
    (List.range (s.made.filter isEventFrame).length).map (BitVec.ofNat 32)
  txSeq : s.dispatchBus.txSeq = BitVec.ofNat 32 (s.made.filter isEventFrame).length
  frames : List.Forall₂ (IsFrameOf codec.body) (s.reportedEvents dynamics) (s.made.filter isEventFrame)

theorem Reporting.congr (h : Reporting dynamics codec s)
    (hMade : s'.made.filter isEventFrame = s.made.filter isEventFrame)
    (hBus : s'.dispatchBus = s.dispatchBus) (hReported : s'.reportedEvents dynamics = s.reportedEvents dynamics) :
    Reporting dynamics codec s' :=
  ⟨by rw [hMade, h.numbers], by rw [hBus, hMade, h.txSeq], by rw [hMade, hReported]; exact h.frames⟩

theorem Reporting.report (h : Reporting dynamics codec s) (hTicking : s.Ticking dynamics w) (hPosting : s.posting = [])
    (hPhase : s.phase = .report) (timestampUs : BitVec 64) : Reporting dynamics codec (s.report codec timestampUs) := by
  obtain ⟨hSeq, hNumbers⟩ := @onStateChanges_spec codec.body s.dispatchBus timestampUs s.changes
  have hFrames := @onStateChanges_frames codec.body s.dispatchBus timestampUs s.changes
  have hMade : (s.report codec timestampUs).made.filter isEventFrame = s.made.filter isEventFrame ++
      (onStateChanges codec.body s.dispatchBus timestampUs s.changes).2 := by
    have hAll := List.filter_eq_self.mpr (@isEventFrame_onStateChanges codec.body s.dispatchBus timestampUs s.changes)
    simp only [made, SessionServer.report, hPosting, List.append_nil, List.filter_append, hAll]
  have hReported : (s.report codec timestampUs).reportedEvents dynamics =
      s.reportedEvents dynamics ++ s.changes.filterMap makeEvent := by
    have hEvents := hTicking.flatMap_tickEvents
    rw [if_pos hPhase] at hEvents
    exact hEvents
  have hLength := hFrames.length_eq
  refine ⟨?_, ?_, ?_⟩
  · rw [hMade, List.map_append, h.numbers, hNumbers, List.length_append, ← hLength, List.range_add, List.map_append,
      List.map_map, h.txSeq]
    exact congrArg _ (List.map_congr_left fun i _ => (BitVec.ofNat_add _ _).symm)
  · rw [hMade, List.length_append, ← hLength, BitVec.ofNat_add, ← h.txSeq]
    exact hSeq
  · rw [hMade, hReported]
    refine List.rel_append h.frames (hFrames.imp fun event frame hFrame => ?_)
    obtain ⟨eventId, seqId, rfl⟩ := hFrame
    exact ⟨eventId, seqId, timestampUs, rfl⟩

theorem broadcastsOf_io {e e' : IoThread} {a : ExecutorAction IoEvent}
    (hRun : ∃ ioActions, run (IoThread.step codec.gateway) (IoThread.start coordinator) ioActions = some e)
    (hOther : isBroadcast a = false) (hStep : e.step codec.gateway a = some e') :
    broadcastsOf e'.queued = broadcastsOf e.queued := by
  obtain ⟨ioActions, hRun⟩ := hRun
  have hLonger : run (IoThread.step codec.gateway) (IoThread.start coordinator) (ioActions ++ [a]) = some e' :=
    run_append.mpr ⟨e, hRun, run_cons.mpr ⟨e', hStep, rfl⟩⟩
  have hNone : broadcastFrames [a] = [] := by
    cases a with
    | enter event =>
      cases event with
      | broadcast => cases hOther
      | accept | read | readError => rfl
    | work | fail => rfl
  rw [IoThread.broadcastsOf_queued hLonger, IoThread.broadcastsOf_queued hRun]
  have hAppend : broadcastFrames (ioActions ++ [a]) = broadcastFrames ioActions ++ broadcastFrames [a] := by
    simp [broadcastFrames, broadcastsOf, Executor.entered, List.filterMap_append]
  rw [hAppend, hNone, List.append_nil]

theorem broadcastsOf_post {frame : List Byte} {io : IoThread}
    (hStep : s.io.step codec.gateway (.enter (.broadcast frame)) = some io) :
    broadcastsOf io.queued = broadcastsOf s.io.queued ++ [frame] := by
  rw [IoThread.step_enter hStep, broadcastsOf, List.filterMap_append]
  rfl

/-- A command that is taken makes a notice if it is refused. -/
theorem made_takeCommand {processed : Nat} {next : Nat × EnvelopedCommand}
    {cmdQueue : PriorityCommandQueue (Nat × EnvelopedCommand)} (hPosting : s.posting = []) :
    ({ s with cmdQueue }.takeCommand dynamics codec processed next).made = s.made ++
      ((s.world.control.checkCommand s.world.state next.2.payload).map fun v =>
        (makeNakFrame codec.gateway.session.build next.2.cmdMeta.seqId v).encode).toList := by
  rw [made, made, hPosting, List.append_nil]
  rfl

/-- The engine makes frames when it reports and when it takes a command, and what it has posted stays posted. -/
theorem made_moves
    (hRun : ∃ ioActions, run (IoThread.step codec.gateway) (IoThread.start coordinator) ioActions = some s.io)
    (hMoves : Moves dynamics codec s s') :
    (∃ timestampUs, s.posting = [] ∧ s.phase = .report ∧ s' = s.report codec timestampUs) ∨
    (∃ processed next cmdQueue, s.posting = [] ∧ s.phase = .commands processed ∧
      s' = { s with cmdQueue }.takeCommand dynamics codec processed next) ∨
    s'.made = s.made ∧ s'.dispatchBus = s.dispatchBus ∧ s'.reportedTicks = s.reportedTicks ∧ s'.taken = s.taken := by
  cases hMoves with
  | io hOther hFinds hStep =>
    refine Or.inr (Or.inr ⟨?_, rfl, rfl, rfl⟩)
    rw [made, queueNew, broadcastsOf_io hRun hOther hStep]
    rfl
  | terminal cmd => exact Or.inr (Or.inr ⟨rfl, rfl, rfl, rfl⟩)
  | post hPosting hStep =>
    refine Or.inr (Or.inr ⟨?_, rfl, rfl, rfl⟩)
    rw [made, broadcastsOf_post hStep, made, hPosting, List.append_assoc]
    rfl
  | @command processed next cmdQueue hPosting hPhase hMore hPop =>
    exact Or.inr (Or.inl ⟨processed, next, cmdQueue, hPosting, hPhase, rfl⟩)
  | onTick hPosting hPhase hDrained =>
    refine Or.inr (Or.inr ⟨rfl, rfl, ?_, rfl⟩)
    simp [reportedTicks, act_eq, hPhase]
  | fleetCommand hPosting hPhase hQueue =>
    refine Or.inr (Or.inr ⟨rfl, rfl, ?_, rfl⟩)
    simp [reportedTicks, takeFleetCommand, act_eq, hPhase]
  | endTick hPosting hPhase hQueue =>
    rw [endTick_eq]
    refine Or.inr (Or.inr ⟨rfl, rfl, ?_, rfl⟩)
    simp [reportedTicks, hPhase]
  | report timestampUs hPosting hPhase => exact Or.inl ⟨timestampUs, hPosting, hPhase, rfl⟩

theorem isEventFrame_nak (build : ServerMessage → List Byte) (seqId : BitVec 32) (v : InterlockingViolation) :
    isEventFrame (makeNakFrame build seqId v).encode = false := by
  rw [DecodedFrame.encode, isEventFrame_encodeFrame]
  exact decide_eq_false (show ¬ MsgType.kCommandNak = MsgType.kDomainEvent by decide)

theorem Reporting.moves (h : Reporting dynamics codec s) (hTicking : s.Ticking dynamics w)
    (hRun : ∃ ioActions, run (IoThread.step codec.gateway) (IoThread.start coordinator) ioActions = some s.io)
    (hMoves : Moves dynamics codec s s') : Reporting dynamics codec s' := by
  rcases made_moves hRun hMoves with ⟨timestampUs, hPosting, hPhase, rfl⟩ |
    ⟨processed, next, cmdQueue, hPosting, hPhase, rfl⟩ |
    ⟨hMade, hBus, hTicks, -⟩
  · exact h.report hTicking hPosting hPhase timestampUs
  · refine h.congr ?_ rfl ?_
    · rw [made_takeCommand hPosting, List.filter_append]
      refine List.append_right_eq_self.mpr (List.filter_eq_nil_iff.mpr fun nak hNak => ?_)
      obtain ⟨v, -, rfl⟩ := Option.map_eq_some_iff.mp (Option.mem_toList.mp hNak)
      rw [isEventFrame_nak]
      decide
    · simp [reportedEvents, reportedTicks, takeCommand, act_eq, hPhase]
  · exact h.congr (by rw [hMade]) hBus (by rw [reportedEvents, hTicks, reportedEvents])

theorem reporting_run (h : run (step dynamics codec) (start coordinator w) actions = some s) :
    Reporting dynamics codec s := by
  induction actions using List.reverseRecOn generalizing s with
  | nil =>
    cases h
    exact ⟨rfl, rfl, List.Forall₂.nil⟩
  | append_singleton actions a ih =>
    obtain ⟨t, hBefore, hLast⟩ := run_append.mp h
    obtain ⟨s', hStep, hDone⟩ := run_cons.mp hLast
    cases hDone
    exact (ih hBefore).moves (ticking_run hBefore) (exists_ioRun hBefore) (step_moves hStep)

/-- The event frames on their way to the gateway's sockets. -/
def eventsWaiting (s : SessionServer φ) : List (List Byte) :=
  (broadcastsOf (Executor.handlersOf s.io.waiting) ++ s.posting).filter isEventFrame

/-- The event frames a session has been sent. -/
def eventsHeard (s : SessionServer φ) (session : Nat) : List (List Byte) :=
  ((s.io.sent session).filterMap Outgoing.shared?).filter isEventFrame

/-- The frames handled are the first of those made. -/
theorem made_eq
    (hIo : ∃ ioActions, run (IoThread.step codec.gateway) (IoThread.start coordinator) ioActions = some s.io) :
    s.made = broadcastsOf s.io.handled ++ (broadcastsOf (Executor.handlersOf s.io.waiting) ++ s.posting) := by
  obtain ⟨ioActions, hIo⟩ := hIo
  have hQueued := (Executor.serial_run (IoThread.run_executor hIo)).queued
  rw [made, ← hQueued, ← List.append_assoc, broadcastsOf, List.filterMap_append]
  rfl

/-- With the step that ends in `s₁` the session has come to listen: it is registered and has become active. -/
def ListensFrom (dynamics : TrainDynamics φ) (codec : ServerCodec) (s₀ : SessionServer φ)
    (actions : List (ServerAction φ)) (session : Nat) (s₁ : SessionServer φ) : Prop :=
  Enters (step dynamics codec) (fun s => s.io.state.listens session = true) s₀ actions s₁

theorem exists_listensFrom (h : run (step dynamics codec) (start coordinator w) actions = some s) {session : Nat}
    (hHeard : s.io.state.listens session = true ∨ (s.io.sent session).filterMap Outgoing.shared? ≠ []) :
    ∃ s₁, ListensFrom dynamics codec (start coordinator w) actions session s₁ := by
  refine exists_enters (Q := fun s : SessionServer φ =>
    s.io.state.listens session = true ∨ (s.io.sent session).filterMap Outgoing.shared? ≠ []) ?_
    (fun _ => Or.inl) ?_ h hHeard
  · rintro (hListens | hSent)
    · cases hListens
    · exact hSent rfl
  · intro before u a v hBefore hStep hv
    obtain ⟨ioActions, hIo⟩ := exists_ioRun hBefore
    rcases (step_moves hStep).io_cases with hSame | ⟨b, hIoStep⟩
    · exact Or.inl (hSame ▸ hv)
    · by_cases hNot : u.io.state.listens session = true
      · exact Or.inl (Or.inl hNot)
      · rw [(IoThread.silent_step hIo hIoStep hNot).1] at hv
        exact hv.symm.imp_left Or.inr

/-- From where a session has come to listen, it is sent the broadcasts handled from then on and no others. -/
theorem ListensFrom.heard (h : run (step dynamics codec) (start coordinator w) actions = some s) {session : Nat}
    {s₁ : SessionServer φ} (hFrom : ListensFrom dynamics codec (start coordinator w) actions session s₁) :
    ∃ since, s.io.handled = s₁.io.handled ++ since ∧
      (s.io.sent session).filterMap Outgoing.shared? <+: broadcastsOf since ∧
      (session ∈ s.io.state.sessions → (s.io.sent session).filterMap Outgoing.shared? = broadcastsOf since) := by
  obtain ⟨before, after, -, hBefore, hAfter⟩ := Enters.run hFrom h
  obtain ⟨first, a, -, u, -, hFirst, hStep, hNot, hListens⟩ := hFrom
  obtain ⟨ioBefore, hIoBefore⟩ := exists_ioRun hBefore
  obtain ⟨ioAfter, hIoAfter⟩ := ioRun_of_run hAfter
  obtain ⟨ioFirst, hIoFirst⟩ := exists_ioRun hFirst
  obtain ⟨since, heard, hHandled, hPrefix, hSent, hAll⟩ := IoThread.heard_since hIoBefore hIoAfter hListens
  have hNone : (s₁.io.sent session).filterMap Outgoing.shared? = [] := by
    rcases (step_moves hStep).io_cases with hSame | ⟨b, hIoStep⟩
    · have hNow : s₁.io.state.listens session = true := hListens
      rw [hSame] at hNow
      exact absurd hNow hNot
    · exact (IoThread.silent_step hIoFirst hIoStep hNot).2 hListens
  rw [hNone, List.nil_append] at hSent
  rw [hSent]
  exact ⟨since, hHandled, hPrefix, fun hIn => (hAll hIn).2⟩

/-- Of the frames of a kind a session has heard a stretch, which begins behind those handled when it came to listen; one
that listens has only those to come that wait. -/
theorem exists_stretch (h : run (step dynamics codec) (start coordinator w) actions = some s) (session : Nat)
    (kind : List Byte → Bool) :
    ∃ before after,
      s.made.filter kind = before ++ ((s.io.sent session).filterMap Outgoing.shared?).filter kind ++ after ∧
      (session ∈ s.io.state.sessions → s.io.state.hears session = true →
        after = (broadcastsOf (Executor.handlersOf s.io.waiting) ++ s.posting).filter kind) ∧
      (s.io.state.listens session = true ∨ ((s.io.sent session).filterMap Outgoing.shared?).filter kind ≠ [] →
        ∃ s₁, ListensFrom dynamics codec (start coordinator w) actions session s₁ ∧
          before = (broadcastsOf s₁.io.handled).filter kind) := by
  by_cases hJoined : ∃ s₁, ListensFrom dynamics codec (start coordinator w) actions session s₁
  · obtain ⟨s₁, hFrom⟩ := hJoined
    obtain ⟨since, hHandled, ⟨missed, hMissed⟩, hAll⟩ := hFrom.heard h
    have hBroadcasts : broadcastsOf s.io.handled = broadcastsOf s₁.io.handled ++ broadcastsOf since := by
      rw [hHandled]
      exact List.filterMap_append
    refine ⟨(broadcastsOf s₁.io.handled).filter kind,
      missed.filter kind ++ (broadcastsOf (Executor.handlersOf s.io.waiting) ++ s.posting).filter kind, ?_,
      fun hIn _ => ?_, fun _ => ⟨s₁, hFrom, rfl⟩⟩
    · rw [made_eq (exists_ioRun h), hBroadcasts, ← hMissed]
      simp only [List.filter_append, List.append_assoc]
    · rw [hAll hIn, List.append_right_eq_self] at hMissed
      rw [hMissed]
      rfl
  · have hSilent : ¬ (s.io.state.listens session = true ∨ (s.io.sent session).filterMap Outgoing.shared? ≠ []) :=
      fun hHeard => hJoined (exists_listensFrom h hHeard)
    obtain ⟨hNot, hNone⟩ := not_or.mp hSilent
    rw [not_not.mp hNone]
    refine ⟨[], s.made.filter kind, rfl, fun hIn hHears => ?_, fun hHeard => ?_⟩
    · exact absurd (TransportGateway.listens_iff.mpr ⟨hIn, hHears⟩) hNot
    · exact absurd (hHeard.resolve_right fun h => h rfl) hNot

theorem map_stretch {α β : Type} {f : α → β} {g : Nat → β} {before heard after : List α}
    (h : (before ++ heard ++ after).map f = (List.range (before ++ heard ++ after).length).map g) :
    heard.map f = (List.range heard.length).map fun i => g (before.length + i) := by
  have hRange : List.range (before ++ heard ++ after).length = List.range before.length ++
      (List.range heard.length).map (before.length + ·) ++
      (List.range after.length).map ((before ++ heard).length + ·) := by
    rw [List.length_append, List.range_add, List.length_append, List.range_add]
  rw [hRange, List.map_append, List.map_append, List.map_append, List.map_append] at h
  have hFront := List.append_inj_left h (by simp)
  have hMiddle := List.append_inj_right hFront (by simp)
  rw [hMiddle, List.map_map]
  rfl

/-- The events a session hears are a stretch of the events of the world, one frame for each, and their numbers run on
from where the stretch begins: behind the events that had been handled when the session came to listen. Of all events
reported, a session that listens has only those to come that wait. -/
theorem events_inOrder (h : run (step dynamics codec) (start coordinator w) actions = some s) (session : Nat) :
    ∃ n, (s.eventsHeard session).map frameSeqId =
        ((List.range (s.eventsHeard session).length).map fun i => BitVec.ofNat 32 (n + i)) ∧
      List.Forall₂ (IsFrameOf codec.body)
        (((s.reportedEvents dynamics).drop n).take (s.eventsHeard session).length) (s.eventsHeard session) ∧
      (session ∈ s.io.state.sessions → s.io.state.hears session = true →
        (s.reportedEvents dynamics).length = n + (s.eventsHeard session).length + s.eventsWaiting.length) ∧
      (s.io.state.listens session = true ∨ s.eventsHeard session ≠ [] →
        ∃ s₁, ListensFrom dynamics codec (start coordinator w) actions session s₁ ∧
          n = ((broadcastsOf s₁.io.handled).filter isEventFrame).length) := by
  obtain ⟨before, after, hStretch, hListens, hFrom⟩ := exists_stretch h session isEventFrame
  change s.made.filter isEventFrame = before ++ s.eventsHeard session ++ after at hStretch
  have hReporting := reporting_run h
  have hNumbers := hReporting.numbers
  have hFrames := hReporting.frames
  rw [hStretch] at hNumbers hFrames
  refine ⟨before.length, map_stretch hNumbers, ?_, fun hIn hHears => ?_, fun hHeard => ?_⟩
  · rw [List.append_assoc] at hFrames
    have hRest := List.forall₂_take (s.eventsHeard session).length (List.forall₂_drop_append _ _ _ hFrames)
    rwa [List.take_left] at hRest
  · rw [hFrames.length_eq, List.length_append, List.length_append, hListens hIn hHears]
    rfl
  · obtain ⟨s₁, hFrom, hBefore⟩ := hFrom hHeard
    exact ⟨s₁, hFrom, congrArg List.length hBefore⟩

/-- Player B joins when one event has been reported: A hears both, B the second. -/
theorem events_inOrder_joined : ∃ s n s₁, run (step World.idleTrains pairServer)
      (start {} (World.start .ml8 forkStation)) twoClients = some s ∧
    (s.eventsHeard 0).length = 2 ∧ (s.eventsHeard 1).length = 1 ∧
    (s.eventsHeard 1).map frameSeqId = [BitVec.ofNat 32 n] ∧
    ListensFrom World.idleTrains pairServer (start {} (World.start .ml8 forkStation)) twoClients 1 s₁ ∧
    n = ((broadcastsOf s₁.io.handled).filter isEventFrame).length ∧
    (s.reportedEvents World.idleTrains).length = n + 1 := by
  have hTaken : (run (step World.idleTrains pairServer) (start {} (World.start .ml8 forkStation)) twoClients).any
      (fun s => decide ((s.eventsHeard 0).length = 2) && decide ((s.eventsHeard 1).length = 1) &&
        s.io.state.listens 1 && s.eventsWaiting.isEmpty) = true := by decide +kernel
  obtain ⟨s, hRun, hTest⟩ := (Option.any_eq_true _ _).mp hTaken
  simp only [Bool.and_eq_true, decide_eq_true_eq, List.isEmpty_iff] at hTest
  obtain ⟨⟨⟨hFirst, hSecond⟩, hListens⟩, hWaiting⟩ := hTest
  obtain ⟨n, hNumbers, -, hAll, hFrom⟩ := events_inOrder hRun 1
  obtain ⟨s₁, hFrom, hCount⟩ := hFrom (Or.inl hListens)
  obtain ⟨hIn, hHears⟩ := TransportGateway.listens_iff.mp hListens
  have hTotal := hAll hIn hHears
  rw [hWaiting, hSecond] at hTotal
  rw [hSecond] at hNumbers
  exact ⟨s, n, s₁, hRun, hFirst, hSecond, hNumbers, hFrom, hCount, hTotal⟩

end SessionServer

end Symulator.Server
