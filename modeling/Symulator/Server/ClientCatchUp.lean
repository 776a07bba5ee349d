import Symulator.Server.ChannelSilence
import Symulator.Server.ClientReader
import Symulator.Server.EventDelivery

/-! # A client that joins late

A client that joins a running server takes a snapshot and hears what is broadcast from then on. Events may be on their
way when the snapshot is taken, of ticks that it shows already; they are heard again and do no harm. Wherever clients
are told of every change what it does, the events that are still to come bring any such client to the state of the
server.
-/

namespace Symulator.Server

open Symulator.Library Symulator.Engine Symulator.Srk

set_option autoImplicit false

/-! ## The frames of one session -/

section Sends

variable {γ : Type} {codec : SessionCodec γ} {around : Surroundings} {s : ClientSession} {frame : DecodedFrame}

/-- A frame that tells a client nothing about the world. -/
def isPlainFrame (frame : DecodedFrame) : Prop :=
  frame.msgType ≠ MsgType.kSnapshotChunk ∧ frame.msgType ≠ MsgType.kDomainEvent

/-- The chunks of the published snapshot, sent by an active session. -/
def SendsSnapshot (around : Surroundings) (state : SessionState) (frames : List DecodedFrame) : Prop :=
  state = .active ∧ ∃ txSeq serialised, around.snapshot = some serialised ∧
    frames = snapshotFrames txSeq (chunk serialised defaultChunkSize)

theorem plain_nil : ∀ sent ∈ sendsOf ([] : List (SessionEffect γ)), isPlainFrame sent := List.forall_mem_nil _

theorem plain_sendFrame {msgType : Byte} (h : msgType ≠ MsgType.kSnapshotChunk ∧ msgType ≠ MsgType.kDomainEvent)
    (flags : Byte) (payload : List Byte) :
    ∀ sent ∈ sendsOf (ClientSession.sendFrame (γ := γ) s msgType flags payload).2, isPlainFrame sent := by
  intro sent hSent
  rw [List.mem_singleton.mp hSent]
  exact h

/-- The session answers with plain frames, or with the published snapshot. -/
theorem handleFrame_sends : (∀ sent ∈ sendsOf (ClientSession.handleFrame codec around s frame).2, isPlainFrame sent) ∨
    SendsSnapshot around s.info.state (sendsOf (ClientSession.handleFrame codec around s frame).2) := by
  unfold ClientSession.handleFrame
  split
  · left
    unfold ClientSession.handleHandshake
    split
    · exact plain_nil
    · split
      · exact plain_nil
      · split
        · exact plain_sendFrame (by decide) _ _
        · exact plain_nil
  split
  · split
    · rename_i hActive
      unfold ClientSession.handleSnapshotRequest
      split
      · exact Or.inl plain_nil
      · rename_i serialised hSnapshot
        right
        refine ⟨of_decide_eq_true hActive, s.txSeq, serialised, hSnapshot, ?_⟩
        simp [sendsOf, List.filterMap_map]
    · exact Or.inl plain_nil
  left
  split
  · split
    · unfold ClientSession.handleCommand
      split
      · exact plain_nil
      · split
        · exact plain_sendFrame (by decide) _ _
        · split
          · exact @plain_sendFrame γ s MsgType.kCommandAck (by decide) 0 (codec.build (.commandAck frame.seqId))
          · exact plain_nil
    · exact plain_nil
  split
  · exact plain_sendFrame (by decide) _ _
  split
  · split
    · unfold ClientSession.handleDispatchChannel
      split <;> exact @plain_nil γ
    · exact plain_nil
  · exact plain_nil

end Sends

namespace Connection

variable {codec : SessionCodec Command} {around : Nat → Surroundings}

/-- A frame handled was handled in the surroundings of its place. -/
def HandledIn (codec : SessionCodec Command) (around : Nat → Surroundings) (i : Nat)
    (h : HandledFrame Command) : Prop :=
  ∃ s : ClientSession, h.before = s.info.state ∧ h.effects = (s.handleFrame codec (around i) h.frame).2

theorem handledIn_receive (c : Connection Command) (bytes : List Byte) {i : Nat} (hNew : c.handled.length ≤ i)
    {h : HandledFrame Command} (hi : (receive codec around c bytes).handled[i]? = some h) :
    HandledIn codec around i h := by
  have hAll : ∀ (frames : List DecodedFrame) (d : Connection Command), c.handled.length ≤ d.handled.length →
      (∀ j g, c.handled.length ≤ j → d.handled[j]? = some g → HandledIn codec around j g) →
      ∀ j g, c.handled.length ≤ j → (handleAll codec around d frames).handled[j]? = some g →
        HandledIn codec around j g := by
    intro frames
    induction frames with
    | nil => exact fun d _ hd => hd
    | cons frame frames ih =>
      intro d hLonger hd
      refine ih (handle codec around d frame) ?_ fun j g hj hg => ?_
      · simp only [handle, List.length_append, List.length_singleton]
        omega
      · have hg' := hg
        simp only [handle] at hg'
        rw [List.getElem?_append] at hg'
        split at hg'
        · exact hd j g hj hg'
        · rename_i hLast
          have hHere := List.getElem?_eq_some_iff.mp hg'
          obtain ⟨hLt, hEq⟩ := hHere
          have hPlace : j = d.handled.length := by
            simp only [List.length_singleton] at hLt
            omega
          subst hPlace
          rw [← hEq]
          exact ⟨d.session, by simp⟩
  have hOld : ∀ j g, c.handled.length ≤ j → c.handled[j]? = some g → HandledIn codec around j g := by
    intro j g hj hg
    rw [List.getElem?_eq_none hj] at hg
    cases hg
  unfold receive at hi
  split at hi
  · unfold onRead processBuffer at hi
    rw [processFrames_eq] at hi
    dsimp only at hi
    unfold closeIfBroken at hi
    split at hi
    · exact hAll _ { c with readBuf := c.readBuf ++ bytes } le_rfl hOld i h hNew hi
    · exact hAll _ { c with readBuf := c.readBuf ++ bytes } le_rfl hOld i h hNew hi
  · exact hOld i h hNew hi

/-- A session that is open and not active after a read was never active in the course of it. -/
theorem inactive_receive (c : Connection Command) (bytes : List Byte)
    (hOpen : (receive codec around c bytes).session.isOpen = true)
    (hInactive : (receive codec around c bytes).session.isActive = false) :
    ∀ h ∈ (receive codec around c bytes).handled.drop c.handled.length, h.before ≠ .active := by
  refine (@receive_invariant _ codec around (fun s handled => c.handled.length ≤ handled.length ∧
    (s.isOpen = true → s.isActive = false → ∀ h ∈ handled.drop c.handled.length, h.before ≠ .active)) ?_ ?_
    c ⟨le_rfl, by simp⟩ bytes).2 hOpen hInactive
  · rintro s handled around frame s' effects ⟨hLonger, h⟩ hReact
    refine ⟨by simp only [List.length_append]; omega, fun hOpen hInactive g hg => ?_⟩
    have hBefore : s.isOpen = true ∧ s.isActive = false := by
      cases hReact with
      | refuse => simp [ClientSession.close] at hOpen
      | join => simp [ClientSession.isActive] at hInactive
      | answer | snapshot | command | dispatch | ignore => exact ⟨hOpen, hInactive⟩
    rw [List.drop_append_of_le_length hLonger] at hg
    rcases List.mem_append.mp hg with hg | hg
    · exact h hBefore.1 hBefore.2 g hg
    · rw [List.mem_singleton.mp hg]
      exact of_decide_eq_false hBefore.2
  · rintro s handled ⟨hLonger, -⟩
    exact ⟨hLonger, fun hClosed => by simp [ClientSession.close] at hClosed⟩

end Connection

namespace ClientReader

variable {client : ClientCodec} {r : ClientReader}

theorem Tidy.plain (h : r.Tidy) {frames : List DecodedFrame} (hFrames : ∀ frame ∈ frames, isPlainFrame frame) :
    (r.readAll client (frames.map .own)).Tidy ∧
      ∀ v, (r.readAll client (frames.map .own)).view = some v → r.view = some v := by
  induction frames generalizing r with
  | nil => exact ⟨h, fun v hv => hv⟩
  | cons frame frames ih =>
    obtain ⟨hChunk, hEvent⟩ := hFrames frame List.mem_cons_self
    obtain ⟨hTidy, hView⟩ := @Tidy.other client r h (.own frame) hChunk hEvent
    obtain ⟨hTidy', hView'⟩ := ih hTidy fun other hOther => hFrames other (List.mem_cons_of_mem _ hOther)
    exact ⟨hTidy', fun v hv => hView v (hView' v hv)⟩

/-- What the client makes of the answers to the frames handled: it keeps its view, or takes that of the snapshot. -/
theorem Tidy.answers (h : r.Tidy) {target : ClientView} {handled : List (HandledFrame Command)}
    (hHandled : ∀ g ∈ handled, (∀ sent ∈ sendsOf g.effects, isPlainFrame sent) ∨
      g.before = .active ∧ ∃ txSeq serialised snap, sendsOf g.effects =
        snapshotFrames txSeq (chunk serialised defaultChunkSize) ∧ client.readSnapshot serialised = some snap ∧
          ClientView.ofSnapshot snap = target) :
    (r.readAll client ((sendsOf (handled.flatMap HandledFrame.effects)).map .own)).Tidy ∧
      ∀ v, (r.readAll client ((sendsOf (handled.flatMap HandledFrame.effects)).map .own)).view = some v →
        r.view = some v ∨ v = target ∧ ∃ g ∈ handled, g.before = .active := by
  induction handled generalizing r with
  | nil => exact ⟨h, fun v hv => Or.inl hv⟩
  | cons g handled ih =>
    have hFirst : (r.readAll client ((sendsOf g.effects).map .own)).Tidy ∧
        ∀ v, (r.readAll client ((sendsOf g.effects).map .own)).view = some v →
          r.view = some v ∨ v = target ∧ g.before = .active := by
      rcases hHandled g List.mem_cons_self with hPlain | ⟨hActive, txSeq, serialised, snap, hSends, hRead, hSnap⟩
      · obtain ⟨hTidy, hView⟩ := @Tidy.plain client r h _ hPlain
        exact ⟨hTidy, fun v hv => Or.inl (hView v hv)⟩
      · obtain ⟨hTidy, hView⟩ := @Tidy.snapshot client r h _ _ txSeq hRead
        rw [hSends]
        exact ⟨hTidy, fun v hv => Or.inr ⟨(hView v hv).trans hSnap, hActive⟩⟩
    obtain ⟨hTidy, hView⟩ := @ih _ hFirst.1 fun other hOther => hHandled other (List.mem_cons_of_mem _ hOther)
    rw [List.flatMap_cons, sendsOf_append, List.map_append, readAll_append]
    refine ⟨hTidy, fun v hv => ?_⟩
    rcases hView v hv with hKept | ⟨hNew, other, hOther, hActive⟩
    · exact (hFirst.2 v hKept).imp_right fun ⟨hNew, hActive⟩ => ⟨hNew, g, List.mem_cons_self, hActive⟩
    · exact Or.inr ⟨hNew, other, List.mem_cons_of_mem _ hOther, hActive⟩

end ClientReader

namespace SessionServer

variable {φ : Type} (dynamics : TrainDynamics φ) (client : ClientCodec) (codec : ServerCodec)

/-! ## What is to come -/

/-- The events of all ticks that have ended. -/
def allEvents (s : SessionServer φ) : List DomainEvent := s.ticks.flatMap (tickEvents dynamics)

/-- The events that no session has been sent yet. -/
def eventsToCome (s : SessionServer φ) : List DomainEvent :=
  (s.allEvents dynamics).drop ((broadcastsOf s.io.handled).filter isEventFrame).length

/-- The client can read what the server writes about these ticks. -/
structure Understands (ticks : List (World φ × TickInput φ)) : Prop where
  events : ∀ t ∈ ticks, ∀ event ∈ tickEvents dynamics t, ∀ eventId timestampUs,
    let payload := buildEventPrefix event.eventType eventId timestampUs ++ codec.body event
    payload.length < 2 ^ 32 ∧ client.readEvent payload = some event
  snapshots : ∀ t ∈ ticks, let w := t.1.doTick dynamics t.2.queue t.2.fleetCommands
    let snap := serialize (publish dynamics w.state w.fleet)
    client.readSnapshot (codec.finish snap) = some snap

/-- What a client has made of all that its session was sent. -/
def readerOf (s : SessionServer φ) (session : Nat) : ClientReader :=
  ({} : ClientReader).readAll client (s.io.sent session)

/-- The reader of a session is in order, has no view before the session listens, and is brought to the state of the
server by the events to come. -/
structure Follows (w : World φ) (s : SessionServer φ) (session : Nat) : Prop where
  tidy : (s.readerOf client session).Tidy
  unheard : s.io.state.hears session = false → (s.readerOf client session).view = none
  view : ∀ v, (s.readerOf client session).view = some v →
    (s.eventsToCome dynamics).foldl ClientView.observe v =
      (s.allEvents dynamics).foldl ClientView.observe (ClientView.ofState w.state)

variable {dynamics client codec} {s s' : SessionServer φ} {coordinator : DispatchCoordinator} {w : World φ}
  {actions : List (ServerAction φ)}

/-- Where clients are told of every change what it does, the events of the ticks lead from the first view to the
last. -/
theorem foldl_tickEvents {w' : World φ} {ticks : List (World φ × TickInput φ)} (h : Chained dynamics w ticks w')
    (hTold : ∀ t ∈ ticks, TickTold dynamics t.1 t.2) :
    (ticks.flatMap (tickEvents dynamics)).foldl ClientView.observe (ClientView.ofState w.state) =
      ClientView.ofState w'.state := by
  induction ticks generalizing w with
  | nil =>
    cases h
    rfl
  | cons t ticks ih =>
    obtain ⟨rfl, hRest⟩ := h
    have hStep : (tickEvents dynamics t).foldl ClientView.observe (ClientView.ofState t.1.state) =
        ClientView.ofState (t.1.doTick dynamics t.2.queue t.2.fleetCommands).state := by
      rw [← World.doTickListed_fst]
      exact mirrorStep_told (hTold t List.mem_cons_self) rfl rfl
    rw [List.flatMap_cons, List.foldl_append, hStep]
    exact ih hRest fun other hOther => hTold other (List.mem_cons_of_mem _ hOther)

theorem allEvents_eq (hTicking : s.Ticking dynamics w) : s.allEvents dynamics = s.reportedEvents dynamics ++
    if s.phase = .report then s.changes.filterMap makeEvent else [] := hTicking.flatMap_tickEvents

/-- No more events have been handled than there were. -/
theorem handled_le_allEvents (h : run (step dynamics codec) (start coordinator w) actions = some s) :
    ((broadcastsOf s.io.handled).filter isEventFrame).length ≤ (s.allEvents dynamics).length := by
  have hLength := (reporting_run h).frames.length_eq
  rw [made_eq (exists_ioRun h), List.filter_append, List.length_append] at hLength
  rw [allEvents_eq (ticking_run h), List.length_append]
  omega

theorem eventsToCome_suffix (s : SessionServer φ) : s.eventsToCome dynamics <:+ s.allEvents dynamics :=
  List.drop_suffix _ _

/-- What was sent to a session depends on the handlers that have run. -/
theorem sent_of_handled {io : IoThread}
    (h : ∃ ioActions, run (IoThread.step codec.gateway) (IoThread.start coordinator) ioActions = some s.io)
    (h' : ∃ ioActions, run (IoThread.step codec.gateway) (IoThread.start coordinator) ioActions = some io)
    (hHandled : io.handled = s.io.handled) (session : Nat) : io.sent session = s.io.sent session := by
  obtain ⟨ioActions, hRun⟩ := h
  obtain ⟨ioActions', hRun'⟩ := h'
  rw [(IoThread.delivers hRun).1, (IoThread.delivers hRun').1, hHandled]

/-- The engine may end a tick; nothing that a session has been sent changes. -/
theorem Follows.later {session : Nat} (h : Follows dynamics client w s session)
    (hLe : ((broadcastsOf s.io.handled).filter isEventFrame).length ≤ (s.allEvents dynamics).length)
    (hState : s'.io.state = s.io.state) (hHandled : s'.io.handled = s.io.handled)
    (hSent : s'.io.sent session = s.io.sent session) {more : List (World φ × TickInput φ)}
    (hTicks : s'.ticks = s.ticks ++ more) :
    Follows dynamics client w s' session := by
  have hReader : s'.readerOf client session = s.readerOf client session := by rw [readerOf, hSent, readerOf]
  have hEvents : s'.allEvents dynamics = s.allEvents dynamics ++ more.flatMap (tickEvents dynamics) := by
    rw [allEvents, hTicks, List.flatMap_append, allEvents]
  refine ⟨hReader ▸ h.tidy, fun hInactive => ?_, fun v hv => ?_⟩
  · rw [hReader]
    exact h.unheard (hState ▸ hInactive)
  · rw [hReader] at hv
    rw [eventsToCome, hHandled, hEvents, List.drop_append_of_le_length hLe, List.foldl_append, List.foldl_append]
    exact congrArg (fun u => (more.flatMap (tickEvents dynamics)).foldl ClientView.observe u) (h.view v hv)

/-! ## A handler runs -/

/-- Besides events the engine makes notices only. -/
theorem made_kinds (h : run (step dynamics codec) (start coordinator w) actions = some s) : ∀ frame ∈ s.made,
    isEventFrame frame = true ∨ ∃ seqId v, frame = (makeNakFrame codec.gateway.session.build seqId v).encode := by
  induction actions using List.reverseRecOn generalizing s with
  | nil =>
    cases h
    exact List.forall_mem_nil _
  | append_singleton actions a ih =>
    obtain ⟨t, hBefore, hLast⟩ := run_append.mp h
    obtain ⟨s', hStep, hDone⟩ := run_cons.mp hLast
    cases hDone
    intro frame hFrame
    rcases made_moves (exists_ioRun hBefore) (step_moves hStep) with
      ⟨timestampUs, hPosting, -, rfl⟩ | ⟨processed, next, cmdQueue, hPosting, -, rfl⟩ | ⟨hMade, -⟩
    · have hMade : (t.report codec timestampUs).made =
          t.made ++ (onStateChanges codec.body t.dispatchBus timestampUs t.changes).2 := by
        simp only [made, SessionServer.report, hPosting, List.append_nil]
      rw [hMade] at hFrame
      rcases List.mem_append.mp hFrame with hOld | hNew
      · exact ih hBefore frame hOld
      · exact Or.inl (isEventFrame_onStateChanges _ _ _ frame hNew)
    · rw [made_takeCommand hPosting] at hFrame
      rcases List.mem_append.mp hFrame with hOld | hNew
      · exact ih hBefore frame hOld
      · obtain ⟨v, -, rfl⟩ := Option.map_eq_some_iff.mp (Option.mem_toList.mp hNew)
        exact Or.inr ⟨_, v, rfl⟩
    · rw [hMade] at hFrame
      exact ih hBefore frame hFrame

section Handler

variable {handler : IoHandler} {io : IoThread}

/-- The thread of the gateway has run one handler more. -/
structure Ran (codec : ServerCodec) (coordinator : DispatchCoordinator) (e : IoThread) (handler : IoHandler)
    (io : IoThread) : Prop where
  before : ∃ ioActions, run (IoThread.step codec.gateway) (IoThread.start coordinator) ioActions = some e
  after : ∃ ioActions, run (IoThread.step codec.gateway) (IoThread.start coordinator) ioActions = some io
  state : io.state = (e.state.exec codec.gateway handler).1
  handled : io.handled = e.handled ++ [handler]
  waiting : ∃ waiting, e.waiting = .inl handler :: waiting

theorem Ran.sent {e : IoThread} (h : Ran codec coordinator e handler io) (session : Nat) : io.sent session =
    e.sent session ++ contentsTo session (Executor.itemsOf (e.state.exec codec.gateway handler).2) := by
  obtain ⟨ioActions, hRun⟩ := h.before
  obtain ⟨ioActions', hRun'⟩ := h.after
  have hSerial := Executor.serial_run (IoThread.run_executor hRun)
  rw [(IoThread.delivers hRun).1, (IoThread.delivers hRun').1, h.handled, Executor.posts_concat,
    Executor.itemsOf_append,
    contentsTo_append, ← hSerial.state]

/-- While a session is registered it does not cease to be active. -/
theorem Ran.unheard {e : IoThread} (h : Ran codec coordinator e handler io) {session : Nat}
    (hIn : session ∈ io.state.sessions) (hNot : io.state.hears session = false) : e.state.hears session = false := by
  by_contra hHears
  rw [h.state] at hIn hNot
  rw [(TransportGateway.keeps_exec e.state handler).hears session hIn (by simpa using hHears)] at hNot
  cases hNot

/-- The handler is no broadcast, and what it sends tells the session nothing. -/
theorem Follows.quiet {session : Nat} (h : Follows dynamics client w s session)
    (hRan : Ran codec coordinator s.io handler io) (hHandler : broadcastsOf [handler] = [])
    (hNothing : contentsTo session (Executor.itemsOf (s.io.state.exec codec.gateway handler).2) = [])
    (hHears : io.state.hears session = false → s.io.state.hears session = false) :
    Follows dynamics client w (s.queueNew io) session := by
  have hReader : (s.queueNew io).readerOf client session = s.readerOf client session := by
    change ({} : ClientReader).readAll client (io.sent session) = _
    rw [hRan.sent, hNothing, List.append_nil]
    rfl
  have hToCome : (s.queueNew io).eventsToCome dynamics = s.eventsToCome dynamics := by
    change ((s.allEvents dynamics).drop ((broadcastsOf io.handled).filter isEventFrame).length) = _
    have hSame : broadcastsOf io.handled = broadcastsOf s.io.handled := by
      rw [hRan.handled, broadcastsOf, List.filterMap_append, ← broadcastsOf, ← broadcastsOf, hHandler, List.append_nil]
    rw [hSame]
    rfl
  refine ⟨hReader ▸ h.tidy, fun hInactive => ?_, fun v hv => ?_⟩
  · rw [hReader]
    exact h.unheard (hHears hInactive)
  · rw [hReader] at hv
    rw [hToCome]
    exact h.view v hv

/-- A broadcast that waits at the front is the frame of the first event to come, or a notice. -/
theorem front_cases (h : run (step dynamics codec) (start coordinator w) actions = some s) {frame : List Byte}
    {waiting : List (IoHandler ⊕ SocketWrite)} (hWaiting : s.io.waiting = .inl (.event (.broadcast frame)) :: waiting) :
    (isEventFrame frame = true ∧ ∃ event rest, IsFrameOf codec.body event frame ∧
      s.eventsToCome dynamics = event :: rest) ∨
    ∃ seqId v, frame = (makeNakFrame codec.gateway.session.build seqId v).encode := by
  have hMade := made_eq (exists_ioRun h)
  have hFront : broadcastsOf (Executor.handlersOf s.io.waiting) =
      frame :: broadcastsOf (Executor.handlersOf waiting) := by
    rw [hWaiting]
    rfl
  rw [hFront] at hMade
  have hIn : frame ∈ s.made := by
    rw [hMade]
    simp
  rcases made_kinds h frame hIn with hEvent | hNak
  · refine Or.inl ⟨hEvent, ?_⟩
    have hFrames := (reporting_run h).frames
    rw [hMade, List.filter_append, List.cons_append, List.filter_cons_of_pos hEvent] at hFrames
    have hRest := List.forall₂_drop_append _ _ _ hFrames
    obtain ⟨event, rest, hFrame, -, hDrop⟩ := List.forall₂_cons_right_iff.mp hRest
    refine ⟨event, rest ++ (if s.phase = .report then s.changes.filterMap makeEvent else []), hFrame, ?_⟩
    have hLength := hFrames.length_eq
    rw [eventsToCome, allEvents_eq (ticking_run h), List.drop_append_of_le_length (by
      rw [hLength, List.length_append]
      exact Nat.le_add_right _ _), hDrop, List.cons_append]
  · exact Or.inr hNak

theorem Follows.broadcast {session : Nat} (h : Follows dynamics client w s session)
    (hRun : run (step dynamics codec) (start coordinator w) actions = some s)
    (hUnderstands : Understands dynamics client codec s.ticks) {frame : List Byte}
    (hRan : Ran codec coordinator s.io (.event (.broadcast frame)) io) (hIn : session ∈ s.io.state.sessions) :
    Follows dynamics client w (s.queueNew io) session := by
  obtain ⟨waiting, hWaiting⟩ := hRan.waiting
  obtain ⟨ioActions, hIo⟩ := hRan.before
  have hNodup := (IoThread.delivers hIo).2.2.1.nodup
  have hState : io.state = s.io.state := hRan.state
  have hContents : contentsTo session (Executor.itemsOf (s.io.state.exec codec.gateway (.event (.broadcast frame))).2) =
      if s.io.state.hears session = true then [.shared frame] else [] := by
    rw [TransportGateway.exec, itemsOf_map_inr, TransportGateway.broadcast, contentsTo_each (hNodup.filter _)]
    simp [hIn]
  have hHandled : broadcastsOf io.handled = broadcastsOf s.io.handled ++ [frame] := by
    rw [hRan.handled, broadcastsOf, List.filterMap_append]
    rfl
  have hToCome : (s.queueNew io).eventsToCome dynamics =
      (s.eventsToCome dynamics).drop ([frame].filter isEventFrame).length := by
    change (s.allEvents dynamics).drop ((broadcastsOf io.handled).filter isEventFrame).length = _
    rw [hHandled, List.filter_append, List.length_append, ← List.drop_drop]
    rfl
  have hReader : (s.queueNew io).readerOf client session = (s.readerOf client session).readAll client
      (if s.io.state.hears session = true then [.shared frame] else []) := by
    change ({} : ClientReader).readAll client (io.sent session) = _
    rw [hRan.sent, hContents, ClientReader.readAll_append]
    rfl
  cases hHears : s.io.state.hears session with
  | false =>
    have hNone := h.unheard hHears
    rw [hHears, if_neg Bool.false_ne_true] at hReader
    have hReader : (s.queueNew io).readerOf client session = s.readerOf client session := hReader
    refine ⟨hReader ▸ h.tidy, fun _ => hReader ▸ hNone, fun v hv => ?_⟩
    rw [hReader, hNone] at hv
    cases hv
  | true =>
    rw [hHears, if_pos rfl] at hReader
    have hReader : (s.queueNew io).readerOf client session = (s.readerOf client session).read client (.shared frame) :=
      hReader
    have hStill : ¬ (s.queueNew io).io.state.hears session = false := by
      change ¬ io.state.hears session = false
      rw [hState, hHears]
      exact Bool.true_eq_false_eq_False
    rcases front_cases hRun hWaiting with ⟨hEvent, event, rest, ⟨eventId, seqId, timestampUs, hFrame⟩, hNext⟩ |
      ⟨seqId, v, hFrame⟩
    · have hMem : event ∈ s.allEvents dynamics := by
        refine (eventsToCome_suffix s).subset ?_
        rw [hNext]
        exact List.mem_cons_self
      obtain ⟨t, ht, hIn⟩ := List.mem_flatMap.mp hMem
      obtain ⟨hLength, hRead⟩ := hUnderstands.events t ht event hIn eventId timestampUs
      obtain ⟨hTidy, hView⟩ :=
        @ClientReader.Tidy.event client _ h.tidy (.shared frame) event _ seqId hFrame hLength hRead
      refine ⟨hReader ▸ hTidy, fun hNot => absurd hNot hStill, fun v hv => ?_⟩
      rw [hReader] at hv
      obtain ⟨before, hBefore, rfl⟩ := hView v hv
      have hThen := h.view before hBefore
      rw [hNext] at hThen
      rw [hToCome, List.filter_cons_of_pos hEvent, hNext]
      exact hThen
    · have hType : frame.getD 2 0 = MsgType.kCommandNak := by
        rw [hFrame]
        rfl
      obtain ⟨hTidy, hView⟩ := @ClientReader.Tidy.other client _ h.tidy (.shared frame)
        (by change frame.getD 2 0 ≠ _; rw [hType]; decide) (by change frame.getD 2 0 ≠ _; rw [hType]; decide)
      refine ⟨hReader ▸ hTidy, fun hNot => absurd hNot hStill, fun v hv => ?_⟩
      rw [hReader] at hv
      have hNotEvent : isEventFrame frame = false := by
        rw [isEventFrame, hType]
        rfl
      rw [hToCome, List.filter_cons_of_neg (by rw [hNotEvent]; exact Bool.false_ne_true)]
      exact h.view v (hView v hv)

/-- The last tick has led to where the ticks have led. -/
theorem Chained.exists_last {w w' : World φ} {ticks : List (World φ × TickInput φ)} (h : Chained dynamics w ticks w')
    (hTicks : ticks ≠ []) : ∃ t ∈ ticks, t.1.doTick dynamics t.2.queue t.2.fleetCommands = w' := by
  induction ticks generalizing w with
  | nil => exact absurd rfl hTicks
  | cons t ticks ih =>
    obtain ⟨rfl, hRest⟩ := h
    cases ticks with
    | nil => exact ⟨t, List.mem_cons_self, hRest.symm⟩
    | cons next ticks =>
      obtain ⟨last, hLast, hEnd⟩ := ih hRest (List.cons_ne_nil _ _)
      exact ⟨last, List.mem_cons_of_mem _ hLast, hEnd⟩

/-- The client reads what is served as the state the ticks have led to. -/
theorem Understands.served (h : Understands dynamics client codec s.ticks) (hTicking : s.Ticking dynamics w)
    {serialised : List Byte} (hServed : s.served codec = some serialised) :
    ∃ snap, client.readSnapshot serialised = some snap ∧
      ClientView.ofSnapshot snap = ClientView.ofState s.settled.state := by
  rw [SessionServer.served, hTicking.snapshot] at hServed
  split at hServed
  · cases hServed
  · rename_i hTicks
    cases hServed
    obtain ⟨t, ht, hEnd⟩ := Chained.exists_last hTicking.chained hTicks
    have hRead := h.snapshots t ht
    rw [hEnd] at hRead
    exact ⟨_, hRead, ClientView.ofSnapshot_serialize _ _ _⟩

/-- What the client makes of the answers to a read of its own session. -/
theorem Follows.readOwn {session : Nat} (h : Follows dynamics client w s session) (hTicking : s.Ticking dynamics w)
    (hTold : ∀ t ∈ s.ticks, TickTold dynamics t.1 t.2) (hUnderstands : Understands dynamics client codec s.ticks)
    {bytes : List Byte} {around : Nat → Surroundings} {clock : Nat → UInt64}
    (hRan : Ran codec coordinator s.io (.event (.read session bytes around clock)) io)
    (hFinds : s.findsServer codec (.event (.read session bytes around clock)) = true)
    (hIn : session ∈ io.state.sessions) {c : Connection Command} (hc : s.io.state.connections[session]? = some c) :
    Follows dynamics client w (s.queueNew io) session := by
  obtain ⟨hConnections, hSessions, hItems⟩ := @TransportGateway.exec_read codec.gateway _ _ _ hc bytes around clock
  have hOpen : (c.receive codec.gateway.session around bytes).session.isOpen = true := by
    by_contra hClosed
    rw [hRan.state, hSessions, if_neg hClosed] at hIn
    simp at hIn
  have hLt : session < s.io.state.connections.length := (List.getElem?_eq_some_iff.mp hc).1
  have hHears : io.state.hears session = (c.receive codec.gateway.session around bytes).session.isActive := by
    rw [hRan.state, TransportGateway.hears, hConnections, List.getElem?_set_self hLt]
    rfl
  have hReader : (s.queueNew io).readerOf client session = (s.readerOf client session).readAll client
      ((sendsOf (TransportGateway.newEffects c (c.receive codec.gateway.session around bytes))).map .own) := by
    change ({} : ClientReader).readAll client (io.sent session) = _
    rw [hRan.sent, hItems, contentsTo_self, ClientReader.readAll_append]
    rfl
  have hToCome : (s.queueNew io).eventsToCome dynamics = s.eventsToCome dynamics := by
    change (s.allEvents dynamics).drop ((broadcastsOf io.handled).filter isEventFrame).length = _
    rw [hRan.handled, broadcastsOf, List.filterMap_append]
    exact congrArg (fun frames => (s.allEvents dynamics).drop (frames.filter isEventFrame).length) (List.append_nil _)
  have hAnswers : ∀ g ∈ (c.receive codec.gateway.session around bytes).handled.drop c.handled.length,
      (∀ sent ∈ sendsOf g.effects, isPlainFrame sent) ∨
        g.before = .active ∧ ∃ txSeq serialised snap, sendsOf g.effects =
          snapshotFrames txSeq (chunk serialised defaultChunkSize) ∧ client.readSnapshot serialised = some snap ∧
            ClientView.ofSnapshot snap = ClientView.ofState s.settled.state := by
    intro g hg
    obtain ⟨j, hj⟩ := List.mem_iff_getElem?.mp hg
    rw [List.getElem?_drop] at hj
    obtain ⟨state, hBefore, hEffects⟩ := Connection.handledIn_receive c bytes (Nat.le_add_right _ j) hj
    rw [hBefore, hEffects]
    refine handleFrame_sends.imp_right ?_
    rintro ⟨hActive, txSeq, serialised, hSnapshot, hSends⟩
    have hPlace : c.handled.length + j < (c.receive codec.gateway.session around bytes).handled.length :=
      (List.getElem?_eq_some_iff.mp hj).1
    have hFound := hFinds
    simp only [findsServer, hc, Option.all_some, List.all_eq_true, List.mem_range, Bool.or_eq_true, Bool.and_eq_true,
      decide_eq_true_eq] at hFound
    rcases hFound _ hPlace with hOld | ⟨⟨hServed, -⟩, -⟩
    · omega
    · obtain ⟨snap, hRead, hSnap⟩ := hUnderstands.served hTicking (hServed.symm.trans hSnapshot)
      exact ⟨hActive, txSeq, serialised, snap, hSends, hRead, hSnap⟩
  obtain ⟨hTidy, hView⟩ := h.tidy.answers hAnswers
  refine ⟨hReader ▸ hTidy, fun hNot => ?_, fun v hv => ?_⟩
  · -- a session that does not listen after the read has not listened before it, and asked for nothing meanwhile
    rw [show (s.queueNew io).io.state.hears session = _ from hHears] at hNot
    have hBefore : s.io.state.hears session = false := by
      rw [TransportGateway.hears, hc]
      refine Bool.eq_false_iff.mpr fun hActive => ?_
      rw [TransportGateway.active_receive hActive hOpen] at hNot
      cases hNot
    rw [hReader]
    refine Option.eq_none_iff_forall_ne_some.mpr fun v hv => ?_
    rcases hView v hv with hKept | ⟨-, g, hg, hActive⟩
    · rw [h.unheard hBefore] at hKept
      cases hKept
    · exact Connection.inactive_receive c bytes hOpen hNot g hg hActive
  · rw [hReader] at hv
    rw [hToCome]
    change (s.eventsToCome dynamics).foldl ClientView.observe v = (s.allEvents dynamics).foldl ClientView.observe _
    rcases hView v hv with hKept | ⟨rfl, -⟩
    · exact h.view v hKept
    · rw [← foldl_tickEvents hTicking.chained hTold]
      exact ClientView.overwrites_observe.foldl_suffix _ (eventsToCome_suffix s)

theorem Follows.read {session : Nat} (h : Follows dynamics client w s session) (hTicking : s.Ticking dynamics w)
    (hTold : ∀ t ∈ s.ticks, TickTold dynamics t.1 t.2) (hUnderstands : Understands dynamics client codec s.ticks)
    {reading : Nat} {bytes : List Byte} {around : Nat → Surroundings} {clock : Nat → UInt64}
    (hRan : Ran codec coordinator s.io (.event (.read reading bytes around clock)) io)
    (hFinds : s.findsServer codec (.event (.read reading bytes around clock)) = true)
    (hIn : session ∈ io.state.sessions) :
    Follows dynamics client w (s.queueNew io) session := by
  cases hc : s.io.state.connections[reading]? with
  | none =>
    have hSame := @TransportGateway.exec_read_of_none codec.gateway _ _ hc bytes around clock
    exact h.quiet hRan rfl (by rw [hSame]; rfl) (hRan.unheard hIn)
  | some c =>
    obtain ⟨-, -, hItems⟩ := @TransportGateway.exec_read codec.gateway _ _ _ hc bytes around clock
    by_cases hOwn : reading = session
    · subst hOwn
      exact h.readOwn hTicking hTold hUnderstands hRan hFinds hIn hc
    · exact h.quiet hRan rfl (by rw [hItems, contentsTo_other hOwn]) (hRan.unheard hIn)

/-- A session that has just been accepted has been sent nothing. -/
theorem follows_accepted (hRan : Ran codec coordinator s.io (.event .accept) io) :
    Follows dynamics client w (s.queueNew io) s.io.state.connections.length := by
  obtain ⟨ioActions, hIo⟩ := hRan.before
  obtain ⟨hSent, hReplied, -, -⟩ := IoThread.delivers hIo
  have hReader : (s.queueNew io).readerOf client s.io.state.connections.length = {} := by
    change ({} : ClientReader).readAll client (io.sent _) = _
    rw [hRan.sent, hSent, hReplied.unknown _ le_rfl]
    rfl
  refine ⟨?_, fun _ => ?_, fun v hv => ?_⟩
  · rw [hReader]
    exact ⟨rfl, fun _ => rfl⟩
  · rw [hReader]
  · rw [hReader] at hv
    cases hv

theorem follows_handler (h : ∀ session ∈ s.io.state.sessions, Follows dynamics client w s session)
    (hRun : run (step dynamics codec) (start coordinator w) actions = some s)
    (hTold : ∀ t ∈ s.ticks, TickTold dynamics t.1 t.2) (hUnderstands : Understands dynamics client codec s.ticks)
    (hRan : Ran codec coordinator s.io handler io) (hFinds : s.findsServer codec handler = true) :
    ∀ session ∈ io.state.sessions, Follows dynamics client w (s.queueNew io) session := by
  intro session hIn
  cases handler with
  | event event =>
    have hOld : session ∈ (s.io.state.exec codec.gateway (.event event)).1.sessions := hRan.state ▸ hIn
    cases event with
    | accept =>
      simp only [TransportGateway.exec, List.mem_append, List.mem_singleton] at hOld
      rcases hOld with hOld | rfl
      · exact (h session hOld).quiet hRan rfl rfl (hRan.unheard hIn)
      · exact follows_accepted hRan
    | read reading bytes around clock =>
      have hBefore : session ∈ s.io.state.sessions := by
        cases hc : s.io.state.connections[reading]? with
        | none => rwa [TransportGateway.exec_read_of_none hc] at hOld
        | some c =>
          rw [(@TransportGateway.exec_read codec.gateway _ _ _ hc bytes around clock).2.1] at hOld
          split at hOld
          · exact hOld
          · exact (List.mem_filter.mp hOld).1
      exact (h session hBefore).read (ticking_run hRun) hTold hUnderstands hRan hFinds hIn
    | readError failed =>
      simp only [TransportGateway.exec, TransportGateway.onReadError] at hOld
      exact (h session (List.mem_filter.mp hOld).1).quiet hRan rfl rfl (hRan.unheard hIn)
    | broadcast frame => exact (h session hOld).broadcast hRun hUnderstands hRan hOld
  | broadcastToPair b =>
    -- no copy of a telegram is ever posted
    obtain ⟨ioActions, hIo⟩ := hRan.before
    obtain ⟨waiting, hWaiting⟩ := hRan.waiting
    obtain ⟨event, hEvent⟩ := (IoThread.Silent.run hIo).events (.broadcastToPair b) (by simp [hWaiting])
    cases hEvent

end Handler

/-! ## Runs -/

/-- The ticks that have ended stay. -/
theorem Understands.mono {ticks more : List (World φ × TickInput φ)} (h : Understands dynamics client codec more)
    (hTicks : ticks <+: more) : Understands dynamics client codec ticks :=
  ⟨fun t ht => h.events t (hTicks.subset ht), fun t ht => h.snapshots t (hTicks.subset ht)⟩

/-- Where the gateway's thread stands as it did, its sessions follow as they did. -/
theorem Follows.still {session : Nat} {a : ServerAction φ} (h : Follows dynamics client w s session)
    (hRun : run (step dynamics codec) (start coordinator w) actions = some s)
    (hRun' : run (step dynamics codec) (start coordinator w) (actions ++ [a]) = some s')
    (hState : s'.io.state = s.io.state) (hHandled : s'.io.handled = s.io.handled) (hTicks : s.ticks <+: s'.ticks) :
    Follows dynamics client w s' session := by
  obtain ⟨more, hMore⟩ := hTicks
  exact h.later (handled_le_allEvents hRun) hState hHandled
    (sent_of_handled (exists_ioRun hRun) (exists_ioRun hRun') hHandled session) hMore.symm

theorem follows_run (h : run (step dynamics codec) (start coordinator w) actions = some s)
    (hTold : ∀ t ∈ s.ticks, TickTold dynamics t.1 t.2) (hUnderstands : Understands dynamics client codec s.ticks) :
    ∀ session ∈ s.io.state.sessions, Follows dynamics client w s session := by
  induction actions using List.reverseRecOn generalizing s with
  | nil =>
    cases h
    exact List.forall_mem_nil _
  | append_singleton actions a ih =>
    obtain ⟨t, hBefore, hLast⟩ := run_append.mp h
    obtain ⟨s', hStep, hDone⟩ := run_cons.mp hLast
    cases hDone
    have hTicks := ticks_moves (step_moves hStep)
    have hFollows := ih hBefore (fun u hu => hTold u (hTicks.subset hu)) (hUnderstands.mono hTicks)
    have hStill : s.io.state = t.io.state → s.io.handled = t.io.handled →
        ∀ session ∈ s.io.state.sessions, Follows dynamics client w s session := fun hState hHandled session hIn =>
      (hFollows session (hState ▸ hIn)).still hBefore h hState hHandled hTicks
    cases step_moves hStep with
    | @io ioAction io hOther hFinds hIo =>
      rcases Executor.step_cases (IoThread.step_executor hIo).2 with ⟨event, rfl, rfl⟩ |
        ⟨posted, posting, rfl, -, rfl⟩ |
        ⟨handler, waiting, rfl, hPosting, hWaiting, -, rfl⟩ | ⟨item, waiting, rfl, -, -, -, rfl⟩ | ⟨rfl, rfl⟩
      · exact hStill rfl rfl
      · exact hStill rfl rfl
      · have hRan : Ran codec coordinator t.io handler _ :=
          ⟨exists_ioRun hBefore, exists_ioRun h, rfl, rfl, waiting, hWaiting⟩
        refine follows_handler hFollows hBefore hTold hUnderstands hRan ?_
        simp only [findsAll, hPosting, hWaiting] at hFinds
        exact hFinds
      · exact hStill rfl rfl
      · exact hStill rfl rfl
    | post hPosting hIo =>
      rw [IoThread.step_enter hIo] at hStill ⊢
      exact hStill rfl rfl
    | endTick =>
      rw [endTick_eq] at hStill ⊢
      exact hStill rfl rfl
    | terminal | command | onTick | fleetCommand | report => exact hStill rfl rfl

/-- A session that has been given a snapshot gets from it and from what it hears to the state of the server. This holds
whenever the snapshot was taken, also where events of ticks that it shows were still on their way: they are heard once
more and change nothing. -/
theorem client_catchesUp (h : run (step dynamics codec) (start coordinator w) actions = some s)
    (hTold : ∀ t ∈ s.ticks, TickTold dynamics t.1 t.2) (hUnderstands : Understands dynamics client codec s.ticks)
    {session : Nat} (hIn : session ∈ s.io.state.sessions) {v : ClientView}
    (hView : (s.readerOf client session).view = some v) :
    (s.eventsToCome dynamics).foldl ClientView.observe v = ClientView.ofState s.settled.state ∧
      (s.phase ≠ .report → s.eventsWaiting = [] → v = ClientView.ofState s.settled.state) := by
  have hTicking := ticking_run h
  have hFollows := (follows_run h hTold hUnderstands session hIn).view v hView
  have hEvents : (s.allEvents dynamics).foldl ClientView.observe (ClientView.ofState w.state) =
      ClientView.ofState s.settled.state := foldl_tickEvents hTicking.chained hTold
  rw [hEvents] at hFollows
  refine ⟨hFollows, fun hPhase hWaiting => ?_⟩
  have hNothing : s.eventsToCome dynamics = [] := by
    have hLength := (reporting_run h).frames.length_eq
    rw [made_eq (exists_ioRun h), List.filter_append, ← eventsWaiting, hWaiting, List.append_nil] at hLength
    rw [eventsToCome, allEvents_eq hTicking, if_neg hPhase, List.append_nil, ← hLength, List.drop_length]
  rwa [hNothing] at hFollows

/-- The tick in which the signal is put to stop. -/
def stopTick : World Unit × TickInput Unit := (World.start .ml8 forkStation, { queue := [stopSignal] })

/-- A client that can read what is written about this tick. -/
def stopClient : ClientCodec where
  readEvent payload := if payload.drop 13 = [1] then (tickEvents World.idleTrains stopTick).head? else none
  readSnapshot binary :=
    if binary = [2] then
      let w := stopTick.1.doTick World.idleTrains stopTick.2.queue stopTick.2.fleetCommands
      some (serialize (publish World.idleTrains w.state w.fleet))
    else none

/-- A client asks for the snapshot while the event of the tick that it shows is on its way. -/
def joinAndAsk : List (ServerAction Unit) :=
  joinAndCommand ++ [.io (.enter (.read 0 (encodeFrame MsgType.kSnapshotRequest 0 0 [])
    (fun _ => { snapshot := some [2] }) (fun _ => 0))), .engine 0] ++ List.replicate 10 (.io .work)

theorem understands_stopTick : Understands World.idleTrains stopClient stopServer [stopTick] := by
  constructor
  · intro t ht event hEvent eventId timestampUs
    rw [List.mem_singleton.mp ht] at hEvent
    have hOne : tickEvents World.idleTrains stopTick = [.signalAspectChanged ⟨21⟩ 0 0] := by decide +kernel
    rw [hOne] at hEvent
    rw [List.mem_singleton.mp hEvent]
    have hPrefix : (buildEventPrefix (DomainEvent.signalAspectChanged ⟨21⟩ 0 0).eventType eventId
        timestampUs).length = 13 := by
      simp [buildEventPrefix, length_leBytes]
    constructor
    · rw [List.length_append, hPrefix]
      decide
    · simp only [stopClient]
      rw [← hPrefix, List.drop_left, hOne]
      rfl
  · intro t ht
    rw [List.mem_singleton.mp ht]
    rfl

theorem tickTold_stopTick : TickTold World.idleTrains stopTick.1 stopTick.2 where
  changes := by
    refine guarded_of_forall_mem (fun c hc s => told_of_isPlain ?_ s) _
    revert c
    exact List.all_eq_true.mp (by decide +kernel)
  forced := by
    rintro u rfl entry hEntry
    have hNone : (World.beforeTrains World.idleTrains stopTick.1 stopTick.2.queue
        stopTick.2.fleetCommands).1.fleet = [] :=
      List.isEmpty_iff.mp (by decide +kernel)
    rw [hNone] at hEntry
    cases hEntry

/-- What the only tick has taken is the command. -/
def tookStop (ticks : List (World Unit × TickInput Unit)) : Bool :=
  match ticks with
  | [(_, { queue := [.setSignalAspect cmd], fleetCommands := [], timestampUs })] =>
    cmd.uid = ⟨21⟩ && cmd.aspect = .s1Stop && timestampUs = 0
  | _ => false

theorem eq_stopTick {ticks : List (World Unit × TickInput Unit)} (h : tookStop ticks = true) {w' : World Unit}
    (hChained : Chained World.idleTrains (World.start .ml8 forkStation) ticks w') : ticks = [stopTick] := by
  unfold tookStop at h
  split at h
  · rename_i before cmd timestampUs
    obtain ⟨hBefore, -⟩ := hChained
    simp only [Bool.and_eq_true, decide_eq_true_eq] at h
    obtain ⟨⟨hUid, hAspect⟩, rfl⟩ := h
    obtain ⟨uid, aspect⟩ := cmd
    cases hUid
    cases hAspect
    cases hBefore
    rfl
  · cases h

/-- The client hears the event of the tick once more and knows what the server knows. -/
theorem client_catchesUp_joined : ∃ s v, run (step World.idleTrains stopServer)
    (start {} (World.start .ml8 forkStation))
      joinAndAsk = some s ∧
    (s.readerOf stopClient 0).view = some v ∧ v = ClientView.ofState s.settled.state ∧
    (s.eventsHeard 0).length = 1 := by
  have hTaken : (run (step World.idleTrains stopServer) (start {} (World.start .ml8 forkStation)) joinAndAsk).any
      (fun s => tookStop s.ticks && (s.readerOf stopClient 0).view.isSome && s.io.state.sessions.contains 0 &&
        decide (s.phase ≠ .report) && s.eventsWaiting.isEmpty && (s.eventsHeard 0).length = 1) =
          true := by decide +kernel
  obtain ⟨s, hRun, hTest⟩ := (Option.any_eq_true _ _).mp hTaken
  simp only [Bool.and_eq_true, decide_eq_true_eq, List.isEmpty_iff, List.contains_iff_mem] at hTest
  obtain ⟨⟨⟨⟨⟨hStop, hSome⟩, hIn⟩, hPhase⟩, hNone⟩, hHeard⟩ := hTest
  obtain ⟨v, hView⟩ := Option.isSome_iff_exists.mp hSome
  have hTicks := eq_stopTick hStop (ticking_run hRun).chained
  have hTold : ∀ t ∈ s.ticks, TickTold World.idleTrains t.1 t.2 := by
    rw [hTicks]
    exact fun t ht => List.mem_singleton.mp ht ▸ tickTold_stopTick
  have hUnderstands : Understands World.idleTrains stopClient stopServer s.ticks := hTicks ▸ understands_stopTick
  exact ⟨s, v, hRun, hView, (client_catchesUp hRun hTold hUnderstands hIn hView).2 hPhase hNone, hHeard⟩

end SessionServer

end Symulator.Server
