import Symulator.Server.ServerTicks

/-! # The order of the commands

Every session queues its commands with the same priority, so the queue is a line: the engine takes the commands of all
clients in the order in which their frames were handled, each once, under the number of the frame and for the player
that the last handshake of the session named.
-/

namespace Symulator.Server

open Symulator.Library Symulator.Engine Symulator.Srk

set_option autoImplicit false

/-- The commands of the frames handled. -/
def commandsOf (handled : List (HandledFrame Command)) : List EnvelopedCommand :=
  handled.flatMap fun h => pushesOf h.effects

/-- The commands queued by one session. -/
def queuedBy (session : Nat) (pushed : List (Nat × EnvelopedCommand)) : List EnvelopedCommand :=
  (pushed.filter fun entry => entry.1 = session).map Prod.snd

theorem queuedBy_append (session : Nat) (pushed more : List (Nat × EnvelopedCommand)) :
    queuedBy session (pushed ++ more) = queuedBy session pushed ++ queuedBy session more := by
  simp [queuedBy]

theorem queuedBy_map (session other : Nat) (envs : List EnvelopedCommand) :
    queuedBy session (envs.map fun env => (other, env)) = if other = session then envs else [] := by
  unfold queuedBy
  split
  · rename_i hSame
    simp [hSame, List.filter_map, Function.comp_def]
  · rename_i hOther
    simp [hOther, List.filter_map, Function.comp_def]

/-! ## What the gateway queues -/

namespace TransportGateway

variable {codec : GatewayCodec}

theorem onDispatch_pushed (clock : UInt64) (g : TransportGateway) (payload : List Byte) (playerId areaId : String) :
    (onDispatch codec clock g payload playerId areaId).1.pushed = g.pushed := by
  unfold onDispatch
  split <;> rfl

theorem takeEffects_pushed (clock : Nat → UInt64) (session : Nat) (effects : List (SessionEffect Command))
    (g : TransportGateway) : (takeEffects codec clock session g effects).1.pushed =
      g.pushed ++ (pushesOf effects).map fun env => (session, env) := by
  induction effects generalizing g with
  | nil => exact (List.append_nil _).symm
  | cons effect effects ih =>
    cases effect with
    | send frame => exact ih g
    | push cmdMeta cmd =>
      rw [takeEffects, ih]
      exact List.append_assoc _ _ _
    | dispatch payload playerId areaId =>
      rw [takeEffects]
      exact (ih _).trans (congrArg (· ++ _) (onDispatch_pushed _ _ _ _ _))

theorem exec_read_pushed {g : TransportGateway} {session : Nat} {c : Connection Command}
    (h : g.connections[session]? = some c) (bytes : List Byte) (around : Nat → Surroundings) (clock : Nat → UInt64) :
    (g.exec codec (.event (.read session bytes around clock))).1.pushed =
      g.pushed ++ (pushesOf (newEffects c (c.receive codec.session around bytes))).map fun env => (session, env) := by
  rw [exec, onRead, h]
  exact takeEffects_pushed _ _ _ _

/-- What was queued is what the frames handled so far have asked for, session by session. -/
structure Queued (g : TransportGateway) : Prop where
  bySession : ∀ (session : Nat) (c : Connection Command), g.connections[session]? = some c →
    queuedBy session g.pushed = commandsOf c.handled
  accepted : ∀ entry ∈ g.pushed, entry.1 < g.connections.length

theorem Queued.read {g : TransportGateway} (h : Queued g) {session : Nat} {c : Connection Command}
    (hc : g.connections[session]? = some c) (bytes : List Byte) (around : Nat → Surroundings) (clock : Nat → UInt64) :
    Queued (g.exec codec (.event (.read session bytes around clock))).1 := by
  have hConnections := (@exec_read codec _ _ _ hc bytes around clock).1
  have hPushed := @exec_read_pushed codec _ _ _ hc bytes around clock
  have hLt : session < g.connections.length := (List.getElem?_eq_some_iff.mp hc).1
  constructor
  · intro other d hd
    rw [hConnections, List.getElem?_set] at hd
    rw [hPushed, queuedBy_append, queuedBy_map]
    split at hd
    · rename_i hSame
      subst hSame
      obtain ⟨new, hNew⟩ := @Connection.handled_prefix _ codec.session around c bytes
      have hd' : c.receive codec.session around bytes = d := by simpa [hLt] using hd
      have hEffects : newEffects c (c.receive codec.session around bytes) = new.flatMap HandledFrame.effects := by
        rw [newEffects, ← hNew, List.drop_left]
      rw [if_pos rfl, h.bySession session c hc, hEffects, ← hd', ← hNew]
      simp [commandsOf, pushesOf, List.filterMap_flatMap]
    · rename_i hOther
      rw [if_neg hOther, List.append_nil]
      exact h.bySession other d hd
  · intro entry hEntry
    rw [hConnections, List.length_set]
    rw [hPushed] at hEntry
    rcases List.mem_append.mp hEntry with hEntry | hEntry
    · exact h.accepted entry hEntry
    · obtain ⟨env, -, rfl⟩ := List.mem_map.mp hEntry
      exact hLt

theorem Queued.exec {g : TransportGateway} (h : Queued g) (handler : IoHandler) : Queued (g.exec codec handler).1 := by
  cases handler with
  | event event =>
    cases event with
    | accept =>
      constructor
      · intro session c hc
        have hc' : (g.connections ++ [({} : Connection Command)])[session]? = some c := hc
        rw [List.getElem?_append] at hc'
        split at hc'
        · exact h.bySession session c hc'
        · rename_i hNew
          rw [List.mem_singleton.mp (List.mem_of_getElem? hc')]
          have hNone : ∀ entry ∈ g.pushed, ¬ entry.1 = session := by
            intro entry hEntry hSame
            exact hNew (hSame ▸ h.accepted entry hEntry)
          have hEmpty : queuedBy session g.pushed = [] := by
            rw [queuedBy, List.filter_eq_nil_iff.mpr fun entry hEntry => by simpa using hNone entry hEntry]
            rfl
          exact hEmpty
      · intro entry hEntry
        have hLt := h.accepted entry hEntry
        simp only [TransportGateway.exec, List.length_append, List.length_singleton]
        omega
    | read session bytes around clock =>
      cases hc : g.connections[session]? with
      | none =>
        rw [exec_read_of_none hc]
        exact h
      | some c => exact h.read hc bytes around clock
    | readError session =>
      constructor
      · intro other d hd
        have hd' : (g.connections.modify session fun c => { c with reading := false })[other]? = some d := hd
        rw [List.getElem?_modify] at hd'
        obtain ⟨c, hc, rfl⟩ := Option.map_eq_some_iff.mp hd'
        have hQueued := h.bySession other c hc
        split <;> exact hQueued
      · intro entry hEntry
        have hLt := h.accepted entry hEntry
        simpa [TransportGateway.exec, onReadError] using hLt
    | broadcast frame => exact h
  | broadcastToPair b => exact h

theorem queued_stateAfter (coordinator : DispatchCoordinator) (handlers : List IoHandler) :
    Queued (Executor.stateAfter (exec codec) { coordinator } handlers) := by
  induction handlers using List.reverseRecOn with
  | nil => exact ⟨fun _ _ h => by simp at h, List.forall_mem_nil _⟩
  | append_singleton handlers handler ih =>
    rw [Executor.stateAfter_concat]
    exact ih.exec handler

/-- The commands queued only become more. -/
theorem pushed_extends_exec (g : TransportGateway) (handler : IoHandler) :
    g.pushed <+: (g.exec codec handler).1.pushed := by
  cases handler with
  | event event =>
    cases event with
    | read session bytes around clock =>
      cases hc : g.connections[session]? with
      | none => rw [exec_read_of_none hc]
      | some c =>
        rw [exec_read_pushed hc]
        exact List.prefix_append _ _
    | accept | readError | broadcast => exact List.prefix_rfl
  | broadcastToPair b => exact List.prefix_rfl

end TransportGateway

/-- A post leaves the state of the gateway as it is. -/
theorem IoThread.step_enter {codec : GatewayCodec} {e e' : IoThread} {event : IoEvent}
    (h : e.step codec (.enter event) = some e') :
    e' = { e with waiting := e.waiting ++ [.inl (.event event)], queued := e.queued ++ [.event event] } := by
  rcases Executor.step_cases (IoThread.step_executor h).2 with ⟨other, hSame, hNext⟩ | ⟨_, _, hOther, -⟩ |
    ⟨_, _, hOther, -⟩ | ⟨_, _, hOther, -⟩ | ⟨hOther, -⟩
  · cases hSame
    exact hNext
  all_goals cases hOther

theorem IoThread.pushed_extends {codec : GatewayCodec} {e e' : IoThread} {a : ExecutorAction IoEvent}
    (h : e.step codec a = some e') : e.state.pushed <+: e'.state.pushed := by
  rcases Executor.step_cases (IoThread.step_executor h).2 with ⟨event, rfl, rfl⟩ | ⟨posted, posting, rfl, -, rfl⟩ |
    ⟨handler, waiting, rfl, -, -, -, rfl⟩ | ⟨item, waiting, rfl, -, -, -, rfl⟩ | ⟨rfl, rfl⟩
  · exact List.prefix_rfl
  · exact List.prefix_rfl
  · exact TransportGateway.pushed_extends_exec e.state handler
  · exact List.prefix_rfl
  · exact List.prefix_rfl

/-! ## A queue of one priority -/

namespace SessionServer

section OneLine

variable {α : Type} {queue queue' : PriorityCommandQueue α}

/-- Nothing but normal commands waits. -/
def OneLine (queue : PriorityCommandQueue α) : Prop := ∀ p, p ≠ .normal → queue.buckets p = []

theorem OneLine.items (h : OneLine queue) : queue.items = queue.buckets .normal := by
  have hEmergency := h .emergency (by decide)
  have hSafety := h .safety (by decide)
  have hBackground := h .background (by decide)
  simp [PriorityCommandQueue.items, PriorityCommandQueue.priorities, hEmergency, hSafety, hBackground]

theorem OneLine.push (h : OneLine queue) (item : α) :
    OneLine (queue.push item .normal) ∧ (queue.push item .normal).items = queue.items ++ [item] := by
  have hLine : OneLine (queue.push item .normal) := fun p hp => (if_neg hp).trans (h p hp)
  refine ⟨hLine, ?_⟩
  rw [hLine.items, h.items]
  simp [PriorityCommandQueue.push]

theorem OneLine.pushAll (h : OneLine queue) (items : List α) :
    OneLine (items.foldl (fun queue item => queue.push item .normal) queue) ∧
      (items.foldl (fun queue item => queue.push item .normal) queue).items = queue.items ++ items := by
  induction items generalizing queue with
  | nil => exact ⟨h, (List.append_nil _).symm⟩
  | cons item items ih =>
    obtain ⟨hLine, hItems⟩ := ih (h.push item).1
    refine ⟨hLine, ?_⟩
    rw [List.foldl_cons, hItems, (h.push item).2, List.append_assoc, List.singleton_append]

theorem OneLine.tryPop (h : OneLine queue) {item : α} (hPop : queue.tryPop = some (item, queue')) : OneLine queue' := by
  obtain ⟨before, p, after, -, -, hHead, hSame⟩ := PriorityCommandQueue.exists_of_popFrom hPop
  have hNormal : p = .normal := by
    by_contra hOther
    rw [h p hOther] at hHead
    cases hHead
  subst hNormal
  exact fun q hq => (hSame q hq).trans (h q hq)

end OneLine

/-! ## Runs of the server -/

variable {φ : Type} {dynamics : TrainDynamics φ} {codec : ServerCodec} {s s' : SessionServer φ}
  {coordinator : DispatchCoordinator} {w : World φ} {actions : List (ServerAction φ)}

theorem Moves.io_cases (h : Moves dynamics codec s s') :
    s'.io = s.io ∨ ∃ a, s.io.step codec.gateway a = some s'.io := by
  cases h with
  | io hOther hFinds hIo => exact Or.inr ⟨_, hIo⟩
  | post hPosting hIo => exact Or.inr ⟨_, hIo⟩
  | terminal | command | onTick | fleetCommand | report => exact Or.inl rfl
  | endTick =>
    rw [endTick_eq]
    exact Or.inl rfl

/-- What the thread of the gateway does in a run of the server is a run of its own. -/
theorem ioRun_of_run (h : run (step dynamics codec) s actions = some s') :
    ∃ ioActions, run (IoThread.step codec.gateway) s.io ioActions = some s'.io := by
  refine invariant (fun t : SessionServer φ =>
    ∃ ioActions, run (IoThread.step codec.gateway) s.io ioActions = some t.io) ?_ ⟨[], rfl⟩ h
  rintro t a u ⟨ioActions, hRun⟩ hStep
  rcases (step_moves hStep).io_cases with hSame | ⟨b, hIo⟩
  · exact ⟨ioActions, hSame ▸ hRun⟩
  · exact ⟨ioActions ++ [b], run_append.mpr ⟨t.io, hRun, run_cons.mpr ⟨u.io, hIo, rfl⟩⟩⟩

theorem exists_ioRun (h : run (step dynamics codec) (start coordinator w) actions = some s) :
    ∃ ioActions, run (IoThread.step codec.gateway) (IoThread.start coordinator) ioActions = some s.io :=
  ioRun_of_run h

/-- The commands taken and those in the queue are those that were queued. -/
structure InLine (s : SessionServer φ) : Prop where
  oneLine : OneLine s.cmdQueue
  order : s.taken ++ s.cmdQueue.items = s.io.state.pushed

theorem InLine.moves (h : s.InLine) (hMoves : Moves dynamics codec s s') : s'.InLine := by
  cases hMoves with
  | io hOther hFinds hIo =>
    obtain ⟨new, hNew⟩ := IoThread.pushed_extends hIo
    obtain ⟨hLine, hItems⟩ := h.oneLine.pushAll new
    rw [queueNew, ← hNew, List.drop_left]
    refine ⟨hLine, ?_⟩
    change s.taken ++ _ = _
    rw [hItems, ← List.append_assoc, h.order, ← hNew]
  | post hPosting hIo =>
    rw [IoThread.step_enter hIo]
    exact ⟨h.oneLine, h.order⟩
  | command hPosting hPhase hMore hPop =>
    refine ⟨h.oneLine.tryPop hPop, ?_⟩
    have hOrder := h.order
    rw [PriorityCommandQueue.items_tryPop hPop] at hOrder
    exact (List.append_assoc _ [_] _).trans hOrder
  | terminal | onTick | fleetCommand | report => exact ⟨h.oneLine, h.order⟩
  | endTick =>
    rw [endTick_eq]
    exact ⟨h.oneLine, h.order⟩

theorem inLine_run (h : run (step dynamics codec) (start coordinator w) actions = some s) : s.InLine :=
  invariant InLine (fun _ _ _ hLine hStep => hLine.moves (step_moves hStep)) ⟨fun _ _ => rfl, rfl⟩ h

theorem queued_run (h : run (step dynamics codec) (start coordinator w) actions = some s) : s.io.state.Queued := by
  obtain ⟨ioActions, hIo⟩ := exists_ioRun h
  rw [(Executor.serial_run (IoThread.run_executor hIo)).state]
  exact TransportGateway.queued_stateAfter coordinator s.io.handled

/-- A command that a session has queued was sent to it in a frame. -/
theorem authored_of_mem (h : run (step dynamics codec) (start coordinator w) actions = some s) {session : Nat}
    {c : Connection Command} (hc : s.io.state.connections[session]? = some c) {env : EnvelopedCommand}
    (hEnv : env ∈ commandsOf c.handled) : Authored codec.gateway.session c.handled env.cmdMeta env.payload := by
  obtain ⟨ioActions, hIo⟩ := exists_ioRun h
  obtain ⟨-, hReplied, -, -⟩ := IoThread.delivers hIo
  obtain ⟨handled, hHandled, hPush⟩ := List.mem_flatMap.mp hEnv
  obtain ⟨effect, hEffect, hEnv⟩ := List.mem_filterMap.mp hPush
  cases effect with
  | push cmdMeta cmd =>
    cases hEnv
    exact (hReplied.history session c hc).pushed handled hHandled cmdMeta cmd hEffect
  | send | dispatch => cases hEnv

/-- However the clients and the engine are interleaved, the engine takes the commands of all clients in the order in
which they were queued, none twice and none left out. Those of one client are those of its frames, in their order. -/
theorem commands_inOrder (h : run (step dynamics codec) (start coordinator w) actions = some s) :
    s.taken ++ s.cmdQueue.items = s.io.state.pushed ∧
      (∀ (session : Nat) (c : Connection Command), s.io.state.connections[session]? = some c →
        queuedBy session s.io.state.pushed = commandsOf c.handled ∧
          ∀ env ∈ commandsOf c.handled, Authored codec.gateway.session c.handled env.cmdMeta env.payload) ∧
      ∀ entry ∈ s.io.state.pushed, entry.1 < s.io.state.connections.length :=
  ⟨(inLine_run h).order, fun session c hc => ⟨(queued_run h).bySession session c hc,
    fun _ hEnv => authored_of_mem h hc hEnv⟩,
    (queued_run h).accepted⟩

/-- A signal that does not exist. -/
def straySignal : Command := .setSignalAspect { uid := ⟨99⟩, aspect := .s1Stop }

/-- A server for the players A and B, who put a signal to stop, or one that does not exist. -/
def pairServer : ServerCodec where
  gateway :=
    { plainGateway with
      session :=
        { readHandshake := fun payload =>
            some { playerId := some (if payload = [1] then "A" else "B"), authToken := some "t" }
          parsePayload := fun payload => some (if payload = [1] then stopSignal else straySignal)
          build := fun _ => [] } }
  body _ := [1]
  finish _ := [2]

def requestFrame (seqId : BitVec 32) (payload : List Byte) : DecodedFrame :=
  { msgType := MsgType.kCommand, seqId, payload }

def readFrames (session : Nat) (snapshot : Option (List Byte)) (frames : List DecodedFrame) : ServerAction Unit :=
  .io (.enter (.read session (frames.flatMap DecodedFrame.encode) (fun _ => { snapshot }) (fun _ => 0)))

/-- A joins and sends two commands, which the engine takes in its first tick. -/
def firstClient : List (ServerAction Unit) :=
  [.io (.enter .accept), .io .work, readFrames 0 none [joinFrame [1], requestFrame 1 [1], requestFrame 2 [9]],
    .io .work] ++ List.replicate 7 (.engine 0) ++ List.replicate 12 (.io .work)

/-- B joins and sends a command, A sends another, and then the engine ticks again. -/
def secondClient : List (ServerAction Unit) :=
  [.io (.enter .accept), .io .work, readFrames 1 (some [2]) [joinFrame [2], requestFrame 1 [9]], .io .work,
    readFrames 0 (some [2]) [requestFrame 3 [1]]] ++ List.replicate 3 (.io .work)

def twoClients : List (ServerAction Unit) :=
  firstClient ++ secondClient ++ List.replicate 7 (.engine 0) ++ List.replicate 11 (.io .work)

/-- A's commands and B's are taken in the order of their frames. -/
theorem commands_inOrder_joined : ∃ s c, run (step World.idleTrains pairServer)
      (start {} (World.start .ml8 forkStation)) twoClients = some s ∧
    s.taken ++ s.cmdQueue.items = s.io.state.pushed ∧
    (s.taken.map fun entry => (entry.1, entry.2.cmdMeta.seqId, entry.2.cmdMeta.playerId)) =
      [(0, 1, "A"), (0, 2, "A"), (1, 1, "B"), (0, 3, "A")] ∧
    s.io.state.connections[0]? = some c ∧ queuedBy 0 s.io.state.pushed = commandsOf c.handled := by
  have hTaken : (run (step World.idleTrains pairServer) (start {} (World.start .ml8 forkStation)) twoClients).any
      (fun s => decide ((s.taken.map fun entry => (entry.1, entry.2.cmdMeta.seqId, entry.2.cmdMeta.playerId)) =
        [(0, 1, "A"), (0, 2, "A"), (1, 1, "B"), (0, 3, "A")]) && (s.io.state.connections[0]?).isSome) = true := by
    decide +kernel
  obtain ⟨s, hRun, hTest⟩ := (Option.any_eq_true _ _).mp hTaken
  rw [Bool.and_eq_true, decide_eq_true_eq] at hTest
  obtain ⟨c, hSession⟩ := Option.isSome_iff_exists.mp hTest.2
  obtain ⟨hOrder, hBySession, -⟩ := commands_inOrder hRun
  exact ⟨s, c, hRun, hOrder, hTest.1, hSession, (hBySession 0 c hSession).1⟩

end SessionServer

end Symulator.Server
