import Symulator.Server.GatewayDelivery

/-! # A write to a closed socket

A session that closes closes its socket at once, but what it has sent before is written later, by a task of its own.
Such a write throws, and nothing on the thread of the gateway catches what a task throws. One client can bring this
about whenever it likes: it joins and is refused in one read.
-/

namespace Symulator.Server

open Symulator.Library Symulator.Engine

set_option autoImplicit false

/-- A handshake without a payload, which closes the session. -/
def refusedFrame : DecodedFrame := { msgType := MsgType.kHandshake }

namespace TransportGateway

variable {codec : GatewayCodec}

/-! ## Handlers and the connections they leave alone -/

/-- The handler is about the connection. -/
def Concerns (session : Nat) : IoHandler → Prop
  | .event (.read other _ _ _) | .event (.readError other) => other = session
  | .event .accept | .event (.broadcast _) | .broadcastToPair _ => False

theorem connections_exec {g : TransportGateway} {session : Nat} {handler : IoHandler} (h : ¬ Concerns session handler)
    (hLt : session < g.connections.length) :
    (g.exec codec handler).1.connections[session]? = g.connections[session]? := by
  cases handler with
  | event event =>
    cases event with
    | accept => exact List.getElem?_append_left hLt
    | read other bytes around clock =>
      cases hc : g.connections[other]? with
      | none => rw [exec_read_of_none hc]
      | some c =>
        rw [(@exec_read codec _ _ _ hc bytes around clock).1]
        exact List.getElem?_set_ne h
    | readError other =>
      have hOther : other ≠ session := h
      simp [exec, onReadError, hOther]
    | broadcast frame => rfl
  | broadcastToPair b => rfl

theorem length_exec (g : TransportGateway) (handler : IoHandler) :
    g.connections.length ≤ (g.exec codec handler).1.connections.length := by
  cases handler with
  | event event =>
    cases event with
    | accept => simp [exec]
    | read session bytes around clock =>
      cases hc : g.connections[session]? with
      | none => rw [exec_read_of_none hc]
      | some c => rw [(@exec_read codec _ _ _ hc bytes around clock).1, List.length_set]
    | readError session => simp [exec, onReadError]
    | broadcast frame => exact le_rfl
  | broadcastToPair b => exact le_rfl

/-- The connection has been accepted and its socket closed. -/
def IsShut (session : Nat) (g : TransportGateway) : Prop :=
  ∃ c, g.connections[session]? = some c ∧ c.session.isOpen = false

theorem IsShut.exec {session : Nat} {g : TransportGateway} (h : IsShut session g) (handler : IoHandler) :
    IsShut session (g.exec codec handler).1 := by
  obtain ⟨c, hc, hShut⟩ := h
  have hLt := (List.getElem?_eq_some_iff.mp hc).1
  by_cases hConcerns : Concerns session handler
  · cases handler with
    | event event =>
      cases event with
      | accept | broadcast => exact hConcerns.elim
      | read other bytes around clock =>
        cases hConcerns
        have hDeaf : c.receive codec.session around bytes = c := by
          rw [Connection.receive, if_neg (by simp [hShut])]
        refine ⟨c, ?_, hShut⟩
        rw [(@exec_read codec _ _ _ hc bytes around clock).1, hDeaf, List.getElem?_set_self hLt]
      | readError other =>
        cases hConcerns
        refine ⟨{ c with reading := false }, ?_, hShut⟩
        simp [TransportGateway.exec, onReadError, hc]
    | broadcastToPair b => exact hConcerns.elim
  · exact ⟨c, (connections_exec hConcerns hLt).trans hc, hShut⟩

/-! ## One read of a new session -/

/-- The session answers the handshake, and closes over the frame behind it. -/
theorem receive_join_refused {payload : List Byte} {playerId : String} (hPayload : payload ≠ [])
    (hLength : payload.length ≤ kMaxPayloadLen.toNat) (hNames : NamesPlayer codec.session (joinFrame payload) playerId)
    (around : Nat → Surroundings) :
    (({} : Connection Command).receive codec.session around
        ((joinFrame payload).encode ++ refusedFrame.encode)).session.isOpen = false ∧
      ∃ ack, newEffects ({} : Connection Command) (({} : Connection Command).receive codec.session around
        ((joinFrame payload).encode ++ refusedFrame.encode)) = [.send ack] := by
  have hFrames : frameReader.readAll ((joinFrame payload).encode ++ refusedFrame.encode) =
      ([joinFrame payload, refusedFrame], []) := by
    have hEach : ∀ frame ∈ [joinFrame payload, refusedFrame], ∀ rest,
        frameReader.read (frame.encode ++ rest) = some (frame, frame.encode.length) := by
      intro frame hIn rest
      refine frameReader_read ?_ rest
      rcases List.mem_pair.mp hIn with rfl | rfl
      · exact hLength
      · decide
    have hAll := StreamReader.readAll_flatMap hEach []
    have hNone : frameReader.readAll [] = ([], []) :=
      StreamReader.readAll_of_none (frameReader_read_of_not_ok (by decide))
    rw [hNone] at hAll
    simpa using hAll
  obtain ⟨-, hs, hRead, hPlayer, hToken⟩ := hNames
  obtain ⟨token, hToken⟩ := Option.isSome_iff_exists.mp hToken
  have hJoin : ∃ s ack,
      ClientSession.handleFrame codec.session (around 0) {} (joinFrame payload) = (s, [.send ack]) := by
    have hType : (joinFrame payload).msgType = MsgType.kHandshake := rfl
    have hNotEmpty : ¬ (joinFrame payload).payload = [] := hPayload
    unfold ClientSession.handleFrame ClientSession.handleHandshake
    rw [if_pos hType, if_neg hNotEmpty, hRead]
    simp only [hPlayer, hToken]
    exact ⟨_, _, rfl⟩
  obtain ⟨s, ack, hJoin⟩ := hJoin
  have hRefuse : ClientSession.handleFrame codec.session (around 1) s refusedFrame = (s.close, []) := rfl
  unfold Connection.receive
  rw [if_pos ⟨rfl, rfl⟩]
  unfold Connection.onRead Connection.processBuffer
  dsimp only
  rw [List.nil_append, Connection.processFrames_eq, hFrames]
  have hHandled : Connection.handleAll codec.session around
      { readBuf := (joinFrame payload).encode ++ refusedFrame.encode }
      [joinFrame payload, refusedFrame] =
        { session := s.close
          readBuf := (joinFrame payload).encode ++ refusedFrame.encode
          handled :=
            [{ frame := joinFrame payload, before := .handshake, after := s.info.state, effects := [.send ack] },
            { frame := refusedFrame, before := s.info.state, after := s.close.info.state, effects := [] }] } := by
    simp only [Connection.handleAll, List.foldl_cons, List.foldl_nil, Connection.handle, List.length_nil, hJoin,
      List.nil_append, List.length_cons, Nat.zero_add, hRefuse, List.cons_append]
  rw [hHandled]
  have hSound : ¬ Broken [] := by decide
  simp only [Connection.closeIfBroken, if_neg hSound]
  exact ⟨rfl, ack, rfl⟩

end TransportGateway

namespace IoThread

variable {codec : GatewayCodec}

/-- No handler that waits is about a connection that is still to be accepted. -/
def Addressed (e : IoThread) : Prop :=
  ∀ h ∈ Executor.handlersOf (e.waiting ++ e.posting), ∀ session, e.state.connections.length ≤ session →
    ¬ TransportGateway.Concerns session h

theorem Addressed.step {e e' : IoThread} {a : ExecutorAction IoEvent} (h : e.Addressed)
    (hStep : e.step codec a = some e') :
    e'.Addressed := by
  obtain ⟨hPossible, hStep⟩ := IoThread.step_executor hStep
  rcases Executor.step_cases hStep with ⟨event, rfl, rfl⟩ | ⟨posted, posting, rfl, hPosting, rfl⟩ |
    ⟨handler, waiting, rfl, hPosting, hWaiting, -, rfl⟩ | ⟨item, waiting, rfl, hPosting, hWaiting, -, rfl⟩ | ⟨rfl, rfl⟩
  · intro t ht session hLength
    simp only [Executor.handlersOf_append, Executor.handlersOf_inl, Executor.handlersOf_nil, List.append_assoc,
      List.mem_append, List.mem_singleton] at ht
    rcases ht with hOld | rfl | hOld
    · exact h t (by simp [hOld]) session hLength
    · cases event with
      | accept | broadcast => exact id
      | read other | readError other =>
        have hOther : other < e.state.connections.length := of_decide_eq_true hPossible
        intro hSame
        cases hSame
        dsimp only at hLength
        omega
    · exact h t (by simp [hOld]) session hLength
  · intro t ht session hLength
    refine h t ?_ session hLength
    rw [hPosting]
    simpa using ht
  · intro t ht session hLength
    rw [Executor.handlersOf_append] at ht
    rcases List.mem_append.mp ht with ht | ht
    · refine h t (by simp [hWaiting, ht]) session (le_trans ?_ hLength)
      exact TransportGateway.length_exec _ _
    · obtain ⟨b, rfl⟩ := TransportGateway.posts_pair _ _ t ht
      exact id
  · intro t ht session hLength
    refine h t ?_ session hLength
    simpa [hWaiting] using ht
  · exact h

theorem run_works {e e' : IoThread} {n : Nat} (h : run (Executor.step .event (TransportGateway.exec codec)
    (TransportGateway.mayTake codec)) e (List.replicate n .work) = some e') :
    run (IoThread.step codec) e (List.replicate n .work) = some e' := by
  induction n generalizing e with
  | zero => exact h
  | succ n ih =>
    obtain ⟨next, hFirst, hRest⟩ := run_cons.mp h
    exact run_cons.mpr ⟨next, hFirst, ih hRest⟩

/-! ## The thread gets there -/

/-- A write that waits for a socket that is closed throws at the latest when its turn comes. -/
theorem exists_throws_of_shut {e : IoThread} {front back : List (IoHandler ⊕ SocketWrite)} {w : SocketWrite}
    (hHalted : e.halted = false) (hWaiting : e.waiting = front ++ .inr w :: back)
    (hShut : TransportGateway.IsShut w.session e.state) :
    ∃ n e', run (IoThread.step codec) e (List.replicate n .work) = some e' ∧
      Executor.Throws (TransportGateway.mayTake codec) e' := by
  obtain ⟨n, e', hRun, hEnd⟩ := @Executor.exists_front _ _ _ _ .event (TransportGateway.exec codec)
    (TransportGateway.mayTake codec) (TransportGateway.IsShut w.session) front _ e hHalted hWaiting
    (fun h _ _ hStill => hStill.exec h) hShut
  refine ⟨n, e', run_works hRun, ?_⟩
  rcases hEnd with hThrows | ⟨hStill, hPosting, ⟨later, hLater⟩, c, hc, hClosed⟩
  · exact hThrows
  · refine ⟨hStill, hPosting, .inr w, _, hLater, ?_⟩
    simp [TransportGateway.mayTake, hc, hClosed]

/-- A session that joins and is refused in one read, before anything else has come in on its connection. -/
theorem exists_throws_of_read {e : IoThread} {front : List (IoHandler ⊕ SocketWrite)} {session : Nat}
    {payload : List Byte} {playerId : String} (hPayload : payload ≠ [])
    (hLength : payload.length ≤ kMaxPayloadLen.toNat)
    (hNames : NamesPlayer codec.session (joinFrame payload) playerId) {around : Nat → Surroundings}
    {clock : Nat → UInt64} (hHalted : e.halted = false) (hWaiting : e.waiting = front ++
      [.inl (.event (.read session ((joinFrame payload).encode ++ refusedFrame.encode) around clock))])
    (hNew : e.state.connections[session]? = some {})
    (hFront : ∀ h ∈ Executor.handlersOf front, ¬ TransportGateway.Concerns session h) :
    ∃ n e', run (IoThread.step codec) e (List.replicate n .work) = some e' ∧
      Executor.Throws (TransportGateway.mayTake codec) e' := by
  obtain ⟨n, e₁, hRun, hEnd⟩ := @Executor.exists_front _ _ _ _ .event (TransportGateway.exec codec)
    (TransportGateway.mayTake codec) (fun g => g.connections[session]? = some {}) front _ e hHalted hWaiting
    (fun h hIn g hStill =>
      (TransportGateway.connections_exec (hFront h hIn) (List.getElem?_eq_some_iff.mp hStill).1).trans hStill)
    hNew
  rcases hEnd with hThrows | ⟨hStill, hPosting, ⟨later, hLater⟩, hConnection⟩
  · exact ⟨n, e₁, run_works hRun, hThrows⟩
  cases hTake : TransportGateway.mayTake codec e₁.state
      (.inl (.event (.read session ((joinFrame payload).encode ++ refusedFrame.encode) around clock))) with
  | false => exact ⟨n, e₁, run_works hRun, hStill, hPosting, _, _, hLater, hTake⟩
  | true =>
    have hRead := @Executor.work_handler _ _ _ _ .event (TransportGateway.exec codec) (TransportGateway.mayTake codec)
      e₁ _ _
      hStill hPosting hLater hTake
    obtain ⟨hShut, ack, hEffects⟩ := TransportGateway.receive_join_refused hPayload hLength hNames around
    -- what the read posts is the answer to the first handshake
    have hPosts : (e₁.state.exec codec
        (.event (.read session ((joinFrame payload).encode ++ refusedFrame.encode) around clock))).2 =
          [.inr { session, content := .own ack }] := by
      rw [TransportGateway.exec, TransportGateway.onRead, hConnection]
      dsimp only
      rw [hEffects]
      rfl
    have hClosed : TransportGateway.IsShut session (e₁.state.exec codec
        (.event (.read session ((joinFrame payload).encode ++ refusedFrame.encode) around clock))).1 := by
      refine ⟨_, ?_, hShut⟩
      rw [(TransportGateway.exec_read hConnection _ around clock).1]
      exact List.getElem?_set_self (List.getElem?_eq_some_iff.mp hConnection).1
    rw [hPosts] at hRead
    obtain ⟨m, e', hLast, hThrows⟩ := @exists_throws_of_shut codec
      { e₁ with
        state := (e₁.state.exec codec
          (.event (.read session ((joinFrame payload).encode ++ refusedFrame.encode) around clock))).1
        waiting := later ++ [.inr { session, content := .own ack }]
        handled := e₁.handled ++
          [.event (.read session ((joinFrame payload).encode ++ refusedFrame.encode) around clock)]
        queued := e₁.queued ++ [] }
      later [] { session, content := .own ack } hStill rfl hClosed
    refine ⟨n + (1 + (1 + m)), e', ?_, hThrows⟩
    rw [← Executor.replicate_append_work, ← Executor.replicate_append_work, ← Executor.replicate_append_work]
    refine run_append.mpr ⟨e₁, run_works hRun, run_cons.mpr ⟨_, hRead, run_cons.mpr ⟨_, ?_, hLast⟩⟩⟩
    simp [IoThread.step, IoThread.possible, Executor.step, hStill, hPosting, Executor.handlersOf]

end IoThread

/-- From every state the gateway can reach, a client that connects brings the thread to a task that throws: it sends a
handshake that is accepted and, in the same read, one that is not. -/
theorem oneClient_halts (codec : GatewayCodec) {coordinator : DispatchCoordinator}
    {actions : List (ExecutorAction IoEvent)} {e : IoThread}
    (h : run (IoThread.step codec) (IoThread.start coordinator) actions = some e) (hHalted : e.halted = false)
    {payload : List Byte} {playerId : String} (hPayload : payload ≠ [])
    (hLength : payload.length ≤ kMaxPayloadLen.toNat)
    (hNames : NamesPlayer codec.session (joinFrame payload) playerId) (around : Nat → Surroundings)
    (clock : Nat → UInt64) : ∃ more e' session, run (IoThread.step codec) e more = some e' ∧
      Executor.Throws (TransportGateway.mayTake codec) e' ∧ e.state.connections.length ≤ session ∧
      ∀ a ∈ more, a = .work ∨ a = .enter .accept ∨
        a = .enter (.read session ((joinFrame payload).encode ++ refusedFrame.encode) around clock) := by
  have hAccept : e.step codec (.enter .accept) =
      some { e with waiting := e.waiting ++ [.inl (.event .accept)], queued := e.queued ++ [.event .accept] } := by
    simp [IoThread.step, IoThread.possible, Executor.step, hHalted]
  obtain ⟨n, e₁, hRun, hEnd⟩ := @Executor.exists_front _ _ _ _ .event (TransportGateway.exec codec)
    (TransportGateway.mayTake codec) (fun g => e.state.connections.length ≤ g.connections.length) e.waiting
    [.inl (.event .accept)]
    { e with waiting := e.waiting ++ [.inl (.event .accept)], queued := e.queued ++ [.event .accept] }
    hHalted rfl (fun h _ g hStill => hStill.trans (TransportGateway.length_exec g h)) le_rfl
  have hFirst : run (IoThread.step codec) e (.enter .accept :: List.replicate n .work) = some e₁ :=
    run_cons.mpr ⟨_, hAccept, IoThread.run_works hRun⟩
  have hFirstActions : ∀ session, ∀ a ∈ ExecutorAction.enter IoEvent.accept :: List.replicate n .work,
      a = .work ∨ a = .enter .accept ∨
        a = .enter (.read session ((joinFrame payload).encode ++ refusedFrame.encode) around clock) := by
    intro session a ha
    rcases List.mem_cons.mp ha with rfl | ha
    · exact Or.inr (Or.inl rfl)
    · exact Or.inl (List.eq_of_mem_replicate ha)
  rcases hEnd with hThrows | ⟨hStill, hPosting, ⟨later, hLater⟩, hMore⟩
  · exact ⟨_, e₁, e.state.connections.length, hFirst, hThrows, le_rfl, hFirstActions _⟩
  cases hTake : TransportGateway.mayTake codec e₁.state (.inl (.event .accept)) with
  | false =>
    exact ⟨_, e₁, e.state.connections.length, hFirst, ⟨hStill, hPosting, _, _, hLater, hTake⟩, le_rfl, hFirstActions _⟩
  | true =>
    have hTaken := @Executor.work_handler _ _ _ _ .event (TransportGateway.exec codec) (TransportGateway.mayTake codec)
      e₁ _ _
      hStill hPosting hLater hTake
    have hAddressed : IoThread.Addressed e₁ := by
      have hReached := run_append.mpr ⟨e, h, hFirst⟩
      refine invariant IoThread.Addressed (fun _ _ _ hBefore hStep => hBefore.step hStep) ?_ hReached
      exact fun t ht => absurd ht List.not_mem_nil
    let session := e₁.state.connections.length
    let handler : IoHandler := .event (.read session ((joinFrame payload).encode ++ refusedFrame.encode) around clock)
    obtain ⟨m, e', hLast, hThrows⟩ := @IoThread.exists_throws_of_read codec
      { e₁ with
        state := (e₁.state.exec codec (.event .accept)).1
        waiting := later ++ [.inl handler]
        posting := []
        handled := e₁.handled ++ [.event .accept]
        queued := e₁.queued ++ [handler] }
      later session payload playerId hPayload hLength hNames around clock hStill rfl
      (List.getElem?_concat_length) (fun t ht => hAddressed t (by simp [hLater, ht]) session le_rfl)
    refine ⟨(.enter .accept :: List.replicate n .work) ++ .work ::
      .enter (.read session ((joinFrame payload).encode ++ refusedFrame.encode) around clock) :: List.replicate m .work,
      e', session, ?_, hThrows, hMore, ?_⟩
    · refine run_append.mpr ⟨e₁, hFirst, run_cons.mpr ⟨_, hTaken, run_cons.mpr ⟨_, ?_, hLast⟩⟩⟩
      simp [IoThread.step, IoThread.possible, Executor.step, hStill, TransportGateway.exec, session, handler]
    · intro a ha
      rcases List.mem_append.mp ha with ha | ha
      · exact hFirstActions session a ha
      · rcases List.mem_cons.mp ha with rfl | ha
        · exact Or.inl rfl
        · rcases List.mem_cons.mp ha with rfl | ha
          · exact Or.inr (Or.inr rfl)
          · exact Or.inl (List.eq_of_mem_replicate ha)

theorem oneClient_halts_start : ∃ more e', run (IoThread.step plainGateway) (IoThread.start {}) more = some e' ∧
    Executor.Throws (TransportGateway.mayTake plainGateway) e' := by
  obtain ⟨more, e', -, hRun, hThrows, -⟩ := @oneClient_halts plainGateway {} [] (IoThread.start {}) rfl rfl [1] "A"
    (by decide) (by decide) ⟨rfl, _, rfl, rfl, rfl⟩ (fun _ => {}) (fun _ => 0)
  exact ⟨more, e', hRun, hThrows⟩

end Symulator.Server
