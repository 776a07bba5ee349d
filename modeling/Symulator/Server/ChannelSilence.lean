import Symulator.Server.GatewayDelivery

/-! # The dispatch channel behind the gateway

A message on the dispatch channel has to come from the area it names, and the area of a session is the one that was
set for it. None ever is. So whatever the clients send, the exchanges stay as they were, nothing is written for a
telegram, and no session gets a copy of one.
-/

namespace Symulator.Server

open Symulator.Library Symulator.Engine

set_option autoImplicit false

def Outgoing.paired? : Outgoing → Option (List Byte)
  | .paired frame => some frame
  | .own _ | .shared _ => none

namespace TransportGateway

variable {codec : GatewayCodec}

/-- No area has the empty name, so a sender without an area is not admitted. -/
theorem admitted_nowhere (payload : List Byte) (senderClientId : String) (timestampUs : UInt64) :
    DispatchChannel.admitted codec.readChannel { payload, senderClientId, senderAreaId := "", timestampUs } = none := by
  unfold DispatchChannel.admitted
  split
  · rfl
  · split
    · rfl
    · rename_i msg _ _
      have hNamed : toString msg.srcAreaUid ≠ "" := by
        intro hEmpty
        have hRead := stoull_toString msg.srcAreaUid
        rw [hEmpty, show stoull "" = .error .invalidArgument from rfl] at hRead
        cases hRead
      exact if_pos hNamed

theorem onDispatch_nowhere (clock : UInt64) (g : TransportGateway) (payload : List Byte) (senderClientId : String) :
    onDispatch codec clock g payload senderClientId "" = (g, []) := by
  rw [onDispatch, DispatchChannel.onInbound, admitted_nowhere]
  simp

theorem takeEffects_nowhere (clock : Nat → UInt64) (session : Nat) {effects : List (SessionEffect Command)}
    (h : ∀ payload playerId areaId, SessionEffect.dispatch payload playerId areaId ∈ effects → areaId = "")
    (g : TransportGateway) : (takeEffects codec clock session g effects).1.coordinator = g.coordinator ∧
      (takeEffects codec clock session g effects).1.dbWrites = g.dbWrites ∧
      (takeEffects codec clock session g effects).1.threw = g.threw ∧
      Executor.handlersOf (takeEffects codec clock session g effects).2 = [] := by
  induction effects generalizing g with
  | nil => exact ⟨rfl, rfl, rfl, rfl⟩
  | cons effect effects ih =>
    have hRest := ih fun payload playerId areaId hIn => h payload playerId areaId (List.mem_cons_of_mem _ hIn)
    cases effect with
    | send frame => exact hRest g
    | push cmdMeta cmd => exact hRest _
    | dispatch payload playerId areaId =>
      cases h payload playerId areaId List.mem_cons_self
      rw [takeEffects, onDispatch_nowhere]
      exact hRest g

/-- The dispatch channel is as it was at the start. -/
structure Unused (coordinator : DispatchCoordinator) (g : TransportGateway) : Prop where
  coordinator : g.coordinator = coordinator
  dbWrites : g.dbWrites = []
  threw : g.threw = false

theorem Unused.exec {coordinator : DispatchCoordinator} {g : TransportGateway} {writes : List SocketWrite}
    (h : Unused coordinator g) (hReplied : Replied codec g writes) (event : IoEvent) :
    Unused coordinator (g.exec codec (.event event)).1 ∧ Executor.handlersOf (g.exec codec (.event event)).2 = [] ∧
      ∀ w ∈ Executor.itemsOf (g.exec codec (.event event)).2, w.content.paired? = none := by
  cases event with
  | accept | readError => exact ⟨⟨h.coordinator, h.dbWrites, h.threw⟩, rfl, List.forall_mem_nil _⟩
  | read session bytes around clock =>
    cases hc : g.connections[session]? with
    | none =>
      rw [exec_read_of_none hc]
      exact ⟨h, rfl, List.forall_mem_nil _⟩
    | some c =>
      have hHistory : History codec.session (c.receive codec.session around bytes).session
          (c.receive codec.session around bytes).handled := (hReplied.history session c hc).receive bytes
      have hAreas : ∀ payload playerId areaId, SessionEffect.dispatch payload playerId areaId ∈
          newEffects c (c.receive codec.session around bytes) → areaId = "" := by
        intro payload playerId areaId hIn
        obtain ⟨handled, hHandled, hIn⟩ := List.mem_flatMap.mp hIn
        exact hHistory.dispatched handled (List.drop_subset _ _ hHandled) payload playerId areaId hIn
      rw [(@exec_read codec _ _ _ hc bytes around clock).2.2]
      rw [TransportGateway.exec, onRead, hc]
      obtain ⟨hCoordinator, hWrites, hThrew, hHandlers⟩ := @takeEffects_nowhere codec clock session _ hAreas
        { g with
          connections := g.connections.set session (c.receive codec.session around bytes)
          sessions := if (c.receive codec.session around bytes).session.isOpen then g.sessions
            else g.sessions.filter (· ≠ session) }
      refine ⟨⟨hCoordinator.trans h.coordinator, hWrites.trans h.dbWrites, hThrew.trans h.threw⟩,
        hHandlers, fun w hw => ?_⟩
      obtain ⟨content, hContent, rfl⟩ := List.mem_map.mp hw
      obtain ⟨frame, -, rfl⟩ := List.mem_map.mp hContent
      rfl
  | broadcast frame =>
    rw [TransportGateway.exec, itemsOf_map_inr]
    refine ⟨h, ?_, fun w hw => ?_⟩
    · simp [Executor.handlersOf, List.filterMap_map, Function.comp_def]
    · obtain ⟨session, -, rfl⟩ := List.mem_map.mp hw
      rfl

end TransportGateway

/-- Every handler that waits was posted by others, and no write is a copy of a telegram. -/
structure IoThread.Silent (codec : GatewayCodec) (coordinator : DispatchCoordinator) (e : IoThread) : Prop where
  unused : e.state.Unused coordinator
  replied : ∃ writes, TransportGateway.Replied codec e.state writes
  events : ∀ h ∈ Executor.handlersOf e.waiting, ∃ event, h = .event event
  posting : Executor.handlersOf e.posting = []
  writes : ∀ w ∈ e.out ++ Executor.itemsOf (e.waiting ++ e.posting), w.content.paired? = none

namespace IoThread.Silent

variable {codec : GatewayCodec} {coordinator : DispatchCoordinator}

theorem step {e e' : IoThread} {a : ExecutorAction IoEvent} (h : Silent codec coordinator e)
    (hStep : e.step codec a = some e') : Silent codec coordinator e' := by
  rcases Executor.step_cases (IoThread.step_executor hStep).2 with ⟨event, rfl, rfl⟩ |
    ⟨posted, posting, rfl, hPosting, rfl⟩ |
    ⟨handler, waiting, rfl, hPosting, hWaiting, -, rfl⟩ | ⟨item, waiting, rfl, hPosting, hWaiting, -, rfl⟩ | ⟨rfl, rfl⟩
  · refine ⟨h.unused, h.replied, fun t ht => ?_, h.posting, fun w hw => h.writes w ?_⟩
    · rw [Executor.handlersOf_append] at ht
      rcases List.mem_append.mp ht with ht | ht
      · exact h.events t ht
      · exact ⟨event, List.mem_singleton.mp ht⟩
    · simpa using hw
  · have hNone : Executor.handlersOf [posted] ++ Executor.handlersOf posting = [] := by
      rw [← Executor.handlersOf_append, List.singleton_append, ← hPosting]
      exact h.posting
    obtain ⟨hFirst, hRest⟩ := List.append_eq_nil_iff.mp hNone
    refine ⟨h.unused, h.replied, fun t ht => h.events t ?_, hRest, fun w hw => h.writes w ?_⟩
    · rw [Executor.handlersOf_append, hFirst, List.append_nil] at ht
      exact ht
    · rw [hPosting]
      simpa using hw
  · have hFirst := h.events handler (by simp [hWaiting])
    obtain ⟨event, rfl⟩ := hFirst
    obtain ⟨writes, hReplied⟩ := h.replied
    obtain ⟨hUnused, hHandlers, hItems⟩ := h.unused.exec hReplied event
    refine ⟨hUnused, ⟨_, hReplied.exec _⟩, fun t ht => h.events t (by simp [hWaiting, ht]), hHandlers, fun w hw => ?_⟩
    rw [Executor.itemsOf_append, ← List.append_assoc] at hw
    rcases List.mem_append.mp hw with hOld | hNew
    · exact h.writes w (by simpa [hWaiting, hPosting] using hOld)
    · exact hItems w hNew
  · refine ⟨h.unused, h.replied, fun t ht => h.events t (by simpa [hWaiting] using ht), h.posting,
      fun w hw => h.writes w ?_⟩
    simpa [hWaiting] using hw
  · exact ⟨h.unused, h.replied, h.events, h.posting, h.writes⟩

theorem run {actions : List (ExecutorAction IoEvent)} {e : IoThread}
    (h : Library.run (IoThread.step codec) (IoThread.start coordinator) actions = some e) :
    Silent codec coordinator e := by
  refine invariant (IoThread.Silent codec coordinator) (fun _ _ _ hSilent hStep => hSilent.step hStep) ?_ h
  exact ⟨⟨rfl, rfl, rfl⟩, ⟨[], TransportGateway.replied_start coordinator⟩, List.forall_mem_nil _, rfl,
    List.forall_mem_nil _⟩

end IoThread.Silent

/-- No client can use the dispatch channel: in every run of the gateway the exchanges stay as they were at the start,
nothing is written to the database for a telegram, and no socket gets the copy of one. -/
theorem dispatchChannel_silent (codec : GatewayCodec) {coordinator : DispatchCoordinator}
    {actions : List (ExecutorAction IoEvent)} {e : IoThread}
    (h : run (IoThread.step codec) (IoThread.start coordinator) actions = some e) :
    e.state.coordinator = coordinator ∧ e.state.dbWrites = [] ∧
      ∀ session, ∀ content ∈ e.sent session, content.paired? = none := by
  have hSilent := IoThread.Silent.run h
  refine ⟨hSilent.unused.coordinator, hSilent.unused.dbWrites, fun session content hContent => ?_⟩
  rw [IoThread.sent, ← contentsTo_append] at hContent
  obtain ⟨w, hw, rfl⟩ := List.mem_map.mp hContent
  exact hSilent.writes w (List.mem_filter.mp hw).1

/-- Player A names its own area; the message is dropped all the same. -/
theorem dispatchChannel_silent_telegram :
    let codec : GatewayCodec := { plainGateway with readChannel := fun _ => some { srcAreaUid := 1, dstAreaUid := 2 } }
    let telegram : DecodedFrame := { msgType := MsgType.kDispatchChannel, payload := [1] }
    ∃ e, run (IoThread.step codec) (IoThread.start {}) [.enter .accept, .work,
        .enter (.read 0 ((joinFrame [1]).encode ++ telegram.encode) (fun _ => {}) (fun _ => 0)), .work] = some e ∧
      e.state.dbWrites = [] := by
  intro codec telegram
  have hTaken : (run (IoThread.step codec) (IoThread.start {}) [.enter .accept, .work,
      .enter (.read 0 ((joinFrame [1]).encode ++ telegram.encode) (fun _ => {}) (fun _ => 0)),
      .work]).isSome = true := by
    decide +kernel
  obtain ⟨e, hRun⟩ := Option.isSome_iff_exists.mp hTaken
  exact ⟨e, hRun, (dispatchChannel_silent codec hRun).2.1⟩

end Symulator.Server
