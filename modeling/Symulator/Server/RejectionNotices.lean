import Mathlib.Data.List.Perm.Subperm
import Symulator.Server.SessionHistory
import Symulator.Srk.EngineLoop

/-! # Rejection notices

A command is queued under the number its client gave the frame. When the engine rejects it, the notice with that
number goes to every active session, and each client is left to tell by the number whether it is meant. Clients
number their frames each for itself. Frames are on their way for any time: those of the clients until they are handled,
and those of the sessions from when they are posted, over when they are written, until they are received.
-/

namespace Symulator.Server

open Symulator.Library Symulator.Engine Symulator.Srk

set_option autoImplicit false

/-- A frame that tells of a rejected command, and whose command it was. -/
structure RejectionNotice where
  author : Nat
  reqSeqId : BitVec 32
  frame : DecodedFrame

def makeNakFrame (build : ServerMessage → List Byte) (seqId : BitVec 32) (v : InterlockingViolation) :
    DecodedFrame where
  msgType := MsgType.kCommandNak
  flags := 0
  seqId := 0
  payload := build (.commandNak seqId v.reasonCode v.reasonText)

/-- What a session writes to its client. -/
inductive ServerFrame
  | reply (frame : DecodedFrame)
  | notice (n : RejectionNotice)

def ServerFrame.notice? : ServerFrame → Option RejectionNotice
  | .notice n => some n
  | .reply _ => none

/-- What is posted to the thread of the gateway. -/
inductive GatewayTask
  | broadcast (n : RejectionNotice)
  | write (client : Nat) (content : ServerFrame)

/-- What a step of the clients, the engine or the transport does. The rest of a tick is the engine's. -/
inductive GatewayAction (φ : Type)
  | connect
  | send (client : Nat) (frame : DecodedFrame)
  | handle (client : Nat) (around : Surroundings)
  | disconnect (client : Nat)
  | pop
  | engine (a : Action φ)
  | work
  | receive (client : Nat)

/-- The world with the sessions of its clients, the command queue and what is posted to the gateway. Clients are
numbered as they are accepted. Kept as well are the frames on their way from and to each client, the numbers of the
commands it has sent that are not resolved, and for each command in the queue its author. -/
structure GatewayWorld (φ : Type) where
  world : World φ
  accepted : Nat := 0
  registered : List Nat := []
  lost : List Nat := []
  sessions : Nat → ClientSession := fun _ => {}
  sent : Nat → List DecodedFrame := fun _ => []
  queue : PriorityCommandQueue (Nat × EnvelopedCommand) := {}
  posted : List GatewayTask := []
  incoming : Nat → List ServerFrame := fun _ => []
  unresolved : Nat → List (BitVec 32) := fun _ => []
  halted : Bool := false

section Effects

variable {γ : Type}

def pushesOf (effects : List (SessionEffect Command)) : List EnvelopedCommand :=
  effects.filterMap fun effect =>
    match effect with
    | .push cmdMeta payload => some { cmdMeta, payload }
    | .send _ | .dispatch .. => none

end Effects

namespace GatewayWorld

variable {φ : Type} (dynamics : TrainDynamics φ) (codec : SessionCodec Command)

/-- A rejection among the replies is of the frame replied to. -/
def serverFrame (client : Nat) (frame reply : DecodedFrame) : ServerFrame :=
  if reply.msgType = MsgType.kCommandNak then .notice { author := client, reqSeqId := frame.seqId, frame := reply }
  else .reply reply

/-- Broadcasts are written to the sessions that are registered and active. -/
def listeners (s : GatewayWorld φ) : List Nat := s.registered.filter fun client => (s.sessions client).isActive

/-- The thread of the gateway takes what is posted in turn. Writing to a socket that was closed ends the server. -/
def work (s : GatewayWorld φ) : Option (GatewayWorld φ) :=
  match s.posted with
  | [] => none
  | .broadcast n :: posted =>
    some { s with posted := posted ++ s.listeners.map fun client => .write client (.notice n) }
  | .write client content :: posted =>
    if (s.sessions client).isOpen then
      some { s with posted, incoming := Function.update s.incoming client (s.incoming client ++ [content]) }
    else some { s with halted := true }

def resolve (s : GatewayWorld φ) (client : Nat) (n : BitVec 32) : Nat → List (BitVec 32) :=
  Function.update s.unresolved client ((s.unresolved client).erase n)

/-- A command is resolved when it is carried out, or when its author has the notice of its rejection. -/
def step (s : GatewayWorld φ) : GatewayAction φ → Option (GatewayWorld φ)
  | .connect =>
    if s.halted then none
    else some { s with accepted := s.accepted + 1, registered := s.registered ++ [s.accepted] }
  | .send client frame =>
    if client < s.accepted ∧ client ∉ s.lost then
      some
        { s with
          sent := Function.update s.sent client (s.sent client ++ [frame])
          unresolved :=
            if frame.msgType = MsgType.kCommand then
              Function.update s.unresolved client (s.unresolved client ++ [frame.seqId])
            else s.unresolved }
    else none
  | .handle client around =>
    if s.halted ∨ client ∈ s.lost then none
    else
      match s.sent client with
      | [] => none
      | frame :: sent =>
        let result := (s.sessions client).handleFrame codec around frame
        some
          { s with
            sessions := Function.update s.sessions client result.1
            registered := if result.1.isOpen then s.registered else s.registered.filter (· ≠ client)
            sent := Function.update s.sent client sent
            queue := (pushesOf result.2).foldl (fun queue env => queue.push (client, env) .normal) s.queue
            posted := s.posted ++ (sendsOf result.2).map fun reply => .write client (serverFrame client frame reply) }
  | .disconnect client =>
    if s.halted then none
    else some { s with registered := s.registered.filter (· ≠ client), lost := client :: s.lost }
  | .pop =>
    if s.halted then none
    else
      match s.queue.tryPop with
      | none => none
      | some ((author, env), queue) =>
        match s.world.control.checkCommand s.world.state env.payload with
        | some v =>
          let frame := makeNakFrame codec.build env.cmdMeta.seqId v
          some
            { s with
              queue
              posted := s.posted ++ [.broadcast { author, reqSeqId := env.cmdMeta.seqId, frame }] }
        | none =>
          (s.world.step dynamics (.command env.payload)).map fun world =>
            { s with world, queue, unresolved := s.resolve author env.cmdMeta.seqId }
  | .engine a =>
    if s.halted then none
    else
      match a with
      | .command _ => none
      | .onTick | .fleetCommand _ | .tickTrains | .advanceTick =>
        (s.world.step dynamics a).map fun world => { s with world }
  | .work => if s.halted then none else s.work
  | .receive client =>
    match s.incoming client with
    | [] => none
    | content :: incoming =>
      some
        { s with
          incoming := Function.update s.incoming client incoming
          unresolved :=
            match content with
            | .notice n => if n.author = client then s.resolve client n.reqSeqId else s.unresolved
            | .reply _ => s.unresolved }

/-- A client that receives a rejection notice under the number of an unresolved command of its own is told of a command
of its own. -/
def ReachesAuthor (s : GatewayWorld φ) (a : GatewayAction φ) (_ : GatewayWorld φ) : Prop :=
  ∀ client n incoming, a = .receive client → s.incoming client = .notice n :: incoming →
    n.reqSeqId ∈ s.unresolved client → n.author = client

/-- The notice is written for the client, or may still be. -/
def OnItsWay (s : GatewayWorld φ) (client : Nat) (n : RejectionNotice) : Prop :=
  .notice n ∈ s.incoming client ∨ .write client (.notice n) ∈ s.posted ∨
    client ∈ s.registered ∧ .broadcast n ∈ s.posted

/-- No client sends a command under a number of which a notice about another client's command is on its way to it, and
when a command is rejected no other client that is registered has an unresolved command of its number. -/
def NumberClear (s : GatewayWorld φ) : GatewayAction φ → Prop
  | .send client frame =>
    frame.msgType = MsgType.kCommand → ∀ n, s.OnItsWay client n → n.reqSeqId = frame.seqId → n.author = client
  | .pop =>
    ∀ author env queue, s.queue.tryPop = some ((author, env), queue) →
      s.world.control.checkCommand s.world.state env.payload ≠ none →
        ∀ client ∈ s.registered, env.cmdMeta.seqId ∈ s.unresolved client → client = author
  | .connect | .handle .. | .disconnect _ | .engine _ | .work | .receive _ => True

/-- No two clients send a command under the same number. -/
def OwnNumbers (actions : List (GatewayAction φ)) : Prop :=
  ∀ client frame other frame', .send client frame ∈ actions → .send other frame' ∈ actions →
    frame.msgType = MsgType.kCommand → frame'.msgType = MsgType.kCommand → frame.seqId = frame'.seqId → client = other

end GatewayWorld

/-! ## What a session queues -/

section Session

variable {codec : SessionCodec Command} {around : Surroundings} {s : ClientSession} {frame : DecodedFrame}

/-- A session queues at most the command of the frame it handles, under the number of the frame. -/
theorem pushesOf_handleFrame : pushesOf (s.handleFrame codec around frame).2 = [] ∨
    frame.msgType = MsgType.kCommand ∧
      ∃ env, pushesOf (s.handleFrame codec around frame).2 = [env] ∧ env.cmdMeta.seqId = frame.seqId := by
  have hReacts := @handleFrame_reacts Command codec around s frame
  generalize (s.handleFrame codec around frame).1 = s' at hReacts
  generalize (s.handleFrame codec around frame).2 = effects at hReacts
  cases hReacts with
  | refuse | join | answer | dispatch | ignore => exact Or.inl rfl
  | snapshot chunks => exact Or.inl (by simp [pushesOf, List.filterMap_map])
  | command hType => exact Or.inr ⟨hType, _, rfl, rfl⟩

theorem not_nak_nil : ∀ reply ∈ sendsOf ([] : List (SessionEffect Command)), reply.msgType ≠ MsgType.kCommandNak :=
  List.forall_mem_nil _

theorem not_nak_sendFrame {msgType : Byte} (h : msgType ≠ MsgType.kCommandNak) (flags : Byte) (payload : List Byte) :
    ∀ reply ∈ sendsOf (s.sendFrame msgType flags payload : _ × List (SessionEffect Command)).2,
      reply.msgType ≠ MsgType.kCommandNak := by
  intro reply hReply
  rw [List.mem_singleton.mp hReply]
  exact h

/-- A session replies with a rejection to commands only. -/
theorem not_nak_of_other (hOther : frame.msgType ≠ MsgType.kCommand) :
    ∀ reply ∈ sendsOf (s.handleFrame codec around frame).2, reply.msgType ≠ MsgType.kCommandNak := by
  unfold ClientSession.handleFrame
  split
  · unfold ClientSession.handleHandshake
    split
    · exact not_nak_nil
    · split
      · exact not_nak_nil
      · split
        · exact not_nak_sendFrame (by decide) _ _
        · exact not_nak_nil
  split
  · split
    · unfold ClientSession.handleSnapshotRequest
      split
      · exact not_nak_nil
      · intro reply hReply
        simp only [sendsOf, List.filterMap_map, snapshotFrames, List.mem_filterMap, List.mem_mapIdx] at hReply
        obtain ⟨_, ⟨_, _, rfl⟩, hSame⟩ := hReply
        cases hSame
        exact (by decide : MsgType.kSnapshotChunk ≠ MsgType.kCommandNak)
    · exact not_nak_nil
  split
  · exact @not_nak_sendFrame s MsgType.kHeartbeatAck (by decide) 0 _
  split
  · split
    · unfold ClientSession.handleDispatchChannel
      split <;> exact not_nak_nil
    · exact not_nak_nil
  · exact not_nak_nil

end Session

/-! ## Numbers that are clear -/

namespace GatewayWorld

variable {φ : Type} {dynamics : TrainDynamics φ} {codec : SessionCodec Command} {s s' : GatewayWorld φ}

/-- Clients that are yet to come have sent nothing, and a notice on its way to a client under the number of an
unresolved command of its own is about a command of its own. -/
structure Clear (s : GatewayWorld φ) : Prop where
  fresh : ∀ client, s.accepted ≤ client → s.unresolved client = []
  own : ∀ client n, s.OnItsWay client n → n.reqSeqId ∈ s.unresolved client → n.author = client

theorem mem_of_resolve {author client : Nat} {n m : BitVec 32} (h : m ∈ s.resolve author n client) :
    m ∈ s.unresolved client := by
  unfold resolve at h
  rw [Function.update_apply] at h
  split at h
  · rename_i hClient
    rw [hClient]
    exact List.mem_of_mem_erase h
  · exact h

/-- Numbers are resolved, and no notice gets on its way but to its author or to clients whose numbers it does not
bear. -/
theorem Clear.settle (h : Clear s) (hAccepted : s.accepted ≤ s'.accepted)
    (hUnresolved : ∀ client m, m ∈ s'.unresolved client → m ∈ s.unresolved client)
    (hWay : ∀ client n, s'.OnItsWay client n →
      s.OnItsWay client n ∨ n.author = client ∨ n.reqSeqId ∉ s.unresolved client) : Clear s' where
  fresh client hClient := by
    refine List.eq_nil_iff_forall_not_mem.mpr fun m hm => ?_
    have hNone := hUnresolved client m hm
    rw [h.fresh client (hAccepted.trans hClient)] at hNone
    exact List.not_mem_nil hNone
  own client n hOn hIn := by
    have hBefore := hUnresolved client n.reqSeqId hIn
    rcases hWay client n hOn with hOld | hAuthor | hOther
    · exact h.own client n hOld hBefore
    · exact hAuthor
    · exact absurd hBefore hOther

theorem Clear.connect (h : Clear s) (hStep : s.step dynamics codec .connect = some s') : Clear s' := by
  simp only [GatewayWorld.step] at hStep
  split at hStep
  · cases hStep
  · cases hStep
    refine h.settle (Nat.le_succ _) (fun _ _ hm => hm) fun client n hOn => ?_
    rcases hOn with hIncoming | hWrite | ⟨hRegistered, hBroadcast⟩
    · exact Or.inl (Or.inl hIncoming)
    · exact Or.inl (Or.inr (Or.inl hWrite))
    · rcases List.mem_append.mp hRegistered with hOld | hNew
      · exact Or.inl (Or.inr (Or.inr ⟨hOld, hBroadcast⟩))
      · rw [List.mem_singleton.mp hNew]
        refine Or.inr (Or.inr fun hIn => ?_)
        rw [h.fresh s.accepted le_rfl] at hIn
        exact List.not_mem_nil hIn

theorem Clear.send (h : Clear s) {client : Nat} {frame : DecodedFrame} (hClear : NumberClear s (.send client frame))
    (hStep : s.step dynamics codec (.send client frame) = some s') : Clear s' := by
  simp only [GatewayWorld.step] at hStep
  split at hStep
  · rename_i hConnected
    cases hStep
    by_cases hCommand : frame.msgType = MsgType.kCommand
    · simp only [if_pos hCommand]
      refine ⟨fun other hOther => ?_, fun other n hOn hIn => ?_⟩
      · have hNot : other ≠ client := fun hSame => absurd (hSame ▸ hOther) (Nat.not_le.mpr hConnected.1)
        exact (Function.update_of_ne hNot _ _).trans (h.fresh other hOther)
      · dsimp only at hIn
        by_cases hOther : other = client
        · subst hOther
          rw [Function.update_self] at hIn
          rcases List.mem_append.mp hIn with hOld | hNew
          · exact h.own other n hOn hOld
          · exact hClear hCommand n hOn (List.mem_singleton.mp hNew)
        · rw [Function.update_of_ne hOther] at hIn
          exact h.own other n hOn hIn
    · simp only [if_neg hCommand]
      exact h.settle le_rfl (fun _ _ hm => hm) fun _ _ hOn => Or.inl hOn
  · cases hStep

theorem author_of_serverFrame {client : Nat} {frame reply : DecodedFrame} {n : RejectionNotice}
    (h : serverFrame client frame reply = .notice n) : n.author = client ∧ n.reqSeqId = frame.seqId ∧
      reply.msgType = MsgType.kCommandNak := by
  unfold serverFrame at h
  split at h
  · rename_i hNak
    cases h
    exact ⟨rfl, rfl, hNak⟩
  · cases h

theorem Clear.handle (h : Clear s) {client : Nat} {around : Surroundings}
    (hStep : s.step dynamics codec (.handle client around) = some s') : Clear s' := by
  simp only [GatewayWorld.step] at hStep
  split at hStep
  · cases hStep
  · split at hStep
    · cases hStep
    · rename_i frame sent hSent
      cases hStep
      refine h.settle le_rfl (fun _ _ hm => hm) fun other n hOn => ?_
      rcases hOn with hIncoming | hWrite | ⟨hRegistered, hBroadcast⟩
      · exact Or.inl (Or.inl hIncoming)
      · rcases List.mem_append.mp hWrite with hOld | hNew
        · exact Or.inl (Or.inr (Or.inl hOld))
        · obtain ⟨reply, -, hSame⟩ := List.mem_map.mp hNew
          obtain ⟨rfl, hContent⟩ := GatewayTask.write.inj hSame
          exact Or.inr (Or.inl (author_of_serverFrame hContent).1)
      · rcases List.mem_append.mp hBroadcast with hOld | hNew
        · refine Or.inl (Or.inr (Or.inr ⟨?_, hOld⟩))
          split at hRegistered
          · exact hRegistered
          · exact (List.mem_filter.mp hRegistered).1
        · obtain ⟨reply, -, hSame⟩ := List.mem_map.mp hNew
          cases hSame

theorem Clear.pop (h : Clear s) (hClear : NumberClear s .pop) (hStep : s.step dynamics codec .pop = some s') :
    Clear s' := by
  simp only [GatewayWorld.step] at hStep
  split at hStep
  · cases hStep
  split at hStep
  · cases hStep
  rename_i author env queue hPop
  split at hStep
  · rename_i v hRejected
    cases hStep
    refine h.settle le_rfl (fun _ _ hm => hm) fun client n hOn => ?_
    rcases hOn with hIncoming | hWrite | ⟨hRegistered, hBroadcast⟩
    · exact Or.inl (Or.inl hIncoming)
    · rcases List.mem_append.mp hWrite with hOld | hNew
      · exact Or.inl (Or.inr (Or.inl hOld))
      · cases List.mem_singleton.mp hNew
    · rcases List.mem_append.mp hBroadcast with hOld | hNew
      · exact Or.inl (Or.inr (Or.inr ⟨hRegistered, hOld⟩))
      · cases List.mem_singleton.mp hNew
        refine Or.inr (or_iff_not_imp_right.mpr fun hIn => ?_)
        exact (hClear author env queue hPop (by rw [hRejected]; simp) client hRegistered (not_not.mp hIn)).symm
  · obtain ⟨world, -, rfl⟩ := Option.map_eq_some_iff.mp hStep
    exact h.settle le_rfl (fun _ _ hm => mem_of_resolve hm) fun _ _ hOn => Or.inl hOn

theorem Clear.work (h : Clear s) (hStep : s.work = some s') : Clear s' := by
  unfold GatewayWorld.work at hStep
  split at hStep
  · cases hStep
  · rename_i n posted hPosted
    cases hStep
    refine h.settle le_rfl (fun _ _ hm => hm) fun client m hOn => Or.inl ?_
    rcases hOn with hIncoming | hWrite | ⟨hRegistered, hBroadcast⟩
    · exact Or.inl hIncoming
    · rcases List.mem_append.mp hWrite with hOld | hNew
      · refine Or.inr (Or.inl ?_)
        rw [hPosted]
        exact List.mem_cons_of_mem _ hOld
      · obtain ⟨listener, hListens, hSame⟩ := List.mem_map.mp hNew
        cases hSame
        refine Or.inr (Or.inr ⟨(List.mem_filter.mp hListens).1, ?_⟩)
        rw [hPosted]
        exact List.mem_cons_self
    · rcases List.mem_append.mp hBroadcast with hOld | hNew
      · refine Or.inr (Or.inr ⟨hRegistered, ?_⟩)
        rw [hPosted]
        exact List.mem_cons_of_mem _ hOld
      · obtain ⟨listener, -, hSame⟩ := List.mem_map.mp hNew
        cases hSame
  · rename_i writer content posted hPosted
    split at hStep
    · cases hStep
      refine h.settle le_rfl (fun _ _ hm => hm) fun client m hOn => Or.inl ?_
      unfold OnItsWay at *
      rw [hPosted]
      rcases hOn with hIncoming | hWrite | ⟨hRegistered, hBroadcast⟩
      · dsimp only at hIncoming
        rw [Function.update_apply] at hIncoming
        split at hIncoming
        · rename_i hClient
          rcases List.mem_append.mp hIncoming with hOld | hNew
          · exact Or.inl (hClient ▸ hOld)
          · rw [hClient, List.mem_singleton.mp hNew]
            exact Or.inr (Or.inl List.mem_cons_self)
        · exact Or.inl hIncoming
      · exact Or.inr (Or.inl (List.mem_cons_of_mem _ hWrite))
      · exact Or.inr (Or.inr ⟨hRegistered, List.mem_cons_of_mem _ hBroadcast⟩)
    · cases hStep
      exact h.settle le_rfl (fun _ _ hm => hm) fun _ _ hOn => Or.inl hOn

theorem Clear.receive (h : Clear s) {client : Nat} (hStep : s.step dynamics codec (.receive client) = some s') :
    Clear s' := by
  simp only [GatewayWorld.step] at hStep
  split at hStep
  · cases hStep
  · rename_i content incoming hIncoming
    cases hStep
    refine h.settle le_rfl (fun other m hm => ?_) fun other n hOn => Or.inl ?_
    · dsimp only at hm
      split at hm
      · split at hm
        · exact mem_of_resolve hm
        · exact hm
      · exact hm
    · refine hOn.imp_left fun hLater => ?_
      dsimp only at hLater
      rw [Function.update_apply] at hLater
      split at hLater
      · rename_i hClient
        rw [hClient, hIncoming]
        exact List.mem_cons_of_mem _ hLater
      · exact hLater

theorem Clear.step (h : Clear s) {a : GatewayAction φ} (hClear : NumberClear s a)
    (hStep : s.step dynamics codec a = some s') : Clear s' := by
  cases a with
  | connect => exact h.connect hStep
  | send client frame => exact h.send hClear hStep
  | handle client around => exact h.handle hStep
  | disconnect client =>
    simp only [GatewayWorld.step] at hStep
    split at hStep
    · cases hStep
    · cases hStep
      refine h.settle le_rfl (fun _ _ hm => hm) fun other n hOn => Or.inl ?_
      exact hOn.imp_right fun hLater => hLater.imp_right fun hBroadcast =>
        ⟨(List.mem_filter.mp hBroadcast.1).1, hBroadcast.2⟩
  | pop => exact h.pop hClear hStep
  | engine a =>
    simp only [GatewayWorld.step] at hStep
    split at hStep
    · cases hStep
    split at hStep
    · cases hStep
    all_goals
      obtain ⟨world, -, rfl⟩ := Option.map_eq_some_iff.mp hStep
      exact h.settle le_rfl (fun _ _ hm => hm) fun _ _ hOn => Or.inl hOn
  | work =>
    simp only [GatewayWorld.step] at hStep
    split at hStep
    · cases hStep
    · exact h.work hStep
  | receive client => exact h.receive hStep

theorem Clear.reachesAuthor (h : Clear s) (a : GatewayAction φ) : ReachesAuthor s a s' := by
  rintro client n incoming rfl hIncoming hIn
  refine h.own client n (Or.inl ?_) hIn
  rw [hIncoming]
  exact List.mem_cons_self

theorem clear_start (w : World φ) : Clear { world := w } where
  fresh _ _ := rfl
  own client n hOn := by
    rcases hOn with hIncoming | hWrite | ⟨hRegistered, -⟩
    · exact absurd hIncoming List.not_mem_nil
    · exact absurd hWrite List.not_mem_nil
    · exact absurd hRegistered List.not_mem_nil

/-! ## Numbers of one client only -/

/-- The client sends a command under the number. -/
def Sends (actions : List (GatewayAction φ)) (client : Nat) (n : BitVec 32) : Prop :=
  ∃ frame, .send client frame ∈ actions ∧ frame.msgType = MsgType.kCommand ∧ frame.seqId = n

/-- Every number in use is one that the client has sent a command under. -/
structure Sent (P : Nat → BitVec 32 → Prop) (s : GatewayWorld φ) : Prop where
  frames : ∀ client, ∀ frame ∈ s.sent client, frame.msgType = MsgType.kCommand → P client frame.seqId
  queued : ∀ item ∈ s.queue.items, P item.1 item.2.cmdMeta.seqId
  broadcasts : ∀ n, .broadcast n ∈ s.posted → P n.author n.reqSeqId
  writes : ∀ client n, .write client (.notice n) ∈ s.posted → P n.author n.reqSeqId
  incoming : ∀ client n, .notice n ∈ s.incoming client → P n.author n.reqSeqId
  unresolved : ∀ client n, n ∈ s.unresolved client → P client n

variable {P : Nat → BitVec 32 → Prop}

theorem Sent.onItsWay (h : Sent P s) {client : Nat} {n : RejectionNotice} (hOn : s.OnItsWay client n) :
    P n.author n.reqSeqId := by
  rcases hOn with hIncoming | hWrite | ⟨-, hBroadcast⟩
  · exact h.incoming client n hIncoming
  · exact h.writes client n hWrite
  · exact h.broadcasts n hBroadcast

theorem Sent.send (h : Sent P s) {client : Nat} {frame : DecodedFrame}
    (hSends : frame.msgType = MsgType.kCommand → P client frame.seqId)
    (hStep : s.step dynamics codec (.send client frame) = some s') : Sent P s' := by
  simp only [GatewayWorld.step] at hStep
  split at hStep
  · cases hStep
    refine { h with frames := fun other later hLater => ?_, unresolved := fun other n hn => ?_ }
    · dsimp only at hLater
      rw [Function.update_apply] at hLater
      split at hLater
      · rename_i hOther
        rcases List.mem_append.mp hLater with hOld | hNew
        · exact hOther ▸ h.frames client later hOld
        · rw [hOther, List.mem_singleton.mp hNew]
          exact hSends
      · exact h.frames other later hLater
    · dsimp only at hn
      split at hn
      · rename_i hCommand
        rw [Function.update_apply] at hn
        split at hn
        · rename_i hOther
          rcases List.mem_append.mp hn with hOld | hNew
          · exact hOther ▸ h.unresolved client n hOld
          · rw [hOther, List.mem_singleton.mp hNew]
            exact hSends hCommand
        · exact h.unresolved other n hn
      · exact h.unresolved other n hn
  · cases hStep

theorem Sent.handle (h : Sent P s) {client : Nat} {around : Surroundings}
    (hStep : s.step dynamics codec (.handle client around) = some s') : Sent P s' := by
  simp only [GatewayWorld.step] at hStep
  split at hStep
  · cases hStep
  split at hStep
  · cases hStep
  rename_i frame sent hSent
  have hFrame := h.frames client frame (by rw [hSent]; exact List.mem_cons_self)
  cases hStep
  refine
    { h with
      frames := fun other later hLater => ?_
      queued := fun item hItem => ?_
      broadcasts := fun n hn => ?_
      writes := fun other n hn => ?_ }
  · dsimp only at hLater
    rw [Function.update_apply] at hLater
    split at hLater
    · rename_i hOther
      refine hOther ▸ h.frames client later ?_
      rw [hSent]
      exact List.mem_cons_of_mem _ hLater
    · exact h.frames other later hLater
  · rcases @pushesOf_handleFrame codec around (s.sessions client) frame with hNone | ⟨hCommand, env, hOne, hNumber⟩
    · rw [hNone] at hItem
      exact h.queued item hItem
    · rw [hOne, List.foldl_cons, List.foldl_nil] at hItem
      rcases List.mem_cons.mp ((PriorityCommandQueue.perm_items_push _ _).mem_iff.mp hItem) with hNew | hOld
      · rw [hNew, hNumber]
        exact hFrame hCommand
      · exact h.queued item hOld
  · rcases List.mem_append.mp hn with hOld | hNew
    · exact h.broadcasts n hOld
    · obtain ⟨reply, -, hSame⟩ := List.mem_map.mp hNew
      cases hSame
  · rcases List.mem_append.mp hn with hOld | hNew
    · exact h.writes other n hOld
    · obtain ⟨reply, hReply, hSame⟩ := List.mem_map.mp hNew
      obtain ⟨-, hContent⟩ := GatewayTask.write.inj hSame
      obtain ⟨hAuthor, hNumber, hNak⟩ := author_of_serverFrame hContent
      rw [hAuthor, hNumber]
      refine hFrame (of_not_not fun hOther => ?_)
      exact not_nak_of_other hOther reply hReply hNak

theorem Sent.pop (h : Sent P s) (hStep : s.step dynamics codec .pop = some s') : Sent P s' := by
  simp only [GatewayWorld.step] at hStep
  split at hStep
  · cases hStep
  split at hStep
  · cases hStep
  rename_i author env queue hPop
  have hItems := PriorityCommandQueue.perm_items_tryPop hPop
  have hTaken : P author env.cmdMeta.seqId := h.queued (author, env) (hItems.mem_iff.mpr List.mem_cons_self)
  have hLeft : ∀ item ∈ queue.items, P item.1 item.2.cmdMeta.seqId :=
    fun item hItem => h.queued item (hItems.mem_iff.mpr (List.mem_cons_of_mem _ hItem))
  split at hStep
  · cases hStep
    refine { h with queued := hLeft, broadcasts := fun n hn => ?_, writes := fun client n hn => ?_ }
    · rcases List.mem_append.mp hn with hOld | hNew
      · exact h.broadcasts n hOld
      · cases List.mem_singleton.mp hNew
        exact hTaken
    · rcases List.mem_append.mp hn with hOld | hNew
      · exact h.writes client n hOld
      · cases List.mem_singleton.mp hNew
  · obtain ⟨world, -, rfl⟩ := Option.map_eq_some_iff.mp hStep
    exact { h with queued := hLeft, unresolved := fun client n hn => h.unresolved client n (mem_of_resolve hn) }

theorem Sent.work (h : Sent P s) (hStep : s.work = some s') : Sent P s' := by
  unfold GatewayWorld.work at hStep
  split at hStep
  · cases hStep
  · rename_i n posted hPosted
    have hFirst : P n.author n.reqSeqId := h.broadcasts n (by rw [hPosted]; exact List.mem_cons_self)
    cases hStep
    refine { h with broadcasts := fun m hm => ?_, writes := fun client m hm => ?_ }
    · rcases List.mem_append.mp hm with hOld | hNew
      · refine h.broadcasts m ?_
        rw [hPosted]
        exact List.mem_cons_of_mem _ hOld
      · obtain ⟨listener, -, hSame⟩ := List.mem_map.mp hNew
        cases hSame
    · rcases List.mem_append.mp hm with hOld | hNew
      · refine h.writes client m ?_
        rw [hPosted]
        exact List.mem_cons_of_mem _ hOld
      · obtain ⟨listener, -, hSame⟩ := List.mem_map.mp hNew
        cases hSame
        exact hFirst
  · rename_i writer content posted hPosted
    have hLater : ∀ task ∈ posted, task ∈ s.posted := by
      rw [hPosted]
      exact fun task hTask => List.mem_cons_of_mem _ hTask
    split at hStep
    · cases hStep
      refine
        { h with
          broadcasts := fun m hm => h.broadcasts m (hLater _ hm)
          writes := fun client m hm => h.writes client m (hLater _ hm)
          incoming := fun client m hm => ?_ }
      dsimp only at hm
      rw [Function.update_apply] at hm
      split at hm
      · rcases List.mem_append.mp hm with hOld | hNew
        · exact h.incoming writer m hOld
        · refine h.writes writer m ?_
          rw [hPosted, List.mem_singleton.mp hNew]
          exact List.mem_cons_self
      · exact h.incoming client m hm
    · cases hStep
      exact { h with }

theorem Sent.receive (h : Sent P s) {client : Nat} (hStep : s.step dynamics codec (.receive client) = some s') :
    Sent P s' := by
  simp only [GatewayWorld.step] at hStep
  split at hStep
  · cases hStep
  · rename_i content incoming hIncoming
    cases hStep
    refine { h with incoming := fun other n hn => ?_, unresolved := fun other n hn => ?_ }
    · dsimp only at hn
      rw [Function.update_apply] at hn
      split at hn
      · refine h.incoming client n ?_
        rw [hIncoming]
        exact List.mem_cons_of_mem _ hn
      · exact h.incoming other n hn
    · dsimp only at hn
      split at hn
      · split at hn
        · exact h.unresolved other n (mem_of_resolve hn)
        · exact h.unresolved other n hn
      · exact h.unresolved other n hn

theorem Sent.step (h : Sent P s) {a : GatewayAction φ}
    (hSends : ∀ client frame, a = .send client frame → frame.msgType = MsgType.kCommand → P client frame.seqId)
    (hStep : s.step dynamics codec a = some s') : Sent P s' := by
  cases a with
  | send client frame => exact h.send (hSends client frame rfl) hStep
  | handle client around => exact h.handle hStep
  | pop => exact h.pop hStep
  | receive client => exact h.receive hStep
  | connect | disconnect client =>
    simp only [GatewayWorld.step] at hStep
    split at hStep
    · cases hStep
    · cases hStep
      exact { h with }
  | engine a =>
    simp only [GatewayWorld.step] at hStep
    split at hStep
    · cases hStep
    split at hStep
    · cases hStep
    all_goals
      obtain ⟨world, -, rfl⟩ := Option.map_eq_some_iff.mp hStep
      exact { h with }
  | work =>
    simp only [GatewayWorld.step] at hStep
    split at hStep
    · cases hStep
    · exact h.work hStep

theorem sent_start (w : World φ) : Sent P { world := w } where
  frames _ _ h := absurd h List.not_mem_nil
  queued _ h := absurd h List.not_mem_nil
  broadcasts _ h := absurd h List.not_mem_nil
  writes _ _ h := absurd h List.not_mem_nil
  incoming _ _ h := absurd h List.not_mem_nil
  unresolved _ _ h := absurd h List.not_mem_nil

/-- Where every number is one client's, the numbers are clear. -/
theorem Sent.numberClear (h : Sent P s) (hOne : ∀ client other n, P client n → P other n → client = other)
    {a : GatewayAction φ}
    (hSends : ∀ client frame, a = .send client frame → frame.msgType = MsgType.kCommand → P client frame.seqId) :
    NumberClear s a := by
  cases a with
  | send client frame =>
    intro hCommand n hOn hNumber
    refine hOne n.author client n.reqSeqId (h.onItsWay hOn) ?_
    rw [hNumber]
    exact hSends client frame rfl hCommand
  | pop =>
    intro author env queue hPop _ client _ hIn
    have hItems := PriorityCommandQueue.perm_items_tryPop hPop
    exact hOne client author _ (h.unresolved client _ hIn)
      (h.queued (author, env) (hItems.mem_iff.mpr List.mem_cons_self))
  | connect | handle | disconnect | engine | work | receive => trivial

/-- The numbers are clear in every run in which each is one client's. -/
theorem guarded_of_ownNumbers {w : World φ} {actions : List (GatewayAction φ)} (h : OwnNumbers actions) :
    Guarded (step dynamics codec) NumberClear { world := w } actions := by
  have hOne : ∀ client other n, Sends actions client n → Sends actions other n → client = other := by
    rintro client other n ⟨frame, hSend, hCommand, hNumber⟩ ⟨frame', hSend', hCommand', hNumber'⟩
    exact h client frame other frame' hSend hSend' hCommand hCommand' (hNumber.trans hNumber'.symm)
  refine guarded_of_kept (P := Sent (Sends actions)) (fun a ha s hs => ?_) (sent_start w)
  have hSends : ∀ client frame, a = .send client frame → frame.msgType = MsgType.kCommand →
      Sends actions client frame.seqId := by
    rintro client frame rfl hCommand
    exact ⟨frame, ha, hCommand, rfl⟩
  exact ⟨hs.numberClear hOne hSends, fun s' hStep => hs.step hSends hStep⟩

end GatewayWorld

/-- From a server without clients, in every run in which the numbers stay clear, a client that receives a rejection
notice under the number of an unresolved command of its own is told of a command of its own; so it is in every run in
which no two clients send a command under the same number. -/
theorem notices_reach_author {φ : Type} (dynamics : TrainDynamics φ) (codec : SessionCodec Command) (w : World φ)
    (actions : List (GatewayAction φ)) :
    (Guarded (GatewayWorld.step dynamics codec) GatewayWorld.NumberClear { world := w } actions →
      EachStep (GatewayWorld.step dynamics codec) GatewayWorld.ReachesAuthor { world := w } actions) ∧
    (GatewayWorld.OwnNumbers actions →
      Guarded (GatewayWorld.step dynamics codec) GatewayWorld.NumberClear { world := w } actions) := by
  constructor
  · refine eachStep_of_guarded _ GatewayWorld.Clear _ (fun s a s' h hClear hStep => ?_) (GatewayWorld.clear_start w)
    exact ⟨h.reachesAuthor a, h.step hClear hStep⟩
  · exact GatewayWorld.guarded_of_ownNumbers

/-! Two clients, and a switch that is not there. -/

def plainCodec : SessionCodec Command where
  readHandshake _ := some { playerId := some "A", authToken := some "t" }
  parsePayload _ := some (.setSwitchPosition ⟨⟨99⟩, .straight⟩)
  build _ := []

def plainServer : GatewayWorld Unit := { world := { state := {}, control := { kind := .ml8 } } }

def joining (client : Nat) : List (GatewayAction Unit) :=
  [.connect, .send client { msgType := MsgType.kHandshake, payload := [1] }, .handle client {}, .work, .receive client]

def commands (client : Nat) (n : BitVec 32) : GatewayAction Unit :=
  .send client { msgType := MsgType.kCommand, seqId := n, payload := [1] }

/-- The second client sends its command when the first is rejected already, and both hear of both rejections. -/
def twoNumbers : List (GatewayAction Unit) :=
  joining 0 ++ joining 1 ++ [commands 0 1, .handle 0 {}, .pop, commands 1 2, .work, .work, .handle 1 {}, .work, .work,
    .pop, .receive 0, .receive 0, .receive 1, .work, .work, .work, .work, .receive 0, .receive 1, .receive 1]

theorem notices_reach_author_twoNumbers :
    (run (GatewayWorld.step World.idleTrains plainCodec) plainServer twoNumbers).isSome = true ∧
      EachStep (GatewayWorld.step World.idleTrains plainCodec) GatewayWorld.ReachesAuthor plainServer twoNumbers := by
  have hOwn : GatewayWorld.OwnNumbers twoNumbers := by
    intro client frame other frame' hSend hSend'
    simp only [twoNumbers, joining, commands, List.cons_append, List.nil_append, List.mem_cons, List.not_mem_nil,
      GatewayAction.send.injEq, reduceCtorEq, or_false, false_or] at hSend hSend'
    rcases hSend with ⟨rfl, rfl⟩ | ⟨rfl, rfl⟩ | ⟨rfl, rfl⟩ | ⟨rfl, rfl⟩ <;>
      rcases hSend' with ⟨rfl, rfl⟩ | ⟨rfl, rfl⟩ | ⟨rfl, rfl⟩ | ⟨rfl, rfl⟩ <;> decide
  have hBoth := notices_reach_author World.idleTrains plainCodec plainServer.world twoNumbers
  exact ⟨by decide +kernel, hBoth.1 (hBoth.2 hOwn)⟩

/-- Both clients send a command under the number 1; the second hears of the rejection of the first while its own is on
its way. -/
def sameNumber : List (GatewayAction Unit) :=
  joining 0 ++ joining 1 ++ [commands 0 1, commands 1 1, .handle 0 {}, .pop, .work, .work, .work, .work]

theorem namesake_told : ¬ ∀ (codec : SessionCodec Command) (w : World Unit) (actions : List (GatewayAction Unit)),
    EachStep (GatewayWorld.step World.idleTrains codec) GatewayWorld.ReachesAuthor { world := w } actions := by
  intro h
  have hTaken : (run (GatewayWorld.step World.idleTrains plainCodec) plainServer sameNumber).any (fun s =>
      decide (1 ∈ s.unresolved 1) && (s.incoming 1).head?.any fun content =>
        content.notice?.any fun n => decide (n.author = 0 ∧ n.reqSeqId = 1)) = true := by decide +kernel
  obtain ⟨s, hBefore, hSeen⟩ := (Option.any_eq_true _ _).mp hTaken
  simp only [Bool.and_eq_true, decide_eq_true_eq, Option.any_eq_true] at hSeen
  obtain ⟨hIn, content, hHead, n, hNotice, hAuthor, hNumber⟩ := hSeen
  obtain ⟨incoming, hIncoming⟩ := List.head?_eq_some_iff.mp hHead
  cases content with
  | reply frame => cases hNotice
  | notice m =>
    cases hNotice
    have hEach := h plainCodec plainServer.world (sameNumber ++ [.receive 1])
    have hStep : ∃ s', s.step World.idleTrains plainCodec (.receive 1) = some s' := by
      rw [GatewayWorld.step, hIncoming]
      exact ⟨_, rfl⟩
    obtain ⟨s', hReceive⟩ := hStep
    have hOwn := hEach.at hBefore hReceive 1 n incoming rfl hIncoming (hNumber ▸ hIn)
    rw [hAuthor] at hOwn
    cases hOwn

end Symulator.Server
