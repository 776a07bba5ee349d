import Symulator.Server.SessionHistory
import Symulator.Server.TransportGateway

/-! # What reaches a socket

The writes of a handler are posted while it runs, with posts of other threads in between, and still they reach a
socket in the order of the handlers: first all frames of one, then all of the next. The replies of a session come
numbered without a gap, the chunks of a snapshot with nothing in between, and of the broadcasts a session gets those
of one stretch of time, every one of them once.
-/

namespace Symulator.Server

open Symulator.Library Symulator.Engine

set_option autoImplicit false

/-- What goes to the socket of a session. -/
def contentsTo (session : Nat) (writes : List SocketWrite) : List Outgoing :=
  (writes.filter fun w => w.session = session).map SocketWrite.content

def writesTo (session : Nat) (contents : List Outgoing) : List SocketWrite :=
  contents.map fun content => { session, content }

def IoHandler.broadcast? : IoHandler → Option (List Byte)
  | .event (.broadcast frame) => some frame
  | _ => none

def broadcastsOf (handlers : List IoHandler) : List (List Byte) := handlers.filterMap IoHandler.broadcast?

section Contents

variable {session : Nat} {writes more : List SocketWrite}

@[simp] theorem contentsTo_append :
    contentsTo session (writes ++ more) = contentsTo session writes ++ contentsTo session more := by
  simp [contentsTo]

@[simp] theorem contentsTo_nil : contentsTo session [] = [] := rfl

theorem contentsTo_self (contents : List Outgoing) :
    contentsTo session (writesTo session contents) = contents := by
  simp [contentsTo, writesTo, List.filter_map, Function.comp_def]

theorem contentsTo_other {other : Nat} (h : other ≠ session) (contents : List Outgoing) :
    contentsTo session (writesTo other contents) = [] := by
  simp [contentsTo, writesTo, List.filter_map, Function.comp_def, h]

theorem contentsTo_each {sessions : List Nat} (h : sessions.Nodup) (content : Outgoing) :
    contentsTo session (sessions.map fun session => { session, content }) =
      if session ∈ sessions then [content] else [] := by
  induction sessions with
  | nil => rfl
  | cons first sessions ih =>
    obtain ⟨hFirst, hRest⟩ := List.nodup_cons.mp h
    rw [List.map_cons, ← List.singleton_append, contentsTo_append, ih hRest]
    by_cases hSame : first = session
    · subst hSame
      simp [contentsTo, hFirst]
    · simp [contentsTo, hSame, Ne.symm hSame]

@[simp] theorem itemsOf_map_inr (writes : List SocketWrite) :
    Executor.itemsOf (writes.map (Sum.inr : SocketWrite → IoHandler ⊕ SocketWrite)) = writes := by
  simp [Executor.itemsOf, List.filterMap_map, Function.comp_def]

end Contents

namespace TransportGateway

variable {codec : GatewayCodec}

/-! ## A handler -/

/-- The dispatch channel may write and post, but it leaves the connections and their registration alone. -/
theorem onDispatch_spec (clock : UInt64) (g : TransportGateway) (payload : List Byte) (playerId areaId : String) :
    (onDispatch codec clock g payload playerId areaId).1.connections = g.connections ∧
      (onDispatch codec clock g payload playerId areaId).1.sessions = g.sessions ∧
      Executor.itemsOf (onDispatch codec clock g payload playerId areaId).2 = [] := by
  unfold onDispatch
  split
  · refine ⟨rfl, rfl, ?_⟩
    rw [Executor.itemsOf, List.filterMap_map]
    exact List.filterMap_eq_nil_iff.mpr fun _ _ => rfl
  · exact ⟨rfl, rfl, rfl⟩

theorem takeEffects_spec (clock : Nat → UInt64) (session : Nat) (effects : List (SessionEffect Command))
    (g : TransportGateway) : (takeEffects codec clock session g effects).1.connections = g.connections ∧
      (takeEffects codec clock session g effects).1.sessions = g.sessions ∧
      Executor.itemsOf (takeEffects codec clock session g effects).2 =
        writesTo session ((sendsOf effects).map .own) := by
  induction effects generalizing g with
  | nil => exact ⟨rfl, rfl, rfl⟩
  | cons effect effects ih =>
    cases effect with
    | send frame =>
      obtain ⟨hConnections, hSessions, hItems⟩ := ih g
      refine ⟨hConnections, hSessions, ?_⟩
      rw [takeEffects, Executor.itemsOf_inr, hItems]
      rfl
    | push cmdMeta cmd => exact ih _
    | dispatch payload playerId areaId =>
      obtain ⟨hConnections, hSessions, hItems⟩ :=
        @onDispatch_spec codec (clock effects.length) g payload playerId areaId
      obtain ⟨hConnections', hSessions', hItems'⟩ :=
        ih (onDispatch codec (clock effects.length) g payload playerId areaId).1
      refine ⟨hConnections'.trans hConnections, hSessions'.trans hSessions, ?_⟩
      rw [takeEffects, Executor.itemsOf_append, hItems, hItems']
      rfl

theorem exec_read_of_none {g : TransportGateway} {session : Nat} (h : g.connections[session]? = none)
    (bytes : List Byte) (around : Nat → Surroundings) (clock : Nat → UInt64) :
    g.exec codec (.event (.read session bytes around clock)) = (g, []) := by
  rw [exec, onRead, h]

/-- A read of a connection: what it does to the connections, to the register, and what it sends. -/
theorem exec_read {g : TransportGateway} {session : Nat} {c : Connection Command} (h : g.connections[session]? = some c)
    (bytes : List Byte) (around : Nat → Surroundings) (clock : Nat → UInt64) :
    (g.exec codec (.event (.read session bytes around clock))).1.connections =
        g.connections.set session (c.receive codec.session around bytes) ∧
      (g.exec codec (.event (.read session bytes around clock))).1.sessions =
        (if (c.receive codec.session around bytes).session.isOpen then g.sessions
        else g.sessions.filter (· ≠ session)) ∧
      Executor.itemsOf (g.exec codec (.event (.read session bytes around clock))).2 =
        writesTo session ((sendsOf (newEffects c (c.receive codec.session around bytes))).map .own) := by
  rw [exec, onRead, h]
  exact takeEffects_spec _ _ _ _

/-- An active session that is still open after a read is still active. -/
theorem active_receive {c : Connection Command} {around : Nat → Surroundings} {bytes : List Byte}
    (hActive : c.session.isActive = true) (hOpen : (c.receive codec.session around bytes).session.isOpen = true) :
    (c.receive codec.session around bytes).session.isActive = true := by
  refine @Connection.receive_invariant _ codec.session around (fun s _ => s.isOpen = true → s.isActive = true) ?_ ?_
    _ (fun _ => hActive) bytes hOpen
  · intro s handled around frame s' effects h hReact
    cases hReact with
    | refuse => exact fun hClosed => absurd hClosed (by simp [ClientSession.close])
    | join => exact fun _ => by simp [ClientSession.isActive]
    | answer | snapshot | command | dispatch | ignore => exact h
  · exact fun s handled _ hClosed => absurd hClosed (by simp [ClientSession.close])

/-! ## The replies of a session -/

/-- The connections of the gateway and what the handlers so far have sent: of its own a session has sent what it
replied to the frames handled, and the replies to one frame stand together. -/
structure Replied (codec : GatewayCodec) (g : TransportGateway) (writes : List SocketWrite) : Prop where
  history : ∀ (session : Nat) (c : Connection Command), g.connections[session]? = some c →
    History codec.session c.session c.handled
  own : ∀ (session : Nat) (c : Connection Command), g.connections[session]? = some c →
    (contentsTo session writes).filterMap Outgoing.own? = replies c.handled
  together : ∀ (session : Nat) (c : Connection Command), g.connections[session]? = some c → ∀ h ∈ c.handled,
    (sendsOf h.effects).map Outgoing.own <:+: contentsTo session writes
  unknown : ∀ session : Nat, g.connections.length ≤ session → contentsTo session writes = []

theorem replied_start (coordinator : DispatchCoordinator) : Replied codec { coordinator } [] where
  history _ _ h := by simp at h
  own _ _ h := by simp at h
  together _ _ h := by simp at h
  unknown _ _ := rfl

/-- Copies of a broadcast to sessions that are there. -/
theorem Replied.copies {g : TransportGateway} {writes copies : List SocketWrite} (h : Replied codec g writes)
    (hOwn : ∀ session, (contentsTo session copies).filterMap Outgoing.own? = [])
    (hThere : ∀ session : Nat, g.connections.length ≤ session → contentsTo session copies = []) :
    Replied codec g (writes ++ copies) where
  history := h.history
  own session c hc := by rw [contentsTo_append, List.filterMap_append, hOwn, List.append_nil, h.own session c hc]
  together session c hc handled hIn := by
    rw [contentsTo_append]
    exact (h.together session c hc handled hIn).trans (List.prefix_append _ _).isInfix
  unknown session hLength := by
    rw [contentsTo_append, h.unknown session hLength, hThere session hLength, List.append_nil]

theorem Replied.accept {g : TransportGateway} {writes : List SocketWrite} (h : Replied codec g writes)
    (sessions : List Nat) : Replied codec { g with connections := g.connections ++ [{}], sessions } writes := by
  have hCases : ∀ (session : Nat) (c : Connection Command),
      (g.connections ++ [({} : Connection Command)])[session]? = some c →
      g.connections[session]? = some c ∨ g.connections.length ≤ session ∧ c = {} := by
    intro session c hc
    rw [List.getElem?_append] at hc
    split at hc
    · exact Or.inl hc
    · rename_i hLength
      exact Or.inr ⟨Nat.le_of_not_lt hLength, (List.mem_singleton.mp (List.mem_of_getElem? hc))⟩
  refine ⟨fun session c hc => ?_, fun session c hc => ?_, fun session c hc handled hIn => ?_, fun session hLength => ?_⟩
  · rcases hCases session c hc with hOld | ⟨-, rfl⟩
    · exact h.history session c hOld
    · exact history_start
  · rcases hCases session c hc with hOld | ⟨hNew, rfl⟩
    · exact h.own session c hOld
    · rw [h.unknown session hNew]
      rfl
  · rcases hCases session c hc with hOld | ⟨-, rfl⟩
    · exact h.together session c hOld handled hIn
    · exact absurd hIn List.not_mem_nil
  · exact h.unknown session (by simp at hLength; omega)

/-- A session is replaced by one with more frames handled, and their replies are sent. -/
theorem Replied.set {g : TransportGateway} {writes : List SocketWrite} (h : Replied codec g writes) {session : Nat}
    {c c' : Connection Command} (hc : g.connections[session]? = some c) {new : List (HandledFrame Command)}
    (hHandled : c'.handled = c.handled ++ new) (hHistory : History codec.session c'.session c'.handled)
    {g' : TransportGateway} (hConnections : g'.connections = g.connections.set session c') :
    Replied codec g' (writes ++ writesTo session ((replies new).map Outgoing.own)) := by
  have hLt : session < g.connections.length := (List.getElem?_eq_some_iff.mp hc).1
  have hOwn : ∀ frames : List DecodedFrame, (frames.map Outgoing.own).filterMap Outgoing.own? = frames := by
    intro frames
    rw [List.filterMap_map]
    exact List.filterMap_some
  have hCases : ∀ other (d : Connection Command), g'.connections[other]? = some d →
      other ≠ session ∧ g.connections[other]? = some d ∨ other = session ∧ d = c' := by
    intro other d hd
    rw [hConnections, List.getElem?_set] at hd
    split at hd
    · rename_i hSame
      exact Or.inr ⟨hSame.symm, (Option.some.inj hd).symm⟩
    · rename_i hOther
      exact Or.inl ⟨Ne.symm hOther, hd⟩
  refine ⟨fun other d hd => ?_, fun other d hd => ?_, fun other d hd handled hIn => ?_, fun other hLength => ?_⟩
  · rcases hCases other d hd with ⟨-, hOld⟩ | ⟨-, rfl⟩
    · exact h.history other d hOld
    · exact hHistory
  · rw [contentsTo_append]
    rcases hCases other d hd with ⟨hOther, hOld⟩ | ⟨rfl, rfl⟩
    · rw [contentsTo_other (Ne.symm hOther), List.append_nil, h.own other d hOld]
    · rw [contentsTo_self, List.filterMap_append, h.own other c hc, hOwn, hHandled]
      simp [replies]
  · rw [contentsTo_append]
    rcases hCases other d hd with ⟨hOther, hOld⟩ | ⟨rfl, rfl⟩
    · exact (h.together other d hOld handled hIn).trans (List.prefix_append _ _).isInfix
    · rw [hHandled] at hIn
      rcases List.mem_append.mp hIn with hIn | hIn
      · exact (h.together other c hc handled hIn).trans (List.prefix_append _ _).isInfix
      · rw [contentsTo_self]
        obtain ⟨before, after, rfl⟩ := List.append_of_mem hIn
        refine List.IsInfix.trans ?_ (List.suffix_append _ _).isInfix
        refine ⟨(replies before).map .own, (replies after).map .own, ?_⟩
        simp [replies]
  · rw [hConnections, List.length_set] at hLength
    rw [contentsTo_append, h.unknown other hLength, contentsTo_other (by omega)]
    rfl

theorem own_copies (frame : List Byte) (sessions : List Nat) (kind : List Byte → Outgoing)
    (hKind : (kind frame).own? = none) (session : Nat) :
    (contentsTo session (sessions.map fun session => { session, content := kind frame })).filterMap
      Outgoing.own? = [] := by
  refine List.filterMap_eq_nil_iff.mpr fun content hContent => ?_
  obtain ⟨w, hw, rfl⟩ := List.mem_map.mp hContent
  obtain ⟨other, -, rfl⟩ := List.mem_map.mp (List.mem_filter.mp hw).1
  exact hKind

theorem copies_unknown {g : TransportGateway} {sessions : List Nat} (h : ∀ session ∈ sessions, g.hears session = true)
    (content : Outgoing) {session : Nat} (hLength : g.connections.length ≤ session) :
    contentsTo session (sessions.map fun session => { session, content }) = [] := by
  refine List.map_eq_nil_iff.mpr (List.filter_eq_nil_iff.mpr fun w hw hSame => ?_)
  obtain ⟨other, hOther, rfl⟩ := List.mem_map.mp hw
  have hHears := h other hOther
  have hOther : other = session := of_decide_eq_true hSame
  rw [hOther, hears, List.getElem?_eq_none hLength] at hHears
  cases hHears

theorem Replied.exec {g : TransportGateway} {writes : List SocketWrite} (h : Replied codec g writes)
    (handler : IoHandler) :
    Replied codec (g.exec codec handler).1 (writes ++ Executor.itemsOf (g.exec codec handler).2) := by
  cases handler with
  | event event =>
    cases event with
    | accept =>
      rw [TransportGateway.exec, Executor.itemsOf_nil, List.append_nil]
      exact h.accept _
    | read session bytes around clock =>
      cases hc : g.connections[session]? with
      | none =>
        rw [exec_read_of_none hc, Executor.itemsOf_nil, List.append_nil]
        exact h
      | some c =>
        obtain ⟨hConnections, -, hItems⟩ := @exec_read codec _ _ _ hc bytes around clock
        obtain ⟨new, hNew⟩ := @Connection.handled_prefix _ codec.session around c bytes
        have hSends : sendsOf (newEffects c (c.receive codec.session around bytes)) = replies new := by
          rw [newEffects, ← hNew, List.drop_left]
          simp [replies, sendsOf, List.filterMap_flatMap]
        rw [hItems, hSends]
        exact h.set hc hNew.symm ((h.history session c hc).receive bytes) hConnections
    | readError session =>
      rw [TransportGateway.exec, Executor.itemsOf_nil, List.append_nil]
      have hCases : ∀ (other : Nat) (d : Connection Command), (g.onReadError session).connections[other]? = some d →
          ∃ c, g.connections[other]? = some c ∧ d.session = c.session ∧ d.handled = c.handled := by
        intro other d hd
        rw [onReadError, List.getElem?_modify] at hd
        obtain ⟨c, hc, rfl⟩ := Option.map_eq_some_iff.mp hd
        refine ⟨c, hc, ?_⟩
        split <;> exact ⟨rfl, rfl⟩
      refine ⟨fun other d hd => ?_, fun other d hd => ?_, fun other d hd => ?_, fun other hLength => ?_⟩
      · obtain ⟨c, hc, hSession, hHandled⟩ := hCases other d hd
        rw [hSession, hHandled]
        exact h.history other c hc
      · obtain ⟨c, hc, -, hHandled⟩ := hCases other d hd
        rw [hHandled]
        exact h.own other c hc
      · obtain ⟨c, hc, -, hHandled⟩ := hCases other d hd
        rw [hHandled]
        exact h.together other c hc
      · exact h.unknown other (by simpa [onReadError] using hLength)
    | broadcast frame =>
      rw [TransportGateway.exec, itemsOf_map_inr]
      exact h.copies (own_copies frame _ .shared rfl)
        fun session => copies_unknown (fun other hOther => (List.mem_filter.mp hOther).2) _
  | broadcastToPair b =>
    rw [TransportGateway.exec, itemsOf_map_inr]
    exact h.copies (own_copies b.frame _ .paired rfl)
      fun session => copies_unknown (fun other hOther => (List.mem_filter.mp (List.mem_filter.mp hOther).1).2) _

/-! ## The broadcasts a session hears -/

/-- The session is registered and active: a broadcast that has its turn now goes to it. -/
def listens (g : TransportGateway) (session : Nat) : Bool := decide (session ∈ g.sessions) && g.hears session

theorem listens_iff {g : TransportGateway} {session : Nat} :
    g.listens session = true ↔ session ∈ g.sessions ∧ g.hears session = true := by
  rw [listens, Bool.and_eq_true, decide_eq_true_iff]

def sharedTo (session : Nat) (writes : List SocketWrite) : List (List Byte) :=
  (contentsTo session writes).filterMap Outgoing.shared?

@[simp] theorem sharedTo_append (session : Nat) (writes more : List SocketWrite) :
    sharedTo session (writes ++ more) = sharedTo session writes ++ sharedTo session more := by
  simp [sharedTo]

theorem shared_own (session other : Nat) (frames : List DecodedFrame) :
    sharedTo session (writesTo other (frames.map Outgoing.own)) = [] := by
  refine List.filterMap_eq_nil_iff.mpr fun content hContent => ?_
  obtain ⟨w, hw, rfl⟩ := List.mem_map.mp hContent
  obtain ⟨sent, hSent, rfl⟩ := List.mem_map.mp (List.mem_filter.mp hw).1
  obtain ⟨frame, -, rfl⟩ := List.mem_map.mp hSent
  rfl

theorem shared_paired (session : Nat) (sessions : List Nat) (frame : List Byte) :
    sharedTo session (sessions.map fun session => { session, content := .paired frame }) = [] := by
  refine List.filterMap_eq_nil_iff.mpr fun content hContent => ?_
  obtain ⟨w, hw, rfl⟩ := List.mem_map.mp hContent
  obtain ⟨other, -, rfl⟩ := List.mem_map.mp (List.mem_filter.mp hw).1
  rfl

/-- A handler sends a session that listens the frame it broadcasts, if any, and nobody else. -/
theorem shared_exec {g : TransportGateway} (hNodup : g.sessions.Nodup) (handler : IoHandler) (session : Nat) :
    sharedTo session (Executor.itemsOf (g.exec codec handler).2) =
      if g.listens session = true then broadcastsOf [handler] else [] := by
  have hSilent : ∀ contents : List (List Byte), contents = [] → broadcastsOf [handler] = [] →
      contents = if g.listens session = true then broadcastsOf [handler] else [] := by
    intro contents hContents hHandler
    rw [hContents, hHandler, ite_self]
  cases handler with
  | event event =>
    cases event with
    | accept | readError => exact hSilent _ rfl rfl
    | read reading bytes around clock =>
      refine hSilent _ ?_ rfl
      cases hc : g.connections[reading]? with
      | none =>
        rw [exec_read_of_none hc]
        rfl
      | some c =>
        obtain ⟨-, -, hItems⟩ := @exec_read codec _ _ _ hc bytes around clock
        rw [hItems]
        exact shared_own session reading _
    | broadcast frame =>
      rw [TransportGateway.exec, itemsOf_map_inr, sharedTo, TransportGateway.broadcast,
        contentsTo_each (hNodup.filter _)]
      by_cases hListens : session ∈ g.sessions ∧ g.hears session = true
      · rw [if_pos (List.mem_filter.mpr hListens), if_pos (listens_iff.mpr hListens)]
        rfl
      · rw [if_neg fun hIn => hListens (List.mem_filter.mp hIn), if_neg fun hIn => hListens (listens_iff.mp hIn)]
        rfl
  | broadcastToPair b =>
    refine hSilent _ ?_ rfl
    rw [TransportGateway.exec, itemsOf_map_inr]
    exact shared_paired session _ _

/-- The sessions registered are among the connections, each once. -/
structure Registered (g : TransportGateway) : Prop where
  accepted : ∀ session ∈ g.sessions, session < g.connections.length
  nodup : g.sessions.Nodup

/-- Of the connections there are, none comes onto the register, and while it is there it does not cease to be active. -/
structure Keeps (g g' : TransportGateway) : Prop where
  registered : Registered g → Registered g'
  length : g.connections.length ≤ g'.connections.length
  sessions : ∀ session ∈ g'.sessions, session < g.connections.length → session ∈ g.sessions
  hears : ∀ session ∈ g'.sessions, g.hears session = true → g'.hears session = true

theorem Keeps.of_sublist {g g' : TransportGateway} (hLength : g'.connections.length = g.connections.length)
    (hSessions : g'.sessions.Sublist g.sessions)
    (hHears : ∀ session ∈ g'.sessions, g.hears session = true → g'.hears session = true) : Keeps g g' where
  registered h := ⟨fun session hIn => hLength ▸ h.accepted session (hSessions.subset hIn), h.nodup.sublist hSessions⟩
  length := hLength.ge
  sessions _ hIn _ := hSessions.subset hIn
  hears := hHears

theorem keeps_accept (g : TransportGateway) : Keeps g (g.exec codec (.event .accept)).1 where
  registered h := by
    refine ⟨fun session hIn => ?_, List.nodup_append.mpr ⟨h.nodup, List.nodup_singleton _, ?_⟩⟩
    · simp only [exec, List.length_append, List.length_singleton]
      rcases List.mem_append.mp hIn with hOld | hNew
      · exact Nat.lt_succ_of_lt (h.accepted session hOld)
      · exact List.mem_singleton.mp hNew ▸ Nat.lt_succ_self _
    · intro session hOld other hOther hSame
      rw [List.mem_singleton.mp hOther] at hSame
      exact absurd hSame (h.accepted session hOld).ne
  length := by simp [exec]
  sessions session hIn hLt := by
    rcases List.mem_append.mp hIn with hOld | hNew
    · exact hOld
    · exact absurd (List.mem_singleton.mp hNew) hLt.ne
  hears session _ hHears := by
    obtain ⟨c, hc, hActive⟩ := (Option.any_eq_true _ _).mp hHears
    have hLt := (List.getElem?_eq_some_iff.mp hc).1
    exact (Option.any_eq_true _ _).mpr ⟨c, (List.getElem?_append_left hLt).trans hc, hActive⟩

theorem keeps_read (g : TransportGateway) (session : Nat) (bytes : List Byte) (around : Nat → Surroundings)
    (clock : Nat → UInt64) : Keeps g (g.exec codec (.event (.read session bytes around clock))).1 := by
  cases hc : g.connections[session]? with
  | none =>
    rw [exec_read_of_none hc]
    exact .of_sublist rfl (List.Sublist.refl _) fun _ _ hHears => hHears
  | some c =>
    obtain ⟨hConnections, hSessions, -⟩ := @exec_read codec _ _ _ hc bytes around clock
    refine .of_sublist (by rw [hConnections, List.length_set]) ?_ fun other hIn hHears => ?_
    · rw [hSessions]
      split
      · exact List.Sublist.refl _
      · exact List.filter_sublist
    · rw [TransportGateway.hears, hConnections, List.getElem?_set]
      split
      · rename_i hSame
        subst hSame
        -- a session that has been closed by the read is off the register
        have hOpen : (c.receive codec.session around bytes).session.isOpen = true := by
          by_contra hClosed
          rw [hSessions, if_neg hClosed] at hIn
          simp at hIn
        rw [TransportGateway.hears, hc] at hHears
        have hLt := (List.getElem?_eq_some_iff.mp hc).1
        simpa [hLt] using active_receive (by simpa using hHears) hOpen
      · exact hHears

theorem keeps_exec (g : TransportGateway) (handler : IoHandler) : Keeps g (g.exec codec handler).1 := by
  cases handler with
  | event event =>
    cases event with
    | accept => exact keeps_accept g
    | read session bytes around clock => exact keeps_read g session bytes around clock
    | readError session =>
      refine .of_sublist (by simp [exec, onReadError]) List.filter_sublist fun other _ hHears => ?_
      obtain ⟨c, hc, hActive⟩ := (Option.any_eq_true _ _).mp hHears
      rw [exec, TransportGateway.hears, onReadError, List.getElem?_modify, hc]
      simp only [Option.map_eq_map, Option.map_some, Option.any_some]
      split <;> exact hActive
    | broadcast frame => exact .of_sublist rfl (List.Sublist.refl _) fun _ _ hHears => hHears
  | broadcastToPair b => exact .of_sublist rfl (List.Sublist.refl _) fun _ _ hHears => hHears

/-- A registered session that is not active has been sent no broadcast, an active one all since it became active. -/
structure Heard (g : TransportGateway) (handlers : List IoHandler) (writes : List SocketWrite) : Prop
    extends Registered g where
  unheard : ∀ session ∈ g.sessions, g.hears session = false → sharedTo session writes = []
  heard : ∀ session ∈ g.sessions, g.hears session = true → sharedTo session writes <:+ broadcastsOf handlers
  block : ∀ session, sharedTo session writes <:+: broadcastsOf handlers

theorem heard_start (coordinator : DispatchCoordinator) : Heard { coordinator } [] [] where
  accepted _ h := absurd h List.not_mem_nil
  nodup := List.nodup_nil
  unheard _ h := absurd h List.not_mem_nil
  heard _ h := absurd h List.not_mem_nil
  block _ := List.nil_infix

/-- A session that has come onto the register and does not listen has been sent no broadcast so far. -/
theorem Heard.unheard_exec {g : TransportGateway} {handlers : List IoHandler} {writes : List SocketWrite}
    (h : Heard g handlers writes) (hReplied : Replied codec g writes) {handler : IoHandler} {session : Nat}
    (hIn : session ∈ (g.exec codec handler).1.sessions) (hNot : g.hears session = false) :
    sharedTo session writes = [] := by
  rcases Nat.lt_or_ge session g.connections.length with hLt | hGe
  · exact h.unheard session ((keeps_exec g handler).sessions session hIn hLt) hNot
  · rw [sharedTo, hReplied.unknown session hGe]
    rfl

theorem Heard.exec {g : TransportGateway} {handlers : List IoHandler} {writes : List SocketWrite}
    (h : Heard g handlers writes) (hReplied : Replied codec g writes) (handler : IoHandler) :
    Heard (g.exec codec handler).1 (handlers ++ [handler]) (writes ++ Executor.itemsOf (g.exec codec handler).2) := by
  have hKeeps := @keeps_exec codec g handler
  have hShared : ∀ session, sharedTo session (writes ++ Executor.itemsOf (g.exec codec handler).2) =
      sharedTo session writes ++ if g.listens session = true then broadcastsOf [handler] else [] := by
    intro session
    rw [sharedTo_append, shared_exec h.nodup]
  have hBroadcasts : broadcastsOf (handlers ++ [handler]) = broadcastsOf handlers ++ broadcastsOf [handler] :=
    List.filterMap_append
  have hListening : ∀ session, g.listens session = true → sharedTo session
      (writes ++ Executor.itemsOf (g.exec codec handler).2) <:+ broadcastsOf (handlers ++ [handler]) := by
    intro session hListens
    obtain ⟨hIn, hHears⟩ := listens_iff.mp hListens
    obtain ⟨before, hBefore⟩ := h.heard session hIn hHears
    rw [hShared, if_pos hListens, hBroadcasts]
    exact ⟨before, by rw [← List.append_assoc, hBefore]⟩
  refine ⟨hKeeps.registered h.toRegistered, fun session hIn hNot => ?_, fun session hIn _ => ?_, fun session => ?_⟩
  · have hBefore : g.hears session = false := by
      by_contra hHears
      rw [hKeeps.hears session hIn (by simpa using hHears)] at hNot
      cases hNot
    rw [hShared, if_neg fun hListens => by simp [(listens_iff.mp hListens).2] at hBefore, List.append_nil]
    exact h.unheard_exec hReplied hIn hBefore
  · by_cases hListens : g.listens session = true
    · exact hListening session hListens
    · rw [hShared, if_neg hListens, List.append_nil]
      cases hHears : g.hears session with
      | false =>
        rw [h.unheard_exec hReplied hIn hHears]
        exact List.nil_suffix
      | true =>
        have hNew : g.connections.length ≤ session := by
          by_contra hLt
          exact hListens (listens_iff.mpr ⟨hKeeps.sessions session hIn (Nat.lt_of_not_le hLt), hHears⟩)
        rw [sharedTo, hReplied.unknown session hNew]
        exact List.nil_suffix
  · by_cases hListens : g.listens session = true
    · exact (hListening session hListens).isInfix
    · rw [hShared, if_neg hListens, List.append_nil, hBroadcasts]
      exact (h.block session).trans (List.prefix_append _ _).isInfix

/-- A gateway after any handlers has replied and broadcast as told. -/
theorem delivers (coordinator : DispatchCoordinator) (handlers : List IoHandler) :
    let g := Executor.stateAfter (exec codec) { coordinator } handlers
    let writes := Executor.itemsOf (Executor.posts (exec codec) { coordinator } handlers)
    Replied codec g writes ∧ Heard g handlers writes := by
  induction handlers using List.reverseRecOn with
  | nil => exact ⟨replied_start coordinator, heard_start coordinator⟩
  | append_singleton handlers handler ih =>
    obtain ⟨hReplied, hHeard⟩ := ih
    rw [Executor.stateAfter_concat, Executor.posts_concat, Executor.itemsOf_append]
    exact ⟨hReplied.exec handler, hHeard.exec hReplied handler⟩

/-! ## From one state to a later one -/

/-- A connection that is off the register stays off and is sent no broadcast. -/
theorem shared_posts_of_gone {g : TransportGateway} (h : Registered g) {session : Nat}
    (hKnown : session < g.connections.length) (hGone : session ∉ g.sessions) (handlers : List IoHandler) :
    session ∉ (Executor.stateAfter (exec codec) g handlers).sessions ∧
      sharedTo session (Executor.itemsOf (Executor.posts (exec codec) g handlers)) = [] := by
  induction handlers generalizing g with
  | nil => exact ⟨hGone, rfl⟩
  | cons handler handlers ih =>
    have hKeeps := @keeps_exec codec g handler
    obtain ⟨hStays, hRest⟩ := ih (hKeeps.registered h) (hKnown.trans_le hKeeps.length)
      fun hIn => hGone (hKeeps.sessions session hIn hKnown)
    refine ⟨hStays, ?_⟩
    rw [Executor.posts, Executor.itemsOf_append, sharedTo_append, hRest, shared_exec h.nodup,
      if_neg fun hListens => hGone (listens_iff.mp hListens).1]
    rfl

/-- A session that listens is sent the broadcasts from there on, all of them while it is on the register. -/
theorem shared_posts_of_listens {g : TransportGateway} (h : Registered g) {session : Nat}
    (hListens : g.listens session = true) (handlers : List IoHandler) :
    sharedTo session (Executor.itemsOf (Executor.posts (exec codec) g handlers)) <+: broadcastsOf handlers ∧
      (session ∈ (Executor.stateAfter (exec codec) g handlers).sessions →
        (Executor.stateAfter (exec codec) g handlers).hears session = true ∧
          sharedTo session (Executor.itemsOf (Executor.posts (exec codec) g handlers)) = broadcastsOf handlers) := by
  induction handlers generalizing g with
  | nil => exact ⟨List.prefix_rfl, fun _ => ⟨(listens_iff.mp hListens).2, rfl⟩⟩
  | cons handler handlers ih =>
    obtain ⟨hIn, hHears⟩ := listens_iff.mp hListens
    have hKeeps := @keeps_exec codec g handler
    have hBroadcasts : broadcastsOf (handler :: handlers) = broadcastsOf [handler] ++ broadcastsOf handlers :=
      @List.filterMap_append _ _ [handler] handlers _
    rw [Executor.posts, Executor.itemsOf_append, sharedTo_append, shared_exec h.nodup, if_pos hListens, hBroadcasts]
    by_cases hStill : session ∈ (g.exec codec handler).1.sessions
    · obtain ⟨hPrefix, hAll⟩ := ih (hKeeps.registered h) (listens_iff.mpr ⟨hStill, hKeeps.hears session hStill hHears⟩)
      refine ⟨List.prefix_append_right_inj _ |>.mpr hPrefix, fun hLater => ?_⟩
      obtain ⟨hHearsLater, hSame⟩ := hAll hLater
      exact ⟨hHearsLater, by rw [hSame]⟩
    · obtain ⟨hGone, hNone⟩ := @shared_posts_of_gone codec _ (hKeeps.registered h) session
        ((h.accepted session hIn).trans_le hKeeps.length) hStill handlers
      rw [hNone, List.append_nil]
      exact ⟨List.prefix_append _ _, fun hLater => absurd hLater hGone⟩

/-- All that handlers post besides writes are broadcasts to the sessions of two areas. -/
theorem posts_pair (g : TransportGateway) (handler : IoHandler) :
    ∀ t ∈ Executor.handlersOf (g.exec codec handler).2, ∃ b, t = .broadcastToPair b := by
  have hEffects : ∀ (clock : Nat → UInt64) (session : Nat) (effects : List (SessionEffect Command))
      (g : TransportGateway),
      ∀ t ∈ Executor.handlersOf (takeEffects codec clock session g effects).2, ∃ b, t = .broadcastToPair b := by
    intro clock session effects
    induction effects with
    | nil => exact fun _ => List.forall_mem_nil _
    | cons effect effects ih =>
      intro g
      cases effect with
      | send frame => exact ih g
      | push cmdMeta cmd => exact ih _
      | dispatch payload playerId areaId =>
        intro t ht
        rw [takeEffects, Executor.handlersOf_append] at ht
        rcases List.mem_append.mp ht with ht | ht
        · unfold onDispatch at ht
          split at ht
          · rw [Executor.handlersOf, List.filterMap_map] at ht
            obtain ⟨b, -, hb⟩ := List.mem_filterMap.mp ht
            exact ⟨b, (Option.some.inj hb).symm⟩
          · exact absurd ht List.not_mem_nil
        · exact ih _ t ht
  have hCopies : ∀ writes : List SocketWrite,
      Executor.handlersOf (writes.map (Sum.inr : SocketWrite → IoHandler ⊕ SocketWrite)) = [] := by
    intro writes
    simp [Executor.handlersOf, List.filterMap_map, Function.comp_def]
  cases handler with
  | event event =>
    cases event with
    | accept | readError => exact List.forall_mem_nil _
    | read session bytes around clock =>
      rw [exec, onRead]
      split
      · exact List.forall_mem_nil _
      · exact hEffects _ _ _ _
    | broadcast frame =>
      rw [exec, hCopies]
      exact List.forall_mem_nil _
  | broadcastToPair b =>
    rw [exec, hCopies]
    exact List.forall_mem_nil _

end TransportGateway

def joinFrame (payload : List Byte) : DecodedFrame := { msgType := MsgType.kHandshake, payload }

/-- Every handshake is by player A, and nothing else can be read. -/
def plainGateway : GatewayCodec where
  session :=
    { readHandshake := fun _ => some { playerId := some "A", authToken := some "t" }
      parsePayload := fun _ => none
      build := fun _ => [] }
  readChannel _ := none
  finishChannel _ := []

/-- A client joins and a broadcast is written to it. -/
def joinAndBroadcast : List (ExecutorAction IoEvent) :=
  [.enter .accept, .work, .enter (.read 0 (joinFrame [1]).encode (fun _ => {}) (fun _ => 0)), .work, .work, .work,
    .enter (.broadcast [7]), .work, .work, .work]

/-! ## Runs of the thread -/

section Runs

variable {codec : GatewayCodec} {coordinator : DispatchCoordinator} {actions : List (ExecutorAction IoEvent)}
  {e : IoThread}

/-- What is on the socket of a session and what is still on its way there. -/
def IoThread.sent (e : IoThread) (session : Nat) : List Outgoing :=
  contentsTo session e.out ++ contentsTo session (Executor.itemsOf (e.waiting ++ e.posting))

/-- The frames given to `broadcast`, in order. -/
def broadcastFrames (actions : List (ExecutorAction IoEvent)) : List (List Byte) :=
  broadcastsOf ((Executor.entered actions).map .event)

theorem IoThread.delivers (h : run (IoThread.step codec) (IoThread.start coordinator) actions = some e) :
    (∀ session, e.sent session =
      contentsTo session (Executor.itemsOf (Executor.posts (TransportGateway.exec codec) { coordinator } e.handled))) ∧
    TransportGateway.Replied codec e.state
      (Executor.itemsOf (Executor.posts (TransportGateway.exec codec) { coordinator } e.handled)) ∧
    TransportGateway.Heard e.state e.handled
      (Executor.itemsOf (Executor.posts (TransportGateway.exec codec) { coordinator } e.handled)) ∧
    broadcastsOf e.handled <+: broadcastFrames actions := by
  have h := IoThread.run_executor h
  have hSerial := Executor.serial_run h
  obtain ⟨hReplied, hHeard⟩ := @TransportGateway.delivers codec coordinator e.handled
  rw [← hSerial.state] at hReplied hHeard
  refine ⟨fun session => ?_, hReplied, hHeard, ?_⟩
  · rw [← hSerial.items, contentsTo_append]
    rfl
  · have hSilent : ∀ g handler,
        ∀ t ∈ Executor.handlersOf (TransportGateway.exec codec g handler).2, t.broadcast? = none :=
      fun g handler t ht => by
        obtain ⟨b, rfl⟩ := TransportGateway.posts_pair g handler t ht
        rfl
    have hQueued := Executor.selected_run hSilent h
    rw [broadcastFrames, broadcastsOf, broadcastsOf, List.filterMap_map, ← hQueued, ← hSerial.queued,
      List.filterMap_append]
    exact List.prefix_append _ _

/-- A step of the thread runs a handler, or leaves the gateway and what was handled as they are. -/
theorem IoThread.step_handles {e e' : IoThread} {a : ExecutorAction IoEvent} (h : e.step codec a = some e') :
    (e'.state = e.state ∧ e'.handled = e.handled) ∨
      ∃ handler, e'.state = (e.state.exec codec handler).1 ∧ e'.handled = e.handled ++ [handler] := by
  rcases Executor.step_cases (IoThread.step_executor h).2 with ⟨_, -, rfl⟩ | ⟨_, _, -, -, rfl⟩ |
    ⟨handler, _, -, -, -, -, rfl⟩ | ⟨_, _, -, -, -, -, rfl⟩ | ⟨-, rfl⟩
  · exact Or.inl ⟨rfl, rfl⟩
  · exact Or.inl ⟨rfl, rfl⟩
  · exact Or.inr ⟨handler, rfl, rfl⟩
  · exact Or.inl ⟨rfl, rfl⟩
  · exact Or.inl ⟨rfl, rfl⟩

/-- What is sent from one state of a run to a later one is what the handlers between them send. -/
theorem IoThread.sent_since {before during : List (ExecutorAction IoEvent)} {e₀ : IoThread}
    (h₀ : run (IoThread.step codec) (IoThread.start coordinator) before = some e₀)
    (h : run (IoThread.step codec) e₀ during = some e) : ∃ between, e.handled = e₀.handled ++ between ∧
      e.state = Executor.stateAfter (TransportGateway.exec codec) e₀.state between ∧
      ∀ session, e.sent session = e₀.sent session ++
        contentsTo session (Executor.itemsOf (Executor.posts (TransportGateway.exec codec) e₀.state between)) := by
  have hWhole := run_append.mpr ⟨e₀, h₀, h⟩
  obtain ⟨between, hBetween⟩ := Executor.handled_run (IoThread.run_executor h)
  have hState₀ := (Executor.serial_run (IoThread.run_executor h₀)).state
  have hState := (Executor.serial_run (IoThread.run_executor hWhole)).state
  refine ⟨between, hBetween.symm, ?_, fun session => ?_⟩
  · rw [hState, ← hBetween, Executor.stateAfter_append, ← hState₀]
  · rw [(IoThread.delivers hWhole).1, (IoThread.delivers h₀).1, ← hBetween, Executor.posts_append,
      Executor.itemsOf_append, contentsTo_append, ← hState₀]

/-- A session that listens is sent the broadcasts handled from then on, in order, and misses none while it is on the
register. -/
theorem IoThread.heard_since {before during : List (ExecutorAction IoEvent)} {e₀ : IoThread}
    (h₀ : run (IoThread.step codec) (IoThread.start coordinator) before = some e₀)
    (h : run (IoThread.step codec) e₀ during = some e) {session : Nat} (hListens : e₀.state.listens session = true) :
    ∃ between heard, e.handled = e₀.handled ++ between ∧ heard <+: broadcastsOf between ∧
      (e.sent session).filterMap Outgoing.shared? = (e₀.sent session).filterMap Outgoing.shared? ++ heard ∧
      (session ∈ e.state.sessions → e.state.hears session = true ∧ heard = broadcastsOf between) := by
  obtain ⟨between, hHandled, hState, hSent⟩ := IoThread.sent_since h₀ h
  obtain ⟨hPrefix, hAll⟩ := @TransportGateway.shared_posts_of_listens codec _
    (IoThread.delivers h₀).2.2.1.toRegistered session hListens between
  rw [hSent session, List.filterMap_append, hState]
  exact ⟨between, _, hHandled, hPrefix, rfl, hAll⟩

/-- A step in which a session does not listen sends it no broadcast; one that makes it listen finds that it has been
sent none. -/
theorem IoThread.silent_step {before : List (ExecutorAction IoEvent)} {e₀ : IoThread} {a : ExecutorAction IoEvent}
    (h₀ : run (IoThread.step codec) (IoThread.start coordinator) before = some e₀) (h : e₀.step codec a = some e)
    {session : Nat} (hNot : ¬ e₀.state.listens session = true) :
    (e.sent session).filterMap Outgoing.shared? = (e₀.sent session).filterMap Outgoing.shared? ∧
      (e.state.listens session = true → (e.sent session).filterMap Outgoing.shared? = []) := by
  have hRun : run (IoThread.step codec) e₀ [a] = some e := run_cons.mpr ⟨e, h, rfl⟩
  obtain ⟨between, hHandled, hState, hSent⟩ := IoThread.sent_since h₀ hRun
  obtain ⟨hSent₀, hReplied, hHeard, -⟩ := IoThread.delivers h₀
  rcases IoThread.step_handles h with ⟨hSame, hNone⟩ | ⟨handler, hNext, hOne⟩
  · have hEmpty : between = [] := List.append_right_eq_self.mp (hHandled.symm.trans hNone)
    subst hEmpty
    refine ⟨?_, fun hListens => absurd (hSame ▸ hListens) hNot⟩
    rw [hSent session]
    simp
  · have hSingle : between = [handler] := List.append_cancel_left (hHandled.symm.trans hOne)
    subst hSingle
    have hShared : (e.sent session).filterMap Outgoing.shared? = (e₀.sent session).filterMap Outgoing.shared? := by
      have hExec := @TransportGateway.shared_exec codec _ hHeard.nodup handler session
      rw [if_neg hNot] at hExec
      rw [hSent session, List.filterMap_append, Executor.posts, Executor.posts, List.append_nil]
      exact (congrArg (_ ++ ·) hExec).trans (List.append_nil _)
    refine ⟨hShared, fun hListens => ?_⟩
    obtain ⟨hIn, -⟩ := TransportGateway.listens_iff.mp hListens
    rw [hNext] at hIn
    rw [hShared, hSent₀ session]
    by_cases hHears : e₀.state.hears session = true
    · refine congrArg (List.filterMap Outgoing.shared?) (hReplied.unknown session (Nat.le_of_not_lt fun hLt => hNot ?_))
      exact TransportGateway.listens_iff.mpr ⟨(TransportGateway.keeps_exec _ handler).sessions session hIn hLt, hHears⟩
    · exact hHeard.unheard_exec hReplied hIn (by simpa using hHears)

/-- A session that listens, or has been sent a broadcast, has come to listen at some step of the run. -/
theorem IoThread.exists_listens (h : run (IoThread.step codec) (IoThread.start coordinator) actions = some e)
    {session : Nat} (hHeard : e.state.listens session = true ∨ (e.sent session).filterMap Outgoing.shared? ≠ []) :
    ∃ e₁, Enters (IoThread.step codec) (fun e => e.state.listens session = true) (IoThread.start coordinator)
      actions e₁ := by
  refine exists_enters (Q := fun e : IoThread =>
    e.state.listens session = true ∨ (e.sent session).filterMap Outgoing.shared? ≠ []) ?_ (fun _ => Or.inl) ?_ h hHeard
  · rintro (hListens | hSent)
    · cases hListens
    · exact hSent rfl
  · intro before u a v hBefore hStep hv
    by_cases hNot : u.state.listens session = true
    · exact Or.inl (Or.inl hNot)
    · rw [(IoThread.silent_step hBefore hStep hNot).1] at hv
      exact hv.symm.imp_left Or.inr

/-- From where a session has come to listen, it is sent the broadcasts handled from then on and no others. -/
theorem IoThread.heard_of_enters (h : run (IoThread.step codec) (IoThread.start coordinator) actions = some e)
    {session : Nat} {e₁ : IoThread} (hEnters : Enters (IoThread.step codec) (fun e => e.state.listens session = true)
      (IoThread.start coordinator) actions e₁) :
    ∃ since, e.handled = e₁.handled ++ since ∧
      (e.sent session).filterMap Outgoing.shared? <+: broadcastsOf since ∧
      (session ∈ e.state.sessions → (e.sent session).filterMap Outgoing.shared? = broadcastsOf since) := by
  obtain ⟨before, after, -, hBefore, hAfter⟩ := hEnters.run h
  obtain ⟨first, a, -, u, -, hFirst, hStep, hNot, hListens⟩ := hEnters
  obtain ⟨since, heard, hHandled, hPrefix, hSent, hAll⟩ := IoThread.heard_since hBefore hAfter hListens
  rw [(IoThread.silent_step hFirst hStep hNot).2 hListens, List.nil_append] at hSent
  rw [hSent]
  exact ⟨since, hHandled, hPrefix, fun hIn => (hAll hIn).2⟩

/-- However reads, broadcasts and writes are interleaved, the frames of its own that a session has sent are the replies
to the frames it has handled, in their order, numbered from zero without a gap. -/
theorem replies_inOrder (codec : GatewayCodec) {coordinator : DispatchCoordinator}
    {actions : List (ExecutorAction IoEvent)} {e : IoThread}
    (h : run (IoThread.step codec) (IoThread.start coordinator) actions = some e) (session : Nat)
    {c : Connection Command} (hSession : e.state.connections[session]? = some c) :
    (e.sent session).filterMap Outgoing.own? = replies c.handled ∧
      (contentsTo session e.out).filterMap Outgoing.own? <+: replies c.handled ∧
      (replies c.handled).map DecodedFrame.seqId =
        (List.range (replies c.handled).length).map fun i => BitVec.ofNat 32 i := by
  obtain ⟨hSent, hReplied, -, -⟩ := IoThread.delivers h
  have hOwn : (e.sent session).filterMap Outgoing.own? = replies c.handled := by
    rw [hSent session]
    exact hReplied.own session c hSession
  refine ⟨hOwn, ?_, ?_⟩
  · rw [← hOwn, IoThread.sent, List.filterMap_append]
    exact List.prefix_append _ _
  · have hNumbered := (hReplied.history session c hSession).numbered
    rw [NumberedFrom] at hNumbered
    rw [hNumbered]
    exact List.map_congr_left fun i _ => BitVec.zero_add _

theorem replies_inOrder_joined : ∃ e c, run (IoThread.step plainGateway) (IoThread.start {}) joinAndBroadcast = some e ∧
    e.state.connections[0]? = some c ∧ (contentsTo 0 e.out).filterMap Outgoing.own? <+: replies c.handled ∧
    replies c.handled ≠ [] := by
  have hTaken : (run (IoThread.step plainGateway) (IoThread.start {}) joinAndBroadcast).any (fun e =>
      (e.state.connections[0]?).any fun c => ! (replies c.handled).isEmpty) = true := by decide +kernel
  obtain ⟨e, hRun, hSession⟩ := (Option.any_eq_true _ _).mp hTaken
  obtain ⟨c, hSession, hReplies⟩ := (Option.any_eq_true _ _).mp hSession
  exact ⟨e, c, hRun, hSession, (replies_inOrder plainGateway hRun 0 hSession).2.1, by simpa using hReplies⟩

/-- What a session sends for one frame, the chunks of a snapshot above all, reaches its socket with nothing in between,
whatever is broadcast meanwhile. -/
theorem replies_unbroken (codec : GatewayCodec) {coordinator : DispatchCoordinator}
    {actions : List (ExecutorAction IoEvent)} {e : IoThread}
    (h : run (IoThread.step codec) (IoThread.start coordinator) actions = some e) (session : Nat)
    {c : Connection Command} (hSession : e.state.connections[session]? = some c) :
    ∀ handled ∈ c.handled, (sendsOf handled.effects).map Outgoing.own <:+: e.sent session := by
  obtain ⟨hSent, hReplied, -, -⟩ := IoThread.delivers h
  rw [hSent session]
  exact hReplied.together session c hSession

theorem replies_unbroken_joined : ∃ e c h,
    run (IoThread.step plainGateway) (IoThread.start {}) joinAndBroadcast = some e ∧
    e.state.connections[0]? = some c ∧ h ∈ c.handled ∧ sendsOf h.effects ≠ [] ∧
    (sendsOf h.effects).map Outgoing.own <:+: e.sent 0 := by
  have hTaken : (run (IoThread.step plainGateway) (IoThread.start {}) joinAndBroadcast).any (fun e =>
      (e.state.connections[0]?).any fun c => c.handled.any fun h => ! (sendsOf h.effects).isEmpty) = true := by
    decide +kernel
  obtain ⟨e, hRun, hSession⟩ := (Option.any_eq_true _ _).mp hTaken
  obtain ⟨c, hSession, hHandled⟩ := (Option.any_eq_true _ _).mp hSession
  obtain ⟨h, hIn, hSends⟩ := List.any_eq_true.mp hHandled
  exact ⟨e, c, h, hRun, hSession, hIn, by simpa using hSends, replies_unbroken plainGateway hRun 0 hSession h hIn⟩

/-- The broadcasts that go to a session are a stretch of those posted: in order, none twice and none left out from the
first to the last. Between two states of a run a session that is active and stays registered is sent exactly the
broadcasts handled between them; so it has missed none since the step with which it became active. -/
theorem broadcasts_unbroken (codec : GatewayCodec) {coordinator : DispatchCoordinator}
    {before during : List (ExecutorAction IoEvent)} {e₀ e : IoThread}
    (h₀ : run (IoThread.step codec) (IoThread.start coordinator) before = some e₀)
    (h : run (IoThread.step codec) e₀ during = some e) (session : Nat) :
    (e.sent session).filterMap Outgoing.shared? <:+: broadcastFrames (before ++ during) ∧
      broadcastsOf e.handled <+: broadcastFrames (before ++ during) ∧
      (session ∈ e.state.sessions → e.state.hears session = true →
        (e.sent session).filterMap Outgoing.shared? <:+ broadcastsOf e.handled) ∧
      (session ∈ e.state.sessions → e.state.hears session = false →
        (e.sent session).filterMap Outgoing.shared? = []) ∧
      (e₀.state.listens session = true → session ∈ e.state.sessions → e.state.hears session = true ∧
        ∃ between, e.handled = e₀.handled ++ between ∧
          (e.sent session).filterMap Outgoing.shared? =
            (e₀.sent session).filterMap Outgoing.shared? ++ broadcastsOf between) ∧
      (e.state.listens session = true → ∃ e₁ since,
        Enters (IoThread.step codec) (fun e => e.state.listens session = true) (IoThread.start coordinator)
          (before ++ during) e₁ ∧
        e.handled = e₁.handled ++ since ∧ (e.sent session).filterMap Outgoing.shared? = broadcastsOf since) := by
  have hWhole := run_append.mpr ⟨e₀, h₀, h⟩
  obtain ⟨hSent, -, hHeard, hPosted⟩ := IoThread.delivers hWhole
  refine ⟨?_, hPosted, ?_, ?_, fun hListens hIn => ?_, fun hListens => ?_⟩
  · rw [hSent session]
    exact (hHeard.block session).trans hPosted.isInfix
  · rw [hSent session]
    exact hHeard.heard session
  · rw [hSent session]
    exact hHeard.unheard session
  · obtain ⟨between, heard, hHandled, -, hShared, hAll⟩ := IoThread.heard_since h₀ h hListens
    obtain ⟨hHears, rfl⟩ := hAll hIn
    exact ⟨hHears, between, hHandled, hShared⟩
  · obtain ⟨e₁, hEnters⟩ := IoThread.exists_listens hWhole (Or.inl hListens)
    obtain ⟨since, hHandled, -, hAll⟩ := IoThread.heard_of_enters hWhole hEnters
    exact ⟨e₁, since, hEnters, hHandled, hAll (TransportGateway.listens_iff.mp hListens).1⟩

/-- A second client joins, and a second broadcast is written to both. -/
def secondJoins : List (ExecutorAction IoEvent) :=
  [.enter .accept, .work, .enter (.read 1 (joinFrame [2]).encode (fun _ => {}) (fun _ => 0)), .work, .work, .work,
    .enter (.broadcast [8]), .work, .work, .work, .work, .work]

/-- The first client is sent one broadcast more, and the second is sent that one only. -/
theorem broadcasts_unbroken_joined : ∃ e₀ e between e₁ since,
    run (IoThread.step plainGateway) (IoThread.start {}) joinAndBroadcast = some e₀ ∧
    run (IoThread.step plainGateway) e₀ secondJoins = some e ∧
    e.handled = e₀.handled ++ between ∧ broadcastsOf e.handled = [[7], [8]] ∧
    (e₀.sent 0).filterMap Outgoing.shared? = [[7]] ∧
    (e.sent 0).filterMap Outgoing.shared? = (e₀.sent 0).filterMap Outgoing.shared? ++ broadcastsOf between ∧
    Enters (IoThread.step plainGateway) (fun e => e.state.listens 1 = true) (IoThread.start {})
      (joinAndBroadcast ++ secondJoins) e₁ ∧
    e.handled = e₁.handled ++ since ∧ (e.sent 1).filterMap Outgoing.shared? = broadcastsOf since ∧
    broadcastsOf since = [[8]] := by
  have hTaken : (run (IoThread.step plainGateway) (IoThread.start {}) joinAndBroadcast).any (fun e₀ =>
      (run (IoThread.step plainGateway) e₀ secondJoins).any fun e =>
        e₀.state.listens 0 && decide ((e₀.sent 0).filterMap Outgoing.shared? = [[7]]) && e.state.listens 0 &&
          e.state.listens 1 && decide (broadcastsOf e.handled = [[7], [8]]) &&
          decide ((e.sent 1).filterMap Outgoing.shared? = [[8]])) = true := by decide +kernel
  obtain ⟨e₀, hBefore, hRest⟩ := (Option.any_eq_true _ _).mp hTaken
  obtain ⟨e, hDuring, hTest⟩ := (Option.any_eq_true _ _).mp hRest
  simp only [Bool.and_eq_true, decide_eq_true_eq] at hTest
  obtain ⟨⟨⟨⟨⟨hFirst, hSeven⟩, hStays⟩, hSecond⟩, hBoth⟩, hEight⟩ := hTest
  obtain ⟨-, -, -, -, hGrows, -⟩ := broadcasts_unbroken plainGateway hBefore hDuring 0
  obtain ⟨-, between, hBetween, hSent⟩ := hGrows hFirst (TransportGateway.listens_iff.mp hStays).1
  obtain ⟨-, -, -, -, -, hSince⟩ := broadcasts_unbroken plainGateway hBefore hDuring 1
  obtain ⟨e₁, since, hEnters, hHandled, hHeard⟩ := hSince hSecond
  exact ⟨e₀, e, between, e₁, since, hBefore, hDuring, hBetween, hBoth, hSeven, hSent, hEnters, hHandled, hHeard,
    hHeard ▸ hEight⟩

end Runs

end Symulator.Server
