import Symulator.Server.CommandWaiting
import Symulator.Server.GatewayHalts

/-! # The end of the server

The server is stopped by a thread of its own. It joins the thread of the terminal, has the engine end its tick and joins
it, drops the dispatch channel, joins the thread of the gateway and closes the sessions. While it closes them it holds
the lock of their register, and a session that closes takes itself off the register under the same lock.
-/

namespace Symulator.Server

open Symulator.Library Symulator.Engine Symulator.Srk

set_option autoImplicit false

/-- How far the stop has come. Of the sessions to be closed, one may wait for the lock of the register. -/
inductive StopPhase
  | running
  | terminalGone
  | engineGone
  | closing (sessions : List Nat)
  | unregistering (session : Nat) (sessions : List Nat)
  | stopped
  | crashed
deriving DecidableEq

structure StoppingServer (φ : Type) where
  server : SessionServer φ
  phase : StopPhase := .running
  sessionsLocked : Bool := false

inductive StoppingServerAction (φ : Type)
  | server (a : ServerAction φ)
  | stop

namespace SessionServer

variable {φ : Type}

/-- The engine asks whether it is to stop before each of its ticks. -/
def atLoopHead (s : SessionServer φ) : Bool := s.phase = .commands 0 && s.posting.isEmpty

/-- A frame of the read is for the dispatch channel. -/
def callsChannel (codec : GatewayCodec) (g : TransportGateway) : IoHandler → Bool
  | .event (.read session bytes around _) =>
    (g.connections[session]?).any fun c =>
      (TransportGateway.newEffects c (c.receive codec.session around bytes)).any fun
        | .dispatch .. => true
        | .send _ | .push .. => false
  | .event .accept | .event (.readError _) | .event (.broadcast _) | .broadcastToPair _ => false

def callsChannelNext (codec : GatewayCodec) (s : SessionServer φ) : ServerAction φ → Bool
  | .io .work =>
    match s.io.posting, s.io.waiting with
    | [], .inl h :: _ => callsChannel codec s.io.state h
    | _, _ => false
  | .io (.enter _) | .io .fail | .terminal _ | .engine _ => false

end SessionServer

namespace StoppingServer

variable {φ : Type}

def start (coordinator : DispatchCoordinator) (world : World φ) : StoppingServer φ where
  server := SessionServer.start coordinator world

/-- The thread has not been joined. The engine that is to stop ends its tick. -/
def goes (t : StoppingServer φ) : ServerAction φ → Bool
  | .terminal _ => t.phase = .running
  | .engine _ => t.phase = .running || t.phase = .terminalGone && ! t.server.atLoopHead
  | .io _ => t.phase = .running || t.phase = .terminalGone || t.phase = .engineGone

def setGateway (t : StoppingServer φ) (g : TransportGateway) : StoppingServer φ :=
  { t with server := { t.server with io := { t.server.io with state := g } } }

/-- The socket is closed, and then the session is to come off the register. -/
def closeSession (t : StoppingServer φ) (session : Nat) : StoppingServer φ :=
  t.setGateway { t.server.io.state with
    connections := t.server.io.state.connections.modify session fun c => { c with session := c.session.close } }

def unregisterSession (t : StoppingServer φ) (session : Nat) : Option (StoppingServer φ) :=
  if t.sessionsLocked then none
  else
    some (t.setGateway { t.server.io.state with sessions := t.server.io.state.sessions.filter (· ≠ session) })

/-- The thread that stops the server. It joins the gateway's thread when that has ended the handler it runs; whatever
else was posted is dropped. -/
def stop (t : StoppingServer φ) : Option (StoppingServer φ) :=
  if t.server.io.halted then none
  else
    match t.phase with
    | .running => some { t with phase := .terminalGone }
    | .terminalGone => if t.server.atLoopHead then some { t with phase := .engineGone } else none
    | .engineGone =>
      if t.server.io.posting.isEmpty then
        some { t with phase := .closing t.server.io.state.sessions, sessionsLocked := true }
      else none
    | .closing (session :: sessions) => some { t.closeSession session with phase := .unregistering session sessions }
    | .unregistering session sessions =>
      (t.unregisterSession session).map fun t => { t with phase := .closing sessions }
    | .closing [] =>
      some { t.setGateway { t.server.io.state with sessions := [] } with phase := .stopped, sessionsLocked := false }
    | .stopped | .crashed => none

variable (dynamics : TrainDynamics φ) (codec : ServerCodec)

/-- The handler of the dispatch channel is still set when the channel is gone. -/
def step (t : StoppingServer φ) : StoppingServerAction φ → Option (StoppingServer φ)
  | .server a =>
    if t.goes a then
      (t.server.step dynamics codec a).map fun server =>
        if t.phase = .engineGone && t.server.callsChannelNext codec.gateway a then { t with phase := .crashed }
        else { t with server }
    else none
  | .stop => t.stop

end StoppingServer

/-! ## A session that keeps still -/

namespace IoThread

variable {codec : GatewayCodec} {session : Nat}

/-- The session is registered, and nothing that waits comes from its client. -/
structure Still (session : Nat) (e : IoThread) : Prop where
  registered : session ∈ e.state.sessions
  silent : ∀ h ∈ Executor.handlersOf (e.waiting ++ e.posting), ¬ TransportGateway.Concerns session h

theorem mem_sessions_exec {g : TransportGateway} {handler : IoHandler} (h : ¬ TransportGateway.Concerns session handler)
    (hSession : session ∈ g.sessions) : session ∈ (g.exec codec handler).1.sessions := by
  cases handler with
  | event event =>
    cases event with
    | accept => exact List.mem_append_left _ hSession
    | read other bytes around clock =>
      cases hc : g.connections[other]? with
      | none => rwa [TransportGateway.exec_read_of_none hc]
      | some c =>
        rw [(@TransportGateway.exec_read codec _ _ _ hc bytes around clock).2.1]
        split
        · exact hSession
        · exact List.mem_filter.mpr ⟨hSession, decide_eq_true (Ne.symm h)⟩
    | readError other => exact List.mem_filter.mpr ⟨hSession, decide_eq_true (Ne.symm h)⟩
    | broadcast frame => exact hSession
  | broadcastToPair b => exact hSession

theorem Still.step {e e' : IoThread} {a : ExecutorAction IoEvent} (h : e.Still session)
    (hOther : ∀ event, a = .enter event → ¬ TransportGateway.Concerns session (.event event))
    (hStep : e.step codec a = some e') : e'.Still session := by
  obtain ⟨-, hStep⟩ := IoThread.step_executor hStep
  rcases Executor.step_cases hStep with ⟨event, rfl, rfl⟩ | ⟨posted, posting, rfl, hPosting, rfl⟩ |
    ⟨handler, waiting, rfl, hPosting, hWaiting, -, rfl⟩ | ⟨item, waiting, rfl, hPosting, hWaiting, -, rfl⟩ | ⟨rfl, rfl⟩
  · refine ⟨h.registered, fun t ht => ?_⟩
    simp only [Executor.handlersOf_append, Executor.handlersOf_inl, Executor.handlersOf_nil, List.append_assoc,
      List.mem_append, List.mem_singleton] at ht
    rcases ht with hOld | rfl | hOld
    · exact h.silent t (by simp [hOld])
    · exact hOther event rfl
    · exact h.silent t (by simp [hOld])
  · refine ⟨h.registered, fun t ht => h.silent t ?_⟩
    rw [hPosting]
    simpa using ht
  · refine ⟨mem_sessions_exec (h.silent handler (by simp [hWaiting])) h.registered, fun t ht => ?_⟩
    rw [Executor.handlersOf_append] at ht
    rcases List.mem_append.mp ht with ht | ht
    · exact h.silent t (by simp [hWaiting, ht])
    · obtain ⟨b, rfl⟩ := TransportGateway.posts_pair _ _ t ht
      exact id
  · refine ⟨h.registered, fun t ht => h.silent t ?_⟩
    simpa [hWaiting] using ht
  · exact ⟨h.registered, h.silent⟩

end IoThread

namespace SessionServer

variable {φ : Type} {dynamics : TrainDynamics φ} {codec : ServerCodec} {s s' : SessionServer φ}

/-- The action brings something from the client of the session. -/
def Brings (session : Nat) : ServerAction φ → Prop
  | .io (.enter event) => TransportGateway.Concerns session (.event event)
  | .io .work | .io .fail | .terminal _ | .engine _ => False

theorem io_engineStep {timestampUs : BitVec 64} (h : s.engineStep dynamics codec timestampUs = some s') :
    s'.io = s.io ∨ ∃ frame, s.io.step codec.gateway (.enter (.broadcast frame)) = some s'.io := by
  unfold engineStep at h
  split at h
  · rename_i frame posting hPosting
    obtain ⟨io, hStep, rfl⟩ := Option.map_eq_some_iff.mp h
    exact Or.inr ⟨frame, hStep⟩
  · left
    split at h
    · split at h <;> cases h <;> rfl
    · split at h
      · cases h
        rfl
      · cases h
        rw [endTick_eq]
    · cases h
      rfl

theorem still_step {session : Nat} {a : ServerAction φ} (h : s.io.Still session) (hOther : ¬ Brings session a)
    (hStep : s.step dynamics codec a = some s') : s'.io.Still session := by
  cases a with
  | io a =>
    simp only [step] at hStep
    split at hStep
    · cases hStep
    · split at hStep
      · obtain ⟨io, hIo, rfl⟩ := Option.map_eq_some_iff.mp hStep
        refine h.step ?_ hIo
        rintro event rfl
        exact hOther
      · cases hStep
  | terminal cmd =>
    simp only [step] at hStep
    split at hStep
    · cases hStep
    · cases hStep
      exact h
  | engine timestampUs =>
    simp only [step] at hStep
    split at hStep
    · cases hStep
    · rcases io_engineStep hStep with hSame | ⟨frame, hEnter⟩
      · rwa [hSame]
      · refine h.step ?_ hEnter
        intro event hEvent
        cases hEvent
        exact id

end SessionServer

namespace StoppingServer

variable {φ : Type} {dynamics : TrainDynamics φ} {codec : ServerCodec} {t t' : StoppingServer φ} {session : Nat}

/-- As long as the gateway's thread runs the session keeps still, and when it has been joined the session is closed
under the lock of the register. -/
def InTheWay (session : Nat) (t : StoppingServer φ) : Prop :=
  match t.phase with
  | .running | .terminalGone | .engineGone => t.server.io.Still session
  | .closing sessions => session ∈ sessions ∧ t.sessionsLocked = true
  | .unregistering _ _ => t.sessionsLocked = true
  | .stopped => False
  | .crashed => True

theorem inTheWay_stop (h : t.InTheWay session) (hStop : t.stop = some t') : t'.InTheWay session := by
  obtain ⟨server, phase, locked⟩ := t
  unfold stop at hStop
  split at hStop
  · cases hStop
  cases phase with
  | running =>
    cases hStop
    exact h
  | terminalGone =>
    simp only at hStop
    split at hStop
    · cases hStop
      exact h
    · cases hStop
  | engineGone =>
    simp only at hStop
    split at hStop
    · cases hStop
      exact ⟨h.registered, rfl⟩
    · cases hStop
  | closing sessions =>
    cases sessions with
    | nil => exact absurd h.1 List.not_mem_nil
    | cons first sessions =>
      cases hStop
      exact h.2
  | unregistering first sessions =>
    have hLocked : locked = true := h
    simp only [unregisterSession, if_pos hLocked] at hStop
    cases hStop
  | stopped | crashed => cases hStop

theorem InTheWay.step {a : StoppingServerAction φ} (h : t.InTheWay session)
    (hOther : ∀ b, a = .server b → ¬ SessionServer.Brings session b) (hStep : t.step dynamics codec a = some t') :
    t'.InTheWay session := by
  cases a with
  | stop => exact inTheWay_stop h hStep
  | server b =>
    simp only [StoppingServer.step] at hStep
    split at hStep
    · rename_i hGoes
      obtain ⟨server, hServer, rfl⟩ := Option.map_eq_some_iff.mp hStep
      split
      · trivial
      · obtain ⟨before, phase, locked⟩ := t
        have hNext : before.io.Still session → server.io.Still session := fun hStill =>
          SessionServer.still_step hStill (hOther b rfl) hServer
        cases phase with
        | running | terminalGone | engineGone => exact hNext h
        | closing | unregistering | stopped | crashed => cases b <;> simp [goes] at hGoes
    · cases hStep

/-- The engine is to stop, and the server lives. -/
structure EngineStops (g : TransportGateway) (t : StoppingServer φ) : Prop where
  phase : t.phase = .terminalGone
  lives : t.server.io.halted = false
  gateway : t.server.io.state = g

variable {g : TransportGateway}

theorem step_engine {timestampUs : BitVec 64} {server : SessionServer φ} (h : t.EngineStops g)
    (hHead : t.server.atLoopHead = false) (hStep : t.server.step dynamics codec (.engine timestampUs) = some server)
    (hLives : server.io.halted = false) : ∃ t', t.step dynamics codec (.server (.engine timestampUs)) = some t' ∧
      t'.EngineStops g ∧ t'.server = server := by
  have hState : server.io.state = t.server.io.state := by
    simp only [SessionServer.step, h.lives, Bool.false_eq_true, if_false] at hStep
    rcases SessionServer.io_engineStep hStep with hSame | ⟨frame, hEnter⟩
    · rw [hSame]
    · obtain ⟨io, hNext, -, hState⟩ := @SessionServer.exists_enter t.server.io codec.gateway h.lives frame
      rw [hNext] at hEnter
      cases hEnter
      exact hState
  refine ⟨{ t with server }, ?_, ⟨h.phase, hLives, hState.trans h.gateway⟩, rfl⟩
  simp [step, goes, h.phase, hHead, hStep]

/-- The frames of the report are posted, and the tick is over. -/
theorem exists_head_of_posting (h : t.EngineStops g) (hPhase : t.server.phase = .commands 0) (timestampUs : BitVec 64) :
    ∃ n t', run (step dynamics codec) t (List.replicate n (.server (.engine timestampUs))) = some t' ∧
      t'.EngineStops g ∧ t'.server.atLoopHead = true := by
  induction hPosting : t.server.posting generalizing t with
  | nil => exact ⟨0, t, rfl, h, by simp [SessionServer.atLoopHead, hPhase, hPosting]⟩
  | cons frame posting ih =>
    obtain ⟨io, hEnter, hLives, -⟩ := @SessionServer.exists_enter t.server.io codec.gateway h.lives frame
    obtain ⟨t₁, hStep, hStops, hServer⟩ := @step_engine φ dynamics codec t g timestampUs
      { t.server with io, posting } h (by simp [SessionServer.atLoopHead, hPosting])
      (by simp [SessionServer.step, h.lives, SessionServer.engineStep, hPosting, hEnter]) hLives
    obtain ⟨n, t', hRun, hEnd⟩ := ih hStops (by rw [hServer]; exact hPhase) (by rw [hServer])
    exact ⟨n + 1, t', run_cons.mpr ⟨t₁, hStep, hRun⟩, hEnd⟩

/-- The engine ends its tick. -/
theorem exists_head (h : t.EngineStops g) (timestampUs : BitVec 64) :
    ∃ n t', run (step dynamics codec) t (List.replicate n (.server (.engine timestampUs))) = some t' ∧
      t'.EngineStops g ∧ t'.server.atLoopHead = true := by
  induction hLeft : t.server.stepsLeft using Nat.strong_induction_on generalizing t with
  | _ left ih =>
    cases hHead : t.server.atLoopHead with
    | true => exact ⟨0, t, rfl, h, hHead⟩
    | false =>
      obtain ⟨server, hServer, hLives, -, hNext⟩ :=
        @SessionServer.exists_engine_step φ dynamics codec t.server h.lives timestampUs
      obtain ⟨t₁, hStep, hStops, rfl⟩ := step_engine h hHead hServer hLives
      rcases hNext with ⟨-, hNearer⟩ | ⟨-, hReport, hPosting, -⟩
      · obtain ⟨n, t', hRun, hEnd⟩ := ih t₁.server.stepsLeft (hLeft ▸ hNearer) hStops rfl
        exact ⟨n + 1, t', run_cons.mpr ⟨t₁, hStep, hRun⟩, hEnd⟩
      · -- the report is still to be made
        obtain ⟨t₂, hStep', hStops', hReported⟩ := @step_engine φ dynamics codec t₁ g timestampUs
          (t₁.server.report codec timestampUs) hStops (by simp [SessionServer.atLoopHead, hReport])
          (by simp [SessionServer.step, hStops.lives, SessionServer.engineStep, hPosting, hReport]) hStops.lives
        obtain ⟨n, t', hRun, hEnd⟩ := exists_head_of_posting hStops' (by rw [hReported]; rfl) timestampUs
        exact ⟨n + 1 + 1, t', run_cons.mpr ⟨t₁, hStep, run_cons.mpr ⟨t₂, hStep', hRun⟩⟩, hEnd⟩

end StoppingServer

end Symulator.Server
