import Symulator.Server.ClientMirror
import Symulator.Server.RejectionNotices
import Symulator.Server.TransportGateway

/-! # The session server

Two threads and a terminal share the server. The thread of the gateway queues commands and serves the published
snapshot. The thread of the engine ticks: it takes commands, then fleet commands, moves the trains, publishes a
snapshot and reports the changes of the tick. Whatever it broadcasts it posts to the gateway frame by frame, and the
other thread may come between any two of its steps.
-/

namespace Symulator.Server

open Symulator.Library Symulator.Engine Symulator.Srk

set_option autoImplicit false

/-- Where the engine stands in its tick. -/
inductive TickPhase
  | commands (processed : Nat)
  | fleetCommands
  | report
deriving DecidableEq

/-- What the FlatBuffers of clients, events and snapshots are read and built with. -/
structure ServerCodec where
  gateway : GatewayCodec
  body : DomainEvent → List Byte
  finish : Proto.Snapshot → List Byte

/-- The changes and frames of the tick that have yet to go out belong to the engine. The commands taken, the fleet
commands queued and the ticks are history: a tick is the world it started from with what it took. -/
structure SessionServer (φ : Type) where
  io : IoThread
  cmdQueue : PriorityCommandQueue (Nat × EnvelopedCommand) := {}
  fleetCommands : List (FleetCommand φ) := []
  world : World φ
  phase : TickPhase := .commands 0
  changes : List DeviceStateChange := []
  posting : List (List Byte) := []
  dispatchBus : DispatchBus := {}
  snapshot : Option EngineSnapshot := none
  taken : List (Nat × EnvelopedCommand) := []
  fleetQueued : List (FleetCommand φ) := []
  started : World φ
  input : TickInput φ := {}
  ticks : List (World φ × TickInput φ) := []

/-- A step of the gateway's thread, a command of the terminal, or a step of the engine, which may read the clock. -/
inductive ServerAction (φ : Type)
  | io (a : ExecutorAction IoEvent)
  | terminal (cmd : FleetCommand φ)
  | engine (timestampUs : BitVec 64)

def isBroadcast : ExecutorAction IoEvent → Bool
  | .enter (.broadcast _) => true
  | .enter .accept | .enter (.read ..) | .enter (.readError _) | .work | .fail => false

namespace SessionServer

variable {φ : Type}

def start (coordinator : DispatchCoordinator) (world : World φ) : SessionServer φ where
  io := IoThread.start coordinator
  world
  started := world

variable (dynamics : TrainDynamics φ) (codec : ServerCodec)

/-- The snapshot as it is served. -/
def served (s : SessionServer φ) : Option (List Byte) := s.snapshot.map fun snap => codec.finish (serialize snap)

/-- The frames of a read find the published snapshot, the open queue and the handler of the dispatch channel. -/
def findsServer (s : SessionServer φ) : IoHandler → Bool
  | .event (.read session bytes around _) =>
    (s.io.state.connections[session]?).all fun c =>
      (List.range (c.receive codec.gateway.session around bytes).handled.length).all fun i =>
        i < c.handled.length ||
          ((around i).snapshot = s.served codec && (around i).queueOpen && (around i).dispatchChannelHandler)
  | .event .accept | .event (.readError _) | .event (.broadcast _) | .broadcastToPair _ => true

/-- The handler that runs next finds the server as it is. -/
def findsAll (s : SessionServer φ) : ExecutorAction IoEvent → Bool
  | .work =>
    match s.io.posting, s.io.waiting with
    | [], .inl h :: _ => s.findsServer codec h
    | _, _ => true
  | .enter _ | .fail => true

/-- What the sessions have queued in the step goes to the command queue. -/
def queueNew (s : SessionServer φ) (io : IoThread) : SessionServer φ :=
  { s with
    io
    cmdQueue := (io.state.pushed.drop s.io.state.pushed.length).foldl
      (fun queue env => queue.push env .normal) s.cmdQueue }

/-- An action of the tick; the changes it lists join those of the tick. -/
def act (s : SessionServer φ) (a : Action φ) : SessionServer φ :=
  let p := World.attemptListed dynamics (s.world, s.changes) a
  { s with world := p.1, changes := p.2 }

/-- A command that its check refuses is answered with a notice to all. -/
def takeCommand (s : SessionServer φ) (processed : Nat) (next : Nat × EnvelopedCommand) : SessionServer φ :=
  { s.act dynamics (.command next.2.payload) with
    phase := .commands (processed + 1)
    posting :=
      ((s.world.control.checkCommand s.world.state next.2.payload).map fun v =>
        (makeNakFrame codec.gateway.session.build next.2.cmdMeta.seqId v).encode).toList
    taken := s.taken ++ [next]
    input := { s.input with queue := s.input.queue ++ [next.2.payload] } }

def takeFleetCommand (s : SessionServer φ) (cmd : FleetCommand φ) : SessionServer φ :=
  { s.act dynamics (.fleetCommand cmd) with input := { s.input with fleetCommands := s.input.fleetCommands ++ [cmd] } }

/-- The trains have their turn, the tick counter advances and the snapshot is published. -/
def endTick (s : SessionServer φ) : SessionServer φ :=
  let s := if s.world.fleet.isEmpty then s else s.act dynamics .tickTrains
  let s := s.act dynamics .advanceTick
  { s with
    snapshot := some (publish dynamics s.world.state s.world.fleet)
    phase := .report
    ticks := s.ticks ++ [(s.started, s.input)] }

/-- The events of the tick are made, and the next tick begins. -/
def report (s : SessionServer φ) (timestampUs : BitVec 64) : SessionServer φ :=
  let (dispatchBus, posting) := onStateChanges codec.body s.dispatchBus timestampUs s.changes
  { s with dispatchBus, posting, changes := [], phase := .commands 0, started := s.world, input := {} }

def engineStep (s : SessionServer φ) (timestampUs : BitVec 64) : Option (SessionServer φ) :=
  match s.posting with
  | frame :: posting => (s.io.step codec.gateway (.enter (.broadcast frame))).map fun io => { s with io, posting }
  | [] =>
    match s.phase with
    | .commands processed =>
      match if processed < maxCmdsPerTick then s.cmdQueue.tryPop else none with
      | some (next, cmdQueue) => some ({ s with cmdQueue }.takeCommand dynamics codec processed next)
      | none => some { s.act dynamics .onTick with phase := .fleetCommands }
    | .fleetCommands =>
      match s.fleetCommands with
      | cmd :: fleetCommands => some ({ s with fleetCommands }.takeFleetCommand dynamics cmd)
      | [] => some (s.endTick dynamics)
    | .report => some (s.report codec timestampUs)

/-- An exception that leaves the thread of the gateway ends the server. -/
def step (s : SessionServer φ) : ServerAction φ → Option (SessionServer φ)
  | .io a =>
    if isBroadcast a then none
    else if s.findsAll codec a then (s.io.step codec.gateway a).map s.queueNew
    else none
  | .terminal cmd =>
    if s.io.halted then none
    else some { s with fleetCommands := s.fleetCommands ++ [cmd], fleetQueued := s.fleetQueued ++ [cmd] }
  | .engine timestampUs => if s.io.halted then none else s.engineStep dynamics codec timestampUs

/-! ## What a step can do -/

variable {s s' : SessionServer φ}

/-- Besides what the gateway and the terminal do, the engine posts a frame, takes a command, lets the control system
tick, takes a fleet command, ends the tick or reports it. -/
inductive Moves (s : SessionServer φ) : SessionServer φ → Prop
  | io {a : ExecutorAction IoEvent} {io : IoThread} (hOther : isBroadcast a = false)
      (hFinds : s.findsAll codec a = true) (hStep : s.io.step codec.gateway a = some io) : Moves s (s.queueNew io)
  | terminal (cmd : FleetCommand φ) :
    Moves s { s with fleetCommands := s.fleetCommands ++ [cmd], fleetQueued := s.fleetQueued ++ [cmd] }
  | post {frame : List Byte} {posting : List (List Byte)} {io : IoThread} (hPosting : s.posting = frame :: posting)
      (hStep : s.io.step codec.gateway (.enter (.broadcast frame)) = some io) : Moves s { s with io, posting }
  | command {processed : Nat} {next : Nat × EnvelopedCommand} {cmdQueue : PriorityCommandQueue (Nat × EnvelopedCommand)}
      (hPosting : s.posting = []) (hPhase : s.phase = .commands processed) (hMore : processed < maxCmdsPerTick)
      (hPop : s.cmdQueue.tryPop = some (next, cmdQueue)) :
    Moves s ({ s with cmdQueue }.takeCommand dynamics codec processed next)
  | onTick {processed : Nat} (hPosting : s.posting = []) (hPhase : s.phase = .commands processed)
      (hDrained : processed < maxCmdsPerTick → s.cmdQueue.tryPop = none) :
    Moves s { s.act dynamics .onTick with phase := .fleetCommands }
  | fleetCommand {cmd : FleetCommand φ} {fleetCommands : List (FleetCommand φ)} (hPosting : s.posting = [])
      (hPhase : s.phase = .fleetCommands) (hQueue : s.fleetCommands = cmd :: fleetCommands) :
    Moves s ({ s with fleetCommands }.takeFleetCommand dynamics cmd)
  | endTick (hPosting : s.posting = []) (hPhase : s.phase = .fleetCommands) (hQueue : s.fleetCommands = []) :
    Moves s (s.endTick dynamics)
  | report (timestampUs : BitVec 64) (hPosting : s.posting = []) (hPhase : s.phase = .report) :
    Moves s (s.report codec timestampUs)

variable {dynamics codec}

theorem engineStep_moves {timestampUs : BitVec 64} (h : s.engineStep dynamics codec timestampUs = some s') :
    Moves dynamics codec s s' := by
  unfold engineStep at h
  split at h
  · rename_i frame posting hPosting
    obtain ⟨io, hStep, rfl⟩ := Option.map_eq_some_iff.mp h
    exact .post hPosting hStep
  rename_i hPosting
  split at h
  · rename_i processed hPhase
    split at h
    · rename_i next cmdQueue hPop
      cases h
      split at hPop
      · rename_i hMore
        exact .command hPosting hPhase hMore hPop
      · cases hPop
    · rename_i hNone
      cases h
      exact .onTick hPosting hPhase fun hMore => by rwa [if_pos hMore] at hNone
  · rename_i hPhase
    split at h
    · rename_i cmd fleetCommands hQueue
      cases h
      exact .fleetCommand hPosting hPhase hQueue
    · rename_i hQueue
      cases h
      exact .endTick hPosting hPhase hQueue
  · rename_i hPhase
    cases h
    exact .report timestampUs hPosting hPhase

theorem step_moves {a : ServerAction φ} (h : s.step dynamics codec a = some s') : Moves dynamics codec s s' := by
  cases a with
  | io a =>
    simp only [step] at h
    split at h
    · cases h
    · rename_i hOther
      split at h
      · rename_i hFinds
        obtain ⟨io, hStep, rfl⟩ := Option.map_eq_some_iff.mp h
        exact .io (Bool.eq_false_iff.mpr hOther) hFinds hStep
      · cases h
  | terminal cmd =>
    simp only [step] at h
    split at h
    · cases h
    · cases h
      exact .terminal cmd
  | engine timestampUs =>
    simp only [step] at h
    split at h
    · cases h
    · exact engineStep_moves h

end SessionServer

end Symulator.Server
