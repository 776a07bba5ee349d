import Symulator.Library.Executor
import Symulator.Server.Segmentation

/-! # The transport gateway

One thread accepts connections, handles what comes in on them and writes to their sockets. Whatever it does is
posted to it: a read that has completed, a frame that the engine broadcasts, and every single write. The sessions
that get broadcasts are those still registered that are active when the broadcast has its turn.
-/

namespace Symulator.Server

open Symulator.Library Symulator.Engine

set_option autoImplicit false

/-- What others post: the network, and the thread of the engine with its broadcasts. -/
inductive IoEvent
  | accept
  | read (session : Nat) (bytes : List Byte) (around : Nat → Surroundings) (channelClock : Nat → UInt64)
  | readError (session : Nat)
  | broadcast (frame : List Byte)

inductive IoHandler
  | event (e : IoEvent)
  | broadcastToPair (b : PairBroadcast)

/-- A frame is the session's own, numbered by it, or the copy of a broadcast. -/
inductive Outgoing
  | own (frame : DecodedFrame)
  | shared (frame : List Byte)
  | paired (frame : List Byte)

def Outgoing.bytes : Outgoing → List Byte
  | .own frame => frame.encode
  | .shared frame | .paired frame => frame

def Outgoing.own? : Outgoing → Option DecodedFrame
  | .own frame => some frame
  | .shared _ | .paired _ => none

def Outgoing.shared? : Outgoing → Option (List Byte)
  | .shared frame => some frame
  | .own _ | .paired _ => none

structure SocketWrite where
  session : Nat
  content : Outgoing

/-- The connections ever accepted, those registered, and what the sessions did: commands queued with the session they
came from, and what the dispatch channel wrote. A handler that throws ends the thread. -/
structure TransportGateway where
  connections : List (Connection Command) := []
  sessions : List Nat := []
  coordinator : DispatchCoordinator := {}
  pushed : List (Nat × EnvelopedCommand) := []
  dbWrites : List DbWrite := []
  threw : Bool := false

/-- What the FlatBuffers of the sessions and of the dispatch channel are read and built with. -/
structure GatewayCodec where
  session : SessionCodec Command
  readChannel : List Byte → Option ChannelMessage
  finishChannel : ChannelMessage → List Byte

namespace TransportGateway

variable (codec : GatewayCodec)

/-- The session is active and hears broadcasts. -/
def hears (g : TransportGateway) (session : Nat) : Bool :=
  (g.connections[session]?).any fun c => c.session.isActive

def inArea (g : TransportGateway) (areas : List String) (session : Nat) : Bool :=
  (g.connections[session]?).any fun c => areas.contains c.session.info.dispatchAreaId

def broadcast (g : TransportGateway) (frame : List Byte) : List SocketWrite :=
  (g.sessions.filter g.hears).map fun session => { session, content := .shared frame }

def broadcastToPair (g : TransportGateway) (b : PairBroadcast) : List SocketWrite :=
  ((g.sessions.filter g.hears).filter (g.inArea [b.srcArea, b.dstArea])).map fun session =>
    { session, content := .paired b.frame }

/-- The handler of the dispatch channel is called in the course of a read; it reads the clock by itself. -/
def onDispatch (channelClock : UInt64) (g : TransportGateway) (payload : List Byte)
    (senderClientId senderAreaId : String) :
    TransportGateway × List (IoHandler ⊕ SocketWrite) :=
  match DispatchChannel.onInbound codec.readChannel codec.finishChannel g.coordinator
      { payload, senderClientId, senderAreaId, timestampUs := channelClock } with
  | (coordinator, .ok (written, b)) =>
    ({ g with coordinator, dbWrites := g.dbWrites ++ written }, b.toList.map fun b => .inl (.broadcastToPair b))
  | (coordinator, .error _) => ({ g with coordinator, threw := true }, [])

/-- What the frames handled by a read bring about, in their order. -/
def takeEffects (channelClock : Nat → UInt64) (session : Nat) :
    TransportGateway → List (SessionEffect Command) → TransportGateway × List (IoHandler ⊕ SocketWrite)
  | g, [] => (g, [])
  | g, .send frame :: effects =>
    let (g', tasks) := takeEffects channelClock session g effects
    (g', .inr { session, content := .own frame } :: tasks)
  | g, .push cmdMeta payload :: effects =>
    takeEffects channelClock session { g with pushed := g.pushed ++ [(session, { cmdMeta, payload })] } effects
  | g, .dispatch payload senderClientId senderAreaId :: effects =>
    let (g, posted) := onDispatch codec (channelClock effects.length) g payload senderClientId senderAreaId
    let (g', tasks) := takeEffects channelClock session g effects
    (g', posted ++ tasks)

/-- The effects of the frames that `c'` has handled and `c` has not. -/
def newEffects (c c' : Connection Command) : List (SessionEffect Command) :=
  (c'.handled.drop c.handled.length).flatMap HandledFrame.effects

/-- Bytes have come in; a session that closes takes itself off the register. -/
def onRead (g : TransportGateway) (session : Nat) (bytes : List Byte) (around : Nat → Surroundings)
    (channelClock : Nat → UInt64) : TransportGateway × List (IoHandler ⊕ SocketWrite) :=
  match g.connections[session]? with
  | none => (g, [])
  | some c =>
    let c' := c.receive codec.session around bytes
    let g := { g with
      connections := g.connections.set session c'
      sessions := if c'.session.isOpen then g.sessions else g.sessions.filter (· ≠ session) }
    takeEffects codec channelClock session g (newEffects c c')

/-- No further read is issued. -/
def onReadError (g : TransportGateway) (session : Nat) : TransportGateway :=
  { g with
    connections := g.connections.modify session fun c => { c with reading := false }
    sessions := g.sessions.filter (· ≠ session) }

def exec (g : TransportGateway) : IoHandler → TransportGateway × List (IoHandler ⊕ SocketWrite)
  | .event .accept =>
    ({ g with connections := g.connections ++ [{}], sessions := g.sessions ++ [g.connections.length] }, [])
  | .event (.read session bytes around channelClock) => onRead codec g session bytes around channelClock
  | .event (.readError session) => (g.onReadError session, [])
  | .event (.broadcast frame) => (g, (g.broadcast frame).map .inr)
  | .broadcastToPair b => (g, (g.broadcastToPair b).map .inr)

/-- A write to a socket that is closed throws. -/
def mayTake (g : TransportGateway) : IoHandler ⊕ SocketWrite → Bool
  | .inl h => ! (g.exec codec h).1.threw
  | .inr w => (g.connections[w.session]?).any fun c => c.session.isOpen

end TransportGateway

/-- The thread of the gateway and what waits for it. -/
abbrev IoThread : Type := Executor TransportGateway IoHandler SocketWrite

def IoThread.start (coordinator : DispatchCoordinator) : IoThread := { state := { coordinator } }

/-- A read completes, or fails, on a connection that has been accepted. -/
def IoThread.possible (e : IoThread) : ExecutorAction IoEvent → Bool
  | .enter (.read session _ _ _) | .enter (.readError session) => session < e.state.connections.length
  | .enter .accept | .enter (.broadcast _) | .work | .fail => true

def IoThread.step (codec : GatewayCodec) (e : IoThread) (a : ExecutorAction IoEvent) : Option IoThread :=
  if e.possible a then Executor.step .event (TransportGateway.exec codec) (TransportGateway.mayTake codec) e a else none

theorem IoThread.step_executor {codec : GatewayCodec} {e e' : IoThread} {a : ExecutorAction IoEvent}
    (h : e.step codec a = some e') : e.possible a = true ∧
      Executor.step .event (TransportGateway.exec codec) (TransportGateway.mayTake codec) e a = some e' := by
  unfold IoThread.step at h
  split at h
  · rename_i hPossible
    exact ⟨hPossible, h⟩
  · cases h

theorem IoThread.run_executor {codec : GatewayCodec} {e e' : IoThread} {actions : List (ExecutorAction IoEvent)}
    (h : run (IoThread.step codec) e actions = some e') :
    run (Executor.step .event (TransportGateway.exec codec) (TransportGateway.mayTake codec)) e actions = some e' := by
  induction actions generalizing e with
  | nil => exact h
  | cons a actions ih =>
    obtain ⟨next, hFirst, hRest⟩ := run_cons.mp h
    exact run_cons.mpr ⟨next, (IoThread.step_executor hFirst).2, ih hRest⟩

end Symulator.Server
