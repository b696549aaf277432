/-
# The listener

The listener receives datagrams, decodes each for the exporter that sent it, and hands the
messages on.  What happens on the way is told as events.

* `ListenerSettings.start`: binds the socket;
* `SessionTable.take`: one datagram;
* `SessionTable.sweep`: the sessions that have been idle for too long;
* `Listener.serve`: datagrams one after another, from the start of the listener to its stop.

An exporter is known by its canonical address: an IPv4 exporter that reaches an IPv6 socket is the
IPv4 exporter.
-/
import FlowIntake.Net.Network
import FlowIntake.Packet.Decode
import FlowIntake.Settings
import FlowIntake.Telemetry.Event

namespace FlowIntake

/-! ## 1. Starting -/

/-- Why a listener does not start. -/
inductive StartError where
  | badAddress (text : String) (source : AddressError)
  | bind (address : SocketAddress) (fault : IoFault)
deriving DecidableEq

/-- The text of the failure. -/
def StartError.message : StartError → String
  | badAddress text source => s!"Invalid bind address {Literal.encode text}: {source.message}"
  | bind address fault => s!"Unable to bind to {address.text}: {fault.text}"

/-- The events of a failure. -/
def StartError.events : StartError → List Event
  | badAddress .. => []
  | bind address fault => [.bindFailed address fault]

/-- Binds the socket.  Gives the address it is bound to. -/
def ListenerSettings.start (s : ListenerSettings) (n : Network) :
    Except StartError SocketAddress :=
  match s.socketAddress? with
  | .error e => .error (.badAddress s.address e)
  | .ok a =>
    match n.bindFault? a with
    | some f => .error (.bind a f)
    | none => .ok a

/-- How many workers decode: one at least. -/
def ListenerSettings.workerCount (s : ListenerSettings) : Nat := max s.workers.toNat 1

/-! ## 2. One datagram -/

/-- The exporter that a datagram comes from. -/
def Datagram.exporter (d : Datagram) : Address := d.peer.address.canonical

/-- The datagram as far as the buffer holds it. -/
def Datagram.cut (d : Datagram) (size : Nat) : Datagram := { d with payload := d.payload.take size }

/-- What a datagram yields. -/
structure Intake where
  events : List Event
  messages : List Message
deriving DecidableEq

/-- The events of a decoded packet. -/
def DecodedPacket.events (p : DecodedPacket) (peer : SocketAddress) : List Event :=
  p.issues.map (.setSkipped · peer) ++
    [.messagesDecoded p.messages.length p.changes.installed p.changes.withdrawn peer]

/-- Takes in one datagram. -/
def SessionTable.take (elements : Registry) (ss : SessionTable) (now : Nat) (d : Datagram) :
    SessionTable × Intake :=
  let received := Event.bytesReceived d.payload.length d.peer
  match ss.decode elements now d.exporter d.payload with
  | (ss, .error e) => (ss, ⟨[received, .packetDiscarded e d.peer], []⟩)
  | (ss, .ok p) => (ss, ⟨received :: p.events d.peer, p.messages⟩)

/-- Removes the sessions that have been idle for `timeout` at the instant `now`. -/
def SessionTable.sweep (ss : SessionTable) (now timeout : Nat) : SessionTable × List Event :=
  let kept := ss.expire now timeout []
  (kept, [.sessionsExpired (ss.size - kept.size) kept.size])

/-- How many milliseconds lie between two sweeps: half the time that a session may be idle, but a
minute at most. -/
def ListenerSettings.sweepMillis? (s : ListenerSettings) : Option Nat :=
  s.sessionIdleTimeout?.map fun t => min (t.toNat * 500) 60000

/-! ## 3. Dispatching -/

/-- What becomes of the messages: each submission, counted from one, is accepted or refused with a
text, or none of them ever ends. -/
inductive Dispatcher where
  | answering (answer : Nat → Message → Except String Unit)
  | stalled

/-- What a submission leads to. -/
def Event.ofAnswer : Except String Unit → Event
  | .ok () => .messageDispatched
  | .error text => .dispatchFailed text

/-! ## 4. A listener from start to stop -/

/-- Where a listener stands: its sessions, how many messages were submitted, and, the latest first,
what happened and what was accepted. -/
structure Listener where
  sessions : SessionTable := .empty
  submitted : Nat := 0
  events : List Event := []
  accepted : List Message := []

namespace Listener

/-- Notes an event. -/
def note (l : Listener) (e : Event) : Listener := { l with events := e :: l.events }

/-- Submits a message. -/
def submit (answer : Nat → Message → Except String Unit) (l : Listener) (m : Message) : Listener :=
  let n := l.submitted + 1
  let a := answer n m
  let l := { l with submitted := n }.note (.ofAnswer a)
  match a with
  | .ok () => { l with accepted := m :: l.accepted }
  | .error _ => l

/-- Takes in one datagram and submits its messages. -/
def take (elements : Registry) (size : Nat) (dispatcher : Dispatcher) (now : Nat) (l : Listener)
    (d : Datagram) : Listener :=
  let (ss, intake) := l.sessions.take elements now (d.cut size)
  let l := intake.events.foldl note { l with sessions := ss }
  match dispatcher with
  | .answering answer => intake.messages.foldl (submit answer) l
  | .stalled => { l with submitted := l.submitted + intake.messages.length }

/-- Serves datagrams, then stops.  Work that never ends is given up when the time for it is over. -/
def serve (elements : Registry) (s : ListenerSettings) (address : SocketAddress)
    (dispatcher : Dispatcher) (now : Nat) (ds : List Datagram) : Listener :=
  let l : Listener := ({} : Listener).note (.listenerStarted address s.workerCount)
  let l := ds.foldl (take elements s.maxPacketSize.toNat dispatcher now) l
  let l := l.note (.listenerStopped address)
  match dispatcher with
  | .stalled =>
    if l.submitted = 0 then l
    else l.note (.shutdownTimedOut (s.shutdownTimeoutSecs.toNat * 1000) l.submitted)
  | .answering _ => l

/-- What happened, in order. -/
def history (l : Listener) : List Event := l.events.reverse

/-- The messages accepted, in order. -/
def messages (l : Listener) : List Message := l.accepted.reverse

end Listener

end FlowIntake
