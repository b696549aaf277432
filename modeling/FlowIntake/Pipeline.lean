/-
# The running listener

`Listener.serve` takes datagrams one after another.  The running listener is several tasks: one
receives datagrams, workers decode them, one hands the messages on, and each submission is a task of
its own.

* `Pipeline`, `ListenerSettings.pipeline`: how many workers there are, and what the queues hold;
* `Pipeline.State`: where each task stands, and what has happened;
* `Pipeline.Step`: what a task does next.

A queue is first in, first out.  A task that is given up takes no further step, and neither does
one that panics.
-/
import FlowIntake.Listener

namespace FlowIntake

/-! ## 1. The layout -/

/-- How a running listener is laid out. -/
structure Pipeline where
  elements : Registry
  /-- The address it is bound to. -/
  address : SocketAddress
  /-- How many octets of a datagram are kept. -/
  bufferSize : Nat
  workers : Nat
  /-- The worker that decodes what an exporter sends. -/
  route : Address → Fin workers
  /-- How many datagrams wait for one worker. -/
  queueSize : Nat
  /-- How many messages wait to be submitted. -/
  dispatchSize : Nat
  /-- How many submissions are in flight at once. -/
  permits : Nat
  /-- How many milliseconds a session may be idle, when that is limited. -/
  idleTimeout? : Option Nat
  queueSize_pos : 0 < queueSize
  dispatchSize_pos : 0 < dispatchSize
  permits_pos : 0 < permits

/-- The layout that settings ask for.  Counts are one at least. -/
def ListenerSettings.pipeline (s : ListenerSettings) (elements : Registry) (address : SocketAddress)
    (route : Address → Fin s.workerCount) : Pipeline where
  elements := elements
  address := address
  bufferSize := s.maxPacketSize.toNat
  workers := s.workerCount
  route := route
  queueSize := max s.workerQueueSize.toNat 1
  dispatchSize := max s.dispatchQueueSize.toNat 1
  permits := max s.maxInFlightDispatches.toNat 1
  idleTimeout? := s.sessionIdleTimeout?.map fun t => t.toNat * 1000
  queueSize_pos := Nat.lt_of_lt_of_le Nat.zero_lt_one (Nat.le_max_right _ 1)
  dispatchSize_pos := Nat.lt_of_lt_of_le Nat.zero_lt_one (Nat.le_max_right _ 1)
  permits_pos := Nat.lt_of_lt_of_le Nat.zero_lt_one (Nat.le_max_right _ 1)

/-! ## 2. The tasks -/

/-- What a worker is at. -/
inductive Worker.Task where
  | holding (d : Datagram)
  /-- The messages still to be sent; a worker that has none left takes the next datagram. -/
  | sending (messages : List Message)
  | ended

/-- A worker, and the datagrams that wait for it. -/
structure Worker where
  queue : List Datagram := []
  task : Worker.Task := .sending []

/-- What the task that hands messages on is at. -/
inductive Stage where
  | receiving
  /-- It waits until a submission may begin. -/
  | holding (m : Message)
  /-- No more messages will come; it waits for the submissions in flight. -/
  | closing
  | ended

/-- A submission in flight. -/
structure Submission where
  message : Message
  /-- Whether the dispatcher has been called. -/
  begun : Bool

/-- The events of what became of a packet. -/
def eventsOf (peer : SocketAddress) : Except PacketError DecodedPacket → List Event
  | .error e => [.packetDiscarded e peer]
  | .ok p => p.events peer

/-- The messages of what became of a packet. -/
def messagesOf : Except PacketError DecodedPacket → List Message
  | .error _ => []
  | .ok p => p.messages

namespace Pipeline

variable {p : Pipeline}

/-- The worker for a datagram. -/
def workerFor (p : Pipeline) (d : Datagram) : Fin p.workers := p.route d.exporter

/-- Where each task stands, and what has happened. -/
structure State (p : Pipeline) where
  /-- Whether the listener has been told to stop. -/
  told : Bool := false
  /-- Whether datagrams are still received. -/
  receiving : Bool := true
  sessions : SessionTable
  worker : Fin p.workers → Worker := fun _ => {}
  /-- The messages that wait to be submitted. -/
  queue : List Message := []
  stage : Stage := .receiving
  inFlight : List Submission := []
  /-- The datagrams that have found a place in the queue of a worker. -/
  accepted : List Datagram := []
  /-- The datagrams that have been decoded, and what each was decoded to. -/
  decoded : List (Datagram × Except PacketError DecodedPacket) := []
  /-- The messages that have entered the queue. -/
  entered : List Message := []
  /-- The messages that the dispatcher has been called with. -/
  submitted : List Message := []
  events : List Event := []

namespace State

/-- A listener that has just started, over these sessions. -/
def start (p : Pipeline) (ss : SessionTable) : State p where
  sessions := ss
  events := [.listenerStarted p.address p.workers]

/-- Puts a worker in its place. -/
def setWorker (s : State p) (i : Fin p.workers) (w : Worker) : State p :=
  { s with worker := fun j => if j = i then w else s.worker j }

/-- Notes events. -/
def note (s : State p) (es : List Event) : State p := { s with events := s.events ++ es }

/-- A datagram joins the queue of its worker, as far as the buffer holds it. -/
def accept (s : State p) (d : Datagram) : State p :=
  let w := s.worker (p.workerFor d)
  let kept := d.cut p.bufferSize
  let s := s.setWorker (p.workerFor d) { w with queue := w.queue ++ [kept] }
  { s with accepted := s.accepted ++ [kept] }.note [.bytesReceived kept.payload.length d.peer]

/-- A datagram is lost. -/
def drop (s : State p) (d : Datagram) : State p :=
  s.note [.bytesReceived (d.cut p.bufferSize).payload.length d.peer,
    .datagramDropped d.peer (p.workerFor d)]

/-- Idle sessions are removed, but for those that are locked. -/
def sweep (s : State p) (now timeout : Nat) (locked : List SessionKey) : State p :=
  let kept := s.sessions.expire now timeout locked
  { s with sessions := kept }.note [.sessionsExpired (s.sessions.size - kept.size) kept.size]

/-- A worker decodes the datagram it holds. -/
def decode (s : State p) (i : Fin p.workers) (now : Nat) (d : Datagram) : State p :=
  let (ss, result) := s.sessions.decode p.elements now d.exporter d.payload
  let s := s.setWorker i ⟨(s.worker i).queue, .sending (messagesOf result)⟩
  { s with sessions := ss, decoded := s.decoded ++ [(d, result)] }.note (eventsOf d.peer result)

/-- A worker sends a message, and has others left. -/
def send (s : State p) (i : Fin p.workers) (m : Message) (left : List Message) : State p :=
  let s := s.setWorker i ⟨(s.worker i).queue, .sending left⟩
  { s with queue := s.queue ++ [m], entered := s.entered ++ [m] }

end State

/-! ## 3. The steps -/

/-- What a task does next.  A packet is decoded in one step: its session is locked meanwhile. -/
inductive Step (p : Pipeline) : State p → State p → Prop where
  /-- A datagram finds room in the queue of its worker. -/
  | accept {s : State p} {d : Datagram} (receiving : s.receiving = true)
      (room : (s.worker (p.workerFor d)).queue.length < p.queueSize) : Step p s (s.accept d)
  /-- A datagram finds no room. -/
  | drop {s : State p} {d : Datagram} (receiving : s.receiving = true)
      (full : p.queueSize ≤ (s.worker (p.workerFor d)).queue.length) : Step p s (s.drop d)
  /-- A datagram cannot be received. -/
  | fail {s : State p} {fault : IoFault} (receiving : s.receiving = true) :
      Step p s (s.note [.receiveFailed fault])
  /-- Idle sessions are removed from time to time, where their time is limited. -/
  | sweep {s : State p} {now timeout : Nat} {locked : List SessionKey}
      (receiving : s.receiving = true) (limited : p.idleTimeout? = some timeout) :
      Step p s (s.sweep now timeout locked)
  /-- The listener is told to stop. -/
  | tell {s : State p} : Step p s { s with told := true }
  /-- It stops receiving. -/
  | stop {s : State p} (told : s.told = true) (receiving : s.receiving = true) :
      Step p s ({ s with receiving := false }.note [.listenerStopped p.address])
  /-- A worker that has sent all its messages takes a datagram. -/
  | fetch {s : State p} {i : Fin p.workers} {d : Datagram} {ds : List Datagram}
      (idle : (s.worker i).task = .sending []) (next : (s.worker i).queue = d :: ds) :
      Step p s (s.setWorker i ⟨ds, .holding d⟩)
  /-- A worker decodes the datagram it holds. -/
  | decode {s : State p} {i : Fin p.workers} {d : Datagram} {now : Nat}
      (holding : (s.worker i).task = .holding d) : Step p s (s.decode i now d)
  /-- A worker sends a message, when there is room for it. -/
  | send {s : State p} {i : Fin p.workers} {m : Message} {ms : List Message}
      (sending : (s.worker i).task = .sending (m :: ms)) (room : s.queue.length < p.dispatchSize) :
      Step p s (s.send i m ms)
  /-- A worker ends when nothing is left and nothing more can come. -/
  | leave {s : State p} {i : Fin p.workers} (idle : (s.worker i).task = .sending [])
      (empty : (s.worker i).queue = []) (stopped : s.receiving = false) :
      Step p s (s.setWorker i ⟨[], .ended⟩)
  /-- The next message is taken from the queue. -/
  | pick {s : State p} {m : Message} {ms : List Message} (idle : s.stage = .receiving)
      (next : s.queue = m :: ms) :
      Step p s { s with queue := ms, stage := .holding m }
  /-- Its submission becomes a task, when one more may be in flight. -/
  | spawn {s : State p} {m : Message} (holding : s.stage = .holding m)
      (room : s.inFlight.length < p.permits) :
      Step p s { s with stage := .receiving, inFlight := s.inFlight ++ [⟨m, false⟩] }
  /-- A submission calls the dispatcher. -/
  | submit {s : State p} {m : Message} {before after : List Submission}
      (spawned : s.inFlight = before ++ ⟨m, false⟩ :: after) :
      Step p s { s with
        inFlight := before ++ ⟨m, true⟩ :: after
        submitted := s.submitted ++ [m] }
  /-- The dispatcher answers, and the submission ends. -/
  | answer {s : State p} {m : Message} {before after : List Submission} {a : Except String Unit}
      (begun : s.inFlight = before ++ ⟨m, true⟩ :: after) :
      Step p s ({ s with inFlight := before ++ after }.note [.ofAnswer a])
  /-- No message is left, and no worker that could send one. -/
  | close {s : State p} (idle : s.stage = .receiving) (empty : s.queue = [])
      (left : ∀ i, (s.worker i).task = .ended) :
      Step p s { s with stage := .closing }
  /-- All submissions have ended. -/
  | finish {s : State p} (closing : s.stage = .closing) (empty : s.inFlight = []) :
      Step p s { s with stage := .ended }

end Pipeline

end FlowIntake
