/-
# Serving is one schedule of the tasks

`Listener.serve` does with each datagram all there is to do before it takes the next.  The tasks of
a running listener may do the same, so that whatever holds of all their schedules holds of it.

* `Pipeline.Reachable`: the states that a started listener comes to;
* `Pipeline.Stands`: a state between two datagrams, or with messages of one still to be sent;
* `Pipeline.Stands.submit`, `Pipeline.Stands.take`: what the listener does in one step the tasks do
  in several;
* `Pipeline.serve_schedule`: all that happens when datagrams are served is what happens on one
  schedule.
-/
import FlowIntake.Pipeline
import Mathlib.Logic.Relation

namespace FlowIntake

/-! ## 1. Runs -/

theorem SessionTable.take_eq (elements : Registry) (ss : SessionTable) (now : Nat) (d : Datagram) :
    ss.take elements now d
      = ((ss.decode elements now d.exporter d.payload).1,
          ⟨.bytesReceived d.payload.length d.peer ::
              eventsOf d.peer (ss.decode elements now d.exporter d.payload).2,
            messagesOf (ss.decode elements now d.exporter d.payload).2⟩) := by
  rw [take]
  split
  · rename_i h
    rw [h]
    rfl
  · rename_i h
    rw [h]
    rfl

namespace Listener

/-- Events are noted one after another, and change nothing else. -/
theorem foldl_note (l : Listener) (es : List Event) :
    es.foldl note l = { l with events := es.reverse ++ l.events } := by
  induction es generalizing l with
  | nil => rfl
  | cons e es ih =>
    rw [List.foldl_cons, ih, List.reverse_cons, List.append_assoc]
    rfl

/-- A listener that has decoded a datagram and submitted none of its messages. -/
def decoded (elements : Registry) (now : Nat) (l : Listener) (d : Datagram) : Listener :=
  let result := l.sessions.decode elements now d.exporter d.payload
  let events := Event.bytesReceived d.payload.length d.peer :: eventsOf d.peer result.2
  { l with sessions := result.1, events := events.reverse ++ l.events }

theorem take_eq (elements : Registry) (size : Nat) (answer : Nat → Message → Except String Unit)
    (now : Nat) (l : Listener) (d : Datagram) :
    l.take elements size (.answering answer) now d
      = (messagesOf (l.sessions.decode elements now d.exporter (d.cut size).payload).2).foldl
          (submit answer) (l.decoded elements now (d.cut size)) := by
  rw [take, SessionTable.take_eq]
  exact congrArg (List.foldl (submit answer) · _) (foldl_note _ _)

end Listener

/-- The datagrams a worker still has to decode. -/
def Worker.pending (w : Worker) : List Datagram :=
  match w.task with
  | .holding d => d :: w.queue
  | .sending _ | .ended => w.queue

/-- The messages a worker still has to send. -/
def Worker.unsent (w : Worker) : List Message :=
  match w.task with
  | .sending ms => ms
  | .holding _ | .ended => []

namespace Pipeline

variable {p : Pipeline}

/-- The states that a listener comes to when it starts over these sessions. -/
def Reachable (p : Pipeline) (ss : SessionTable) (s : State p) : Prop :=
  Relation.ReflTransGen p.Step (State.start p ss) s

/-- Whether no worker has anything left to do. -/
def State.Drained (s : State p) : Prop :=
  ∀ i, (s.worker i).pending = [] ∧ (s.worker i).unsent = []

/-- The state is that of a listener which has still to submit messages, and worker `i` has them. -/
structure Stands (s : State p) (l : Listener) (i : Fin p.workers) (ms : List Message) : Prop where
  receiving : s.receiving = true
  sessions : s.sessions = l.sessions
  worker : ∀ j, s.worker j = if j = i then ⟨[], .sending ms⟩ else {}
  queue : s.queue = []
  stage : s.stage = .receiving
  inFlight : s.inFlight = []
  submitted : s.submitted.length = l.submitted
  events : s.events = l.history

namespace Stands

variable {s : State p} {l : Listener} {i : Fin p.workers} {m : Message} {ms : List Message}

/-- When nothing is left to submit it does not matter who submitted it. -/
theorem worker_nil (h : Stands s l i []) (j : Fin p.workers) : s.worker j = {} := by
  rw [h.worker j, ite_self]

theorem drained (h : Stands s l i []) : s.Drained := by
  intro j
  rw [h.worker_nil j]
  exact ⟨rfl, rfl⟩

/-- **A message is submitted**: it is sent, taken from the queue, and its submission runs to its
end. -/
theorem submit (answer : Nat → Message → Except String Unit) (h : Stands s l i (m :: ms)) :
    ∃ s', Relation.ReflTransGen p.Step s s' ∧ Stands s' (l.submit answer m) i ms ∧
      s'.accepted = s.accepted := by
  have hworker : s.worker i = ⟨[], .sending (m :: ms)⟩ := by rw [h.worker i, if_pos rfl]
  have hsend : p.Step s (s.send i m ms) :=
    .send (congrArg Worker.task hworker) (h.queue ▸ p.dispatchSize_pos)
  have hqueue : (s.send i m ms).queue = [m] := by
    have happend : (s.send i m ms).queue = s.queue ++ [m] := rfl
    rw [happend, h.queue]
    rfl
  let picked : State p := { s.send i m ms with queue := [], stage := .holding m }
  have hpick : p.Step (s.send i m ms) picked := .pick h.stage hqueue
  have hfree : picked.inFlight = [] := h.inFlight
  let spawned : State p := { picked with stage := .receiving, inFlight := [⟨m, false⟩] }
  have hspawn : p.Step picked spawned := by
    have hstep := Step.spawn (s := picked) rfl (hfree ▸ p.permits_pos)
    rwa [hfree] at hstep
  let begun : State p :=
    { spawned with inFlight := [⟨m, true⟩], submitted := s.submitted ++ [m] }
  have hsubmit : p.Step spawned begun := @Step.submit p spawned m [] [] rfl
  let a := answer (l.submitted + 1) m
  let last : State p := { begun with inFlight := [] }.note [.ofAnswer a]
  have hanswer : p.Step begun last := @Step.answer p begun m [] [] a rfl
  refine ⟨last, .tail (.tail (.tail (.tail (.single hsend) hpick) hspawn) hsubmit) hanswer, ?_, rfl⟩
  have hl : (l.submit answer m).sessions = l.sessions ∧
      (l.submit answer m).submitted = l.submitted + 1 ∧
      (l.submit answer m).events = .ofAnswer a :: l.events := by
    rw [Listener.submit]
    split <;> exact ⟨rfl, rfl, rfl⟩
  obtain ⟨hsessions, hcount, hevents⟩ := hl
  refine ⟨h.receiving, h.sessions.trans hsessions.symm, fun j => ?_, rfl, rfl, rfl, ?_, ?_⟩
  · have hlast : last.worker j = if j = i then ⟨(s.worker i).queue, .sending ms⟩ else s.worker j :=
      rfl
    rw [hlast, hworker, h.worker j]
    by_cases hj : j = i
    · rw [if_pos hj, if_pos hj]
    · rw [if_neg hj, if_neg hj, if_neg hj]
  · have hlast : last.submitted = s.submitted ++ [m] := rfl
    rw [hlast, hcount, List.length_append, h.submitted]
    rfl
  · have hlast : last.events = s.events ++ [.ofAnswer a] := rfl
    rw [hlast, Listener.history, hevents, List.reverse_cons, h.events]
    rfl

/-- All messages are submitted, by induction on them. -/
theorem submitAll (answer : Nat → Message → Except String Unit) (h : Stands s l i ms) :
    ∃ s', Relation.ReflTransGen p.Step s s' ∧ Stands s' (ms.foldl (Listener.submit answer) l) i [] ∧
      s'.accepted = s.accepted := by
  induction ms generalizing s l with
  | nil => exact ⟨s, .refl, h, rfl⟩
  | cons m ms ih =>
    obtain ⟨s', hrun, hstands, haccepted⟩ := h.submit answer
    obtain ⟨s'', hrun', hstands', haccepted'⟩ := ih hstands
    exact ⟨s'', hrun.trans hrun', hstands', haccepted'.trans haccepted⟩

/-- **A datagram is decoded**: it is accepted, fetched and decoded, and its messages are left. -/
theorem decode (now : Nat) (d : Datagram) (h : Stands s l i []) :
    let kept := d.cut p.bufferSize
    let result := l.sessions.decode p.elements now kept.exporter kept.payload
    ∃ s', Relation.ReflTransGen p.Step s s' ∧
      Stands s' (l.decoded p.elements now kept) (p.workerFor d) (messagesOf result.2) ∧
      s'.accepted = s.accepted ++ [kept] := by
  intro kept result
  let w := p.workerFor d
  have haccept : p.Step s (s.accept d) := by
    refine .accept h.receiving ?_
    rw [h.worker_nil]
    exact p.queueSize_pos
  have hqueued : (s.accept d).worker w = ⟨[kept], .sending []⟩ := by
    have hset : (s.accept d).worker w
        = if w = w then ⟨(s.worker w).queue ++ [kept], (s.worker w).task⟩ else s.worker w := rfl
    rw [hset, if_pos rfl, h.worker_nil]
    rfl
  let fetched : State p := (s.accept d).setWorker w ⟨[], .holding kept⟩
  have hfetch : p.Step (s.accept d) fetched :=
    .fetch (congrArg Worker.task hqueued) (congrArg Worker.queue hqueued)
  have hheld : fetched.worker w = ⟨[], .holding kept⟩ := if_pos rfl
  have hdecode : p.Step fetched (fetched.decode w now kept) := .decode (congrArg Worker.task hheld)
  have hresult : s.sessions.decode p.elements now kept.exporter kept.payload = result := by
    rw [h.sessions]
  have hrun := ((Relation.ReflTransGen.single haccept).tail hfetch).tail hdecode
  refine ⟨fetched.decode w now kept, hrun,
    ⟨h.receiving, ?sessions, fun j => ?worker, h.queue, h.stage, h.inFlight, h.submitted, ?events⟩,
    rfl⟩
  case sessions =>
    have hsessions : (fetched.decode w now kept).sessions
        = (s.sessions.decode p.elements now kept.exporter kept.payload).1 := rfl
    rw [hsessions, hresult]
    rfl
  case worker =>
    have hworker : (fetched.decode w now kept).worker j
        = if j = w then ⟨(fetched.worker w).queue, .sending (messagesOf
            (s.sessions.decode p.elements now kept.exporter kept.payload).2)⟩
          else if j = w then ⟨[], .holding kept⟩
          else if j = w then ⟨(s.worker w).queue ++ [kept], (s.worker w).task⟩
          else s.worker j := rfl
    rw [hworker, hresult, hheld, h.worker_nil j]
    by_cases hj : j = w
    · rw [if_pos hj, if_pos hj]
    · rw [if_neg hj, if_neg hj, if_neg hj, if_neg hj]
  case events =>
    have hevents : (fetched.decode w now kept).events
        = (s.events ++ [.bytesReceived kept.payload.length d.peer]) ++ eventsOf d.peer
            (s.sessions.decode p.elements now kept.exporter kept.payload).2 := rfl
    rw [hevents, hresult, h.events, Listener.history, Listener.history, Listener.decoded,
      List.reverse_append, List.reverse_reverse, List.append_assoc]
    rfl

/-- **A datagram is taken in**: it is decoded, and its messages are submitted. -/
theorem take (answer : Nat → Message → Except String Unit) (now : Nat) (d : Datagram)
    (h : Stands s l i []) :
    ∃ s', Relation.ReflTransGen p.Step s s' ∧
      Stands s' (l.take p.elements p.bufferSize (.answering answer) now d) (p.workerFor d) [] ∧
      s'.accepted = s.accepted ++ [d.cut p.bufferSize] := by
  obtain ⟨s', hrun, hdecoded, haccepted⟩ := h.decode now d
  obtain ⟨s'', hrun', hlast, haccepted'⟩ := hdecoded.submitAll answer
  refine ⟨s'', hrun.trans hrun', ?_, haccepted'.trans haccepted⟩
  rw [Listener.take_eq]
  exact hlast

/-- Datagrams are taken in one after another, by induction on them. -/
theorem takeAll (answer : Nat → Message → Except String Unit) (now : Nat) (ds : List Datagram)
    (h : Stands s l i []) :
    ∃ s' j, Relation.ReflTransGen p.Step s s' ∧
      Stands s' (ds.foldl (Listener.take p.elements p.bufferSize (.answering answer) now) l) j [] ∧
      s'.accepted = s.accepted ++ ds.map fun d => d.cut p.bufferSize := by
  induction ds generalizing s l i with
  | nil => exact ⟨s, i, .refl, h, (List.append_nil s.accepted).symm⟩
  | cons d ds ih =>
    obtain ⟨s', hrun, hstands, haccepted⟩ := h.take answer now d
    obtain ⟨s'', j, hrun', hstands', haccepted'⟩ := ih hstands
    refine ⟨s'', j, hrun.trans hrun', hstands', ?_⟩
    rw [haccepted', haccepted, List.append_assoc]
    rfl

end Stands

/-- **Serving is one schedule.**  Whatever datagrams are served, and however the dispatcher answers,
the tasks have a schedule on which they accept all of them, are told to stop, and end with nothing
left to do, the same sessions and the same history. -/
theorem serve_schedule (settings : ListenerSettings) (elements : Registry) (address : SocketAddress)
    (route : Address → Fin settings.workerCount) (answer : Nat → Message → Except String Unit)
    (now : Nat) (ds : List Datagram) :
    let p := settings.pipeline elements address route
    let l := Listener.serve elements settings address (.answering answer) now ds
    ∃ s : State p, p.Reachable .empty s ∧ s.Drained ∧ s.receiving = false ∧
      s.accepted = ds.map (fun d => d.cut p.bufferSize) ∧ s.sessions = l.sessions ∧
      s.events = l.history := by
  intro p l
  let started : Listener := ({} : Listener).note (.listenerStarted address settings.workerCount)
  have hstart : Stands (State.start p .empty) started (route address.address) [] :=
    ⟨rfl, rfl, fun j => (ite_self _).symm, rfl, rfl, rfl, rfl, rfl⟩
  obtain ⟨s, i, hrun, hstands, haccepted⟩ := hstart.takeAll answer now ds
  let told : State p := { s with told := true }
  let stopped : State p := { told with receiving := false }.note [.listenerStopped address]
  have htell : p.Step s told := .tell
  have hstop : p.Step told stopped := .stop rfl hstands.receiving
  refine ⟨stopped, (hrun.tail htell).tail hstop, hstands.drained, rfl, haccepted,
    hstands.sessions, ?_⟩
  have hstopped : stopped.events = s.events ++ [.listenerStopped address] := rfl
  rw [hstopped, hstands.events]
  exact (List.reverse_cons ..).symm

end Pipeline

end FlowIntake
