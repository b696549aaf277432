/-
# Every message is submitted once

A decoded message is in one place at a time: with the worker that has still to send it, in the
queue, with the dispatch stage, in a submission that has not called the dispatcher, or submitted.
No step loses it and none doubles it, so that a listener whose tasks have all ended has submitted
what it decoded, message for message.

* `Pipeline.datagrams_step`, `Pipeline.messages_step`, `Pipeline.waiting_step`: no step loses or
  doubles a datagram or a message;
* `Pipeline.answers_step`, `Pipeline.received_step`: the events tell how many of each there were;
* `Pipeline.inOrder_step`: one submission at a time keeps the order of the queue;
* `Pipeline.submitted_exactly_once`: the theorem about all schedules.
-/
import FlowIntake.Proofs.Pipeline.Shutdown
import FlowIntake.Proofs.Telemetry.Counters
import Mathlib.Algebra.BigOperators.Group.Finset.Basic
import Mathlib.Algebra.Order.Group.Multiset
import Mathlib.Tactic.Abel

namespace FlowIntake

/-! ## 1. What events count -/

/-- Whether an event says how a submission ended. -/
def Event.isAnswer : Event → Bool
  | .messageDispatched | .dispatchFailed _ => true
  | _ => false

theorem Event.isAnswer_ofAnswer (a : Except String Unit) : (Event.ofAnswer a).isAnswer = true := by
  rcases a with e | _ <;> rfl

theorem Event.received_ofAnswer (a : Except String Unit) : (Event.ofAnswer a).received = 0 := by
  rcases a with e | _ <;> rfl

/-- Decoding a packet answers no submission. -/
theorem countP_eventsOf (peer : SocketAddress) (r : Except PacketError DecodedPacket) :
    (eventsOf peer r).countP Event.isAnswer = 0 := by
  rw [List.countP_eq_zero]
  intro e he
  rcases r with error | packet
  · rw [List.mem_singleton.mp he]
    exact Bool.false_ne_true
  · rcases List.mem_append.mp he with hissue | hcount
    · obtain ⟨issue, -, rfl⟩ := List.mem_map.mp hissue
      exact Bool.false_ne_true
    · rw [List.mem_singleton.mp hcount]
      exact Bool.false_ne_true

/-- The events of a packet count its messages. -/
theorem received_eventsOf (peer : SocketAddress) (r : Except PacketError DecodedPacket) :
    ((eventsOf peer r).map Event.received).sum = (messagesOf r).length := by
  rcases r with e | packet
  · rfl
  · simp [eventsOf, messagesOf, DecodedPacket.events, Event.received, Function.comp_def]

/-- A listener submits every message it has decoded. -/
theorem Listener.submitted_foldl (answer : Nat → Message → Except String Unit) (l : Listener)
    (ms : List Message) : (ms.foldl (submit answer) l).submitted = l.submitted + ms.length := by
  induction ms generalizing l with
  | nil => rfl
  | cons m ms ih =>
    have hfirst : (l.submit answer m).submitted = l.submitted + 1 := by
      rw [submit]
      split <;> rfl
    rw [List.foldl_cons, ih, hfirst, List.length_cons]
    omega

/-- The message that the dispatch stage has taken from the queue and not yet handed on. -/
def Stage.held : Stage → List Message
  | .holding m => [m]
  | .receiving | .closing | .ended => []

namespace Pipeline

variable {p : Pipeline} {s s' : State p} {i : Fin p.workers} {w : Worker}

/-! ## 2. Where things are -/

namespace State

/-- What all workers have of something. -/
def total {α : Type} (s : State p) (f : Worker → List α) : Multiset α := ∑ i, ↑(f (s.worker i))

/-- The datagrams that are still to be decoded. -/
def undecoded (s : State p) : Multiset Datagram := s.total Worker.pending

/-- The messages that workers have still to send. -/
def unsent (s : State p) : Multiset Message := s.total Worker.unsent

/-- The messages that the decoded datagrams yielded. -/
def yielded (s : State p) : List Message := s.decoded.flatMap fun x => messagesOf x.2

/-- The messages of the submissions that have still to call the dispatcher. -/
def unbegun (s : State p) : List Message :=
  (s.inFlight.filter fun x => !x.begun).map Submission.message

/-- The messages that have entered the queue and have still to be submitted, the next one first. -/
def waiting (s : State p) : List Message := s.unbegun ++ s.stage.held ++ s.queue

/-- How many submissions wait for the dispatcher to answer. -/
def unanswered (s : State p) : Nat := s.inFlight.countP Submission.begun

/-- How many submissions have ended. -/
def answers (s : State p) : Nat := s.events.countP Event.isAnswer

/-- How many messages were decoded, as the events tell it. -/
def received (s : State p) : Nat := (s.events.map Event.received).sum

@[simp] theorem answers_note (s : State p) (es : List Event) :
    (s.note es).answers = s.answers + es.countP Event.isAnswer := List.countP_append

@[simp] theorem received_note (s : State p) (es : List Event) :
    (s.note es).received = s.received + (es.map Event.received).sum := by
  simp [received, note]

variable {α : Type} {f : Worker → List α} {xs : List α}

theorem total_setWorker (s : State p) (i : Fin p.workers) (w : Worker) (f : Worker → List α) :
    (s.setWorker i w).total f + ↑(f (s.worker i)) = s.total f + ↑(f w) := by
  have hset : (fun j => (↑(f ((s.setWorker i w).worker j)) : Multiset α))
      = Function.update (fun j => ↑(f (s.worker j))) i ↑(f w) := by
    funext j
    rcases eq_or_ne j i with rfl | hne
    · rw [setWorker_self, Function.update_self]
    · rw [setWorker_of_ne s w hne, Function.update_of_ne hne]
  have hrest := Finset.sum_eq_sum_sdiff_singleton_add (Finset.mem_univ i)
    fun j => (↑(f (s.worker j)) : Multiset α)
  rw [total, hset, Finset.sum_update_of_mem (Finset.mem_univ i), total, hrest]
  abel

/-- What a worker gains, all workers gain. -/
theorem total_gains (h : f w = f (s.worker i) ++ xs) :
    (s.setWorker i w).total f = s.total f + ↑xs := by
  have hset := total_setWorker s i w f
  rw [h, ← Multiset.coe_add] at hset
  exact add_right_cancel (hset.trans (by abel))

/-- What a worker loses, all workers lose. -/
theorem total_loses (h : f (s.worker i) = xs ++ f w) :
    (s.setWorker i w).total f + ↑xs = s.total f := by
  have hset := total_setWorker s i w f
  rw [h, ← Multiset.coe_add, ← add_assoc] at hset
  exact add_right_cancel hset

/-- What a worker keeps, all workers keep. -/
theorem total_keeps (h : f w = f (s.worker i)) : (s.setWorker i w).total f = s.total f := by
  have hgain : f w = f (s.worker i) ++ [] := by rw [h, List.append_nil]
  simpa using total_gains hgain

end State

/-! ## 3. Steps -/

/-- **No step loses or doubles a datagram**: what was accepted has been decoded, or waits. -/
theorem datagrams_step (h : (↑(s.decoded.map Prod.fst) : Multiset Datagram) + s.undecoded
      = ↑s.accepted) (step : p.Step s s') :
    (↑(s'.decoded.map Prod.fst) : Multiset Datagram) + s'.undecoded = ↑s'.accepted := by
  cases step with
  | @accept d _ _ =>
    have hgain : (s.accept d).undecoded = s.undecoded + ↑[d.cut p.bufferSize] :=
      State.total_gains (Worker.pending_queue_append _ _)
    have haccepted : (s.accept d).accepted = s.accepted ++ [d.cut p.bufferSize] := rfl
    have hdecoded : (s.accept d).decoded = s.decoded := rfl
    rw [hgain, haccepted, hdecoded, ← Multiset.coe_add, ← h, add_assoc]
  | @fetch i d ds idle next =>
    have hkeep : (s.setWorker i ⟨ds, .holding d⟩).undecoded = s.undecoded := by
      refine State.total_keeps ?_
      rw [Worker.pending_of_sending idle, next]
      rfl
    rw [hkeep]
    exact h
  | @decode i d now holding =>
    let result := (s.sessions.decode p.elements now d.exporter d.payload).2
    have hlose : (s.decode i now d).undecoded + ↑[d] = s.undecoded :=
      State.total_loses (Worker.pending_of_holding holding)
    have hdecoded : (s.decode i now d).decoded.map Prod.fst = s.decoded.map Prod.fst ++ [d] :=
      List.map_append
    have haccepted : (s.decode i now d).accepted = s.accepted := rfl
    rw [hdecoded, haccepted, ← h, ← hlose, ← Multiset.coe_add]
    abel
  | @send i m ms sending _ =>
    have hkeep : (s.send i m ms).undecoded = s.undecoded :=
      State.total_keeps (Worker.pending_of_sending sending).symm
    rw [hkeep]
    exact h
  | @leave i idle empty _ =>
    have hkeep : (s.setWorker i ⟨[], .ended⟩).undecoded = s.undecoded := by
      refine State.total_keeps ?_
      rw [Worker.pending_of_sending idle, empty]
      rfl
    rw [hkeep]
    exact h
  | drop | fail | sweep | tell | stop | pick | spawn | submit | answer | close | finish => exact h

/-- **No step loses or doubles a message on its way into the queue.** -/
theorem messages_step (h : (↑s.entered : Multiset Message) + s.unsent = ↑s.yielded)
    (step : p.Step s s') : (↑s'.entered : Multiset Message) + s'.unsent = ↑s'.yielded := by
  cases step with
  | @accept d _ _ =>
    have hkeep : (s.accept d).unsent = s.unsent := State.total_keeps rfl
    rw [hkeep]
    exact h
  | @fetch i d ds idle next =>
    have hkeep : (s.setWorker i ⟨ds, .holding d⟩).unsent = s.unsent :=
      State.total_keeps (Worker.unsent_of_sending idle).symm
    rw [hkeep]
    exact h
  | @decode i d now holding =>
    let result := (s.sessions.decode p.elements now d.exporter d.payload).2
    have hgain : (s.decode i now d).unsent = s.unsent + ↑(messagesOf result) := by
      refine State.total_gains ?_
      rw [Worker.unsent_of_holding holding]
      rfl
    have hyield : (s.decode i now d).yielded = s.yielded ++ messagesOf result := by
      have hdecoded : (s.decode i now d).decoded = s.decoded ++ [(d, result)] := rfl
      rw [State.yielded, hdecoded, List.flatMap_append, List.flatMap_singleton]
      rfl
    have hentered : (s.decode i now d).entered = s.entered := rfl
    rw [hgain, hyield, hentered, ← Multiset.coe_add, ← h, add_assoc]
  | @send i m ms sending _ =>
    have hlose : (s.send i m ms).unsent + ↑[m] = s.unsent :=
      State.total_loses (Worker.unsent_of_sending sending)
    have hentered : (s.send i m ms).entered = s.entered ++ [m] := rfl
    have hyield : (s.send i m ms).yielded = s.yielded := rfl
    rw [hentered, hyield, ← h, ← hlose, ← Multiset.coe_add]
    abel
  | @leave i idle empty _ =>
    have hkeep : (s.setWorker i ⟨[], .ended⟩).unsent = s.unsent :=
      State.total_keeps (Worker.unsent_of_sending idle).symm
    rw [hkeep]
    exact h
  | drop | fail | sweep | tell | stop | pick | spawn | submit | answer | close | finish => exact h

/-- **What a step does to the messages that wait to be submitted**: nothing, or one more has
entered the queue, or one is submitted.  No more stand before that one than are in flight with
it. -/
theorem waiting_cases (step : p.Step s s') :
    (s'.submitted = s.submitted ∧ s'.waiting = s.waiting ∧ s'.entered = s.entered) ∨
    (∃ m, s'.submitted = s.submitted ∧ s'.waiting = s.waiting ++ [m] ∧
      s'.entered = s.entered ++ [m]) ∨
    ∃ m xs ys, xs.length < s.inFlight.length ∧ s.waiting = xs ++ m :: ys ∧
      s'.submitted = s.submitted ++ [m] ∧ s'.waiting = xs ++ ys ∧ s'.entered = s.entered := by
  cases step with
  | @send i m ms sending _ => exact Or.inr (Or.inl ⟨m, rfl, (List.append_assoc ..).symm, rfl⟩)
  | @pick m ms idle next =>
    refine Or.inl ⟨rfl, ?_, rfl⟩
    simp [State.waiting, State.unbegun, Stage.held, idle, next]
  | @spawn m holding room =>
    refine Or.inl ⟨rfl, ?_, rfl⟩
    simp [State.waiting, State.unbegun, Stage.held, holding]
  | @submit m before after spawned =>
    let xs := (before.filter fun x => !x.begun).map Submission.message
    let ys := (after.filter fun x => !x.begun).map Submission.message
    refine Or.inr (Or.inr ⟨m, xs, ys ++ s.stage.held ++ s.queue, ?_, ?_, rfl, ?_, rfl⟩)
    · have hfew : xs.length ≤ before.length :=
        (List.length_map _).trans_le (List.length_filter_le _ before)
      rw [spawned, List.length_append, List.length_cons]
      omega
    · simp [State.waiting, State.unbegun, spawned, xs, ys]
    · simp [State.waiting, State.unbegun, xs, ys]
  | @answer m before after a begun =>
    refine Or.inl ⟨rfl, ?_, rfl⟩
    simp [State.waiting, State.unbegun, State.note, begun]
  | close idle empty left =>
    refine Or.inl ⟨rfl, ?_, rfl⟩
    simp [State.waiting, State.unbegun, Stage.held, idle]
  | finish closing empty =>
    refine Or.inl ⟨rfl, ?_, rfl⟩
    simp [State.waiting, State.unbegun, Stage.held, closing]
  | accept | drop | fail | sweep | tell | stop | fetch | decode | leave =>
    exact Or.inl ⟨rfl, rfl, rfl⟩

/-- **No step loses or doubles a message that has entered the queue**: it waits, or has been
submitted. -/
theorem waiting_step (h : (↑s.submitted : Multiset Message) + ↑s.waiting = ↑s.entered)
    (step : p.Step s s') : (↑s'.submitted : Multiset Message) + ↑s'.waiting = ↑s'.entered := by
  rcases waiting_cases step with ⟨hsubmitted, hwaiting, hentered⟩ |
    ⟨m, hsubmitted, hwaiting, hentered⟩ | ⟨m, xs, ys, -, hold, hsubmitted, hwaiting, hentered⟩
  · rw [hsubmitted, hwaiting, hentered, h]
  · rw [hsubmitted, hwaiting, hentered, ← Multiset.coe_add, ← Multiset.coe_add, ← h, add_assoc]
  · rw [hold] at h
    rw [hsubmitted, hwaiting, hentered, ← h, Multiset.coe_add, Multiset.coe_add, Multiset.coe_eq_coe,
      List.append_assoc, List.singleton_append]
    exact List.Perm.append_left _ List.perm_middle.symm

/-- **One submission at a time keeps the order of the queue**: what was submitted and what waits
are, one after the other, what has entered. -/
theorem inOrder_step (hone : s.inFlight.length ≤ 1) (h : s.entered = s.submitted ++ s.waiting)
    (step : p.Step s s') : s'.entered = s'.submitted ++ s'.waiting := by
  rcases waiting_cases step with ⟨hsubmitted, hwaiting, hentered⟩ |
    ⟨m, hsubmitted, hwaiting, hentered⟩ | ⟨m, xs, ys, hxs, hold, hsubmitted, hwaiting, hentered⟩
  · rw [hsubmitted, hwaiting, hentered, h]
  · rw [hsubmitted, hwaiting, hentered, h, List.append_assoc]
  · -- The submission that begins is the only one.
    have hfirst : xs = [] := List.length_eq_zero_iff.mp (by omega)
    rw [hsubmitted, hwaiting, hentered, h, hold, hfirst, List.append_assoc]
    rfl

/-- No more submissions are in flight than may be. -/
theorem inFlight_step (h : s.inFlight.length ≤ p.permits) (step : p.Step s s') :
    s'.inFlight.length ≤ p.permits := by
  cases step with
  | @spawn m holding room =>
    rw [List.length_append]
    exact room
  | @submit m before after spawned => simpa [spawned] using h
  | @answer m before after a begun =>
    rw [begun, List.length_append, List.length_cons] at h
    have hflight : (before ++ after).length ≤ p.permits := by
      rw [List.length_append]
      omega
    exact hflight
  | accept | drop | fail | sweep | tell | stop | fetch | decode | send | leave | pick | close
    | finish => exact h

/-- Every submission that has called the dispatcher has been answered, or waits for it. -/
theorem answers_step (h : s.answers + s.unanswered = s.submitted.length) (step : p.Step s s') :
    s'.answers + s'.unanswered = s'.submitted.length := by
  cases step with
  | @decode i d now holding =>
    have hanswers : (s.decode i now d).answers = s.answers := by
      have hnote : (s.decode i now d).events =
          s.events ++ eventsOf d.peer (s.sessions.decode p.elements now d.exporter d.payload).2 :=
        rfl
      rw [State.answers, hnote, List.countP_append, countP_eventsOf]
      rfl
    rw [hanswers]
    exact h
  | @spawn m holding room => simpa [State.unanswered, State.answers] using h
  | @submit m before after spawned =>
    simp only [State.unanswered, spawned, List.countP_append, List.countP_cons] at h ⊢
    simp only [State.answers, List.length_append, List.length_singleton] at h ⊢
    simp only [Bool.false_eq_true, if_false, if_true] at h ⊢
    omega
  | @answer m before after a begun =>
    simp only [State.unanswered, begun, List.countP_append, List.countP_cons] at h
    simp only [State.answers_note, List.countP_singleton, Event.isAnswer_ofAnswer, if_true] at h ⊢
    have hwaiting : State.unanswered ({ s with inFlight := before ++ after }.note [.ofAnswer a])
        = before.countP Submission.begun + after.countP Submission.begun := List.countP_append
    have hanswers : State.answers { s with inFlight := before ++ after } = s.answers := rfl
    have hsubmitted : ({ s with inFlight := before ++ after }.note [.ofAnswer a]).submitted
        = s.submitted := rfl
    rw [hwaiting, hanswers, hsubmitted]
    omega
  | accept | drop | sweep | fail | stop =>
    simp only [State.accept, State.drop, State.sweep, State.answers_note]
    exact h
  | tell | fetch | send | leave | pick | close | finish => exact h

/-- The events count the messages that packets were decoded to. -/
theorem received_step (h : s.received = s.yielded.length) (step : p.Step s s') :
    s'.received = s'.yielded.length := by
  cases step with
  | @decode i d now holding =>
    let result := (s.sessions.decode p.elements now d.exporter d.payload).2
    have hreceived : (s.decode i now d).received = s.received + (messagesOf result).length := by
      have hevents : (s.decode i now d).events = s.events ++ eventsOf d.peer result := rfl
      rw [State.received, hevents, List.map_append, List.sum_append, received_eventsOf]
      rfl
    have hyielded : (s.decode i now d).yielded.length
        = s.yielded.length + (messagesOf result).length := by
      have hdecoded : (s.decode i now d).decoded = s.decoded ++ [(d, result)] := rfl
      rw [State.yielded, hdecoded, List.flatMap_append, List.length_append, List.flatMap_singleton]
      rfl
    rw [hreceived, hyielded, h]
  | @answer m before after a begun =>
    simp only [State.received_note, List.map_cons, List.map_nil, List.sum_singleton,
      Event.received_ofAnswer]
    exact h
  | accept | drop | sweep | fail | stop =>
    simp only [State.accept, State.drop, State.sweep, State.received_note]
    exact h
  | tell | fetch | send | leave | pick | spawn | submit | close | finish => exact h

/-- Every datagram that was decoded was decoded in some sessions at some instant. -/
theorem decoded_step
    (h : ∀ x ∈ s.decoded, ∃ (ss : SessionTable) (now : Nat),
      x.2 = (ss.decode p.elements now x.1.exporter x.1.payload).2) (step : p.Step s s') :
    ∀ x ∈ s'.decoded, ∃ (ss : SessionTable) (now : Nat),
      x.2 = (ss.decode p.elements now x.1.exporter x.1.payload).2 := by
  cases step with
  | @decode i d now holding =>
    intro x hx
    rcases List.mem_append.mp hx with hold | hnew
    · exact h x hold
    · rw [List.mem_singleton.mp hnew]
      exact ⟨s.sessions, now, rfl⟩
  | accept | drop | fail | sweep | tell | stop | fetch | send | leave | pick | spawn | submit
    | answer | close | finish => exact h

/-! ## 4. Schedules -/

/-- What every step keeps: all that was accepted is accounted for. -/
structure State.Balanced (s : State p) : Prop where
  datagrams : (↑(s.decoded.map Prod.fst) : Multiset Datagram) + s.undecoded = ↑s.accepted
  messages : (↑s.entered : Multiset Message) + s.unsent = ↑s.yielded
  waiting : (↑s.submitted : Multiset Message) + ↑s.waiting = ↑s.entered
  inFlight : s.inFlight.length ≤ p.permits
  answers : s.answers + s.unanswered = s.submitted.length
  received : s.received = s.yielded.length
  decoded : ∀ x ∈ s.decoded, ∃ (ss : SessionTable) (now : Nat),
    x.2 = (ss.decode p.elements now x.1.exporter x.1.payload).2
  inOrder : p.permits = 1 → s.entered = s.submitted ++ s.waiting

theorem balanced_step (h : s.Balanced) (step : p.Step s s') : s'.Balanced where
  datagrams := datagrams_step h.datagrams step
  messages := messages_step h.messages step
  waiting := waiting_step h.waiting step
  inFlight := inFlight_step h.inFlight step
  answers := answers_step h.answers step
  received := received_step h.received step
  decoded := decoded_step h.decoded step
  inOrder hone := inOrder_step (hone ▸ h.inFlight) (h.inOrder hone) step

theorem balanced_start (p : Pipeline) (ss : SessionTable) : (State.start p ss).Balanced where
  datagrams := by simp [State.start, State.undecoded, State.total, Worker.pending]
  messages := by simp [State.start, State.unsent, State.total, Worker.unsent, State.yielded]
  waiting := rfl
  inFlight := Nat.zero_le _
  answers := rfl
  received := rfl
  decoded x hx := by cases hx
  inOrder _ := rfl

/-- **On every schedule all is accounted for**, by induction on the steps. -/
theorem balanced_of_reachable {ss : SessionTable} (h : p.Reachable ss s) : s.Balanced := by
  induction h with
  | refl => exact balanced_start p ss
  | tail _ step ih => exact balanced_step ih step

namespace State.Ended

variable (h : s.Ended) (horderly : s.Orderly)

include h in
theorem unsent_eq : s.unsent = 0 := by
  have hnone : ∀ i, (s.worker i).unsent = [] := fun i => by rw [Worker.unsent, h.worker i]
  simp [unsent, total, hnone]

include h in
theorem waiting_eq : s.waiting = [] ↔ s.queue = [] := by
  simp [waiting, unbegun, h.inFlight, h.stage, Stage.held]

include h horderly in
theorem undecoded_eq : s.undecoded = 0 := by
  have hnone : ∀ i, (s.worker i).pending = [] := by
    intro i
    rw [Worker.pending, h.worker i]
    exact (horderly.worker i (h.worker i)).1
  simp [undecoded, total, hnone]

end State.Ended

/-- **Every message is submitted once, whatever the tasks do**, whether or not the dispatcher accepts
it, and also where idle sessions are removed.  At any time no more submissions are in flight than may
be, and the messages submitted are, with those that wait in one place or another, exactly those that
datagrams were decoded to.  Once all tasks have ended every accepted datagram has been decoded, every
message submitted, and as many submissions have been answered as messages were received.  Where only
one may be in flight they are submitted in the order of the queue.  The tasks can always come to
their end. -/
theorem submitted_exactly_once (ss : SessionTable) (h : p.Reachable ss s) :
    s.inFlight.length ≤ p.permits ∧
    (↑s.submitted + ↑s.waiting + s.unsent : Multiset Message) = ↑s.yielded ∧
    (∀ x ∈ s.decoded, ∃ (ss' : SessionTable) (now : Nat),
      x.2 = (ss'.decode p.elements now x.1.exporter x.1.payload).2) ∧
    (s.Ended → (s.decoded.map Prod.fst).Perm s.accepted ∧
      s.submitted.Perm s.yielded ∧
      s.events.countP Event.isAnswer = (s.events.map Event.received).sum ∧
      (metricsOf s.events).count receivedEvents
        = UInt64.ofNat (s.events.countP Event.isAnswer)) ∧
    (p.permits = 1 → s.submitted <+: s.entered) ∧
    ∃ s', Relation.ReflTransGen p.Step s s' ∧ s'.Ended := by
  have hbalanced := balanced_of_reachable h
  have horderly := orderly_of_reachable h
  refine ⟨hbalanced.inFlight, ?_, hbalanced.decoded, fun hended => ?_, fun hone => ?_,
    exists_ended horderly⟩
  · rw [hbalanced.waiting, hbalanced.messages]
  · have hqueue := (horderly.stage (Or.inr hended.stage)).1
    have hwaiting : s.waiting = [] := hended.waiting_eq.mpr hqueue
    have hdatagrams := hbalanced.datagrams
    have hentered := hbalanced.messages
    have hsubmitted := hbalanced.waiting
    rw [hended.undecoded_eq horderly, add_zero, Multiset.coe_eq_coe] at hdatagrams
    rw [hended.unsent_eq, add_zero, Multiset.coe_eq_coe] at hentered
    rw [hwaiting, Multiset.coe_nil, add_zero, Multiset.coe_eq_coe] at hsubmitted
    have hall := hsubmitted.trans hentered
    have hanswers : s.events.countP Event.isAnswer = (s.events.map Event.received).sum := by
      have hcounted : s.answers + s.unanswered = s.submitted.length := hbalanced.answers
      have hnone : s.unanswered = 0 := by simp [State.unanswered, hended.inFlight]
      have hreceived : s.received = s.yielded.length := hbalanced.received
      rw [hnone, Nat.add_zero, hall.length_eq, ← hreceived] at hcounted
      exact hcounted
    exact ⟨hdatagrams, hall, hanswers, by rw [count_metricsOf_received, hanswers]⟩
  · rw [hbalanced.inOrder hone]
    exact List.prefix_append _ _

/-- One packet brings two records; the dispatcher accepts the first and refuses the second. -/
theorem two_records_submitted :
    let peer : SocketAddress := ⟨.v4 ⟨[192, 0, 2, 1], rfl⟩, 4000, 0⟩
    let packet : Builder := (({} : Builder).template 256 [⟨1, none, 1⟩]).data 256 [[7], [8]]
    let settings : ListenerSettings := { workers := 1, maxInFlightDispatches := 1 }
    let only : Fin 1 := 0
    let p := settings.pipeline .empty ⟨peer.address, 4739, 0⟩ fun _ => only
    ∃ s : State p, p.Reachable .empty s ∧ s.Ended ∧ s.accepted = [⟨peer, packet.build⟩] ∧
      s.submitted.length = 2 ∧ s.submitted.Perm s.yielded ∧ s.submitted <+: s.entered ∧
      (metricsOf s.events).count receivedEvents = 2 := by
  intro peer packet settings only p
  let answer (n : Nat) (_ : Message) : Except String Unit := if n = 1 then .ok () else .error "no"
  let d : Datagram := ⟨peer, packet.build⟩
  let started : Listener := ({} : Listener).note (.listenerStarted p.address p.workers)
  have hstart : Stands (State.start p .empty) started only [] :=
    ⟨rfl, rfl, fun j => (ite_self _).symm, rfl, rfl, rfl, rfl, rfl⟩
  obtain ⟨s, hrun, hstands, haccepted⟩ := hstart.take answer 0 d
  have hserved : (Listener.take p.elements p.bufferSize (.answering answer) 0 started d).submitted
      = 2 := by
    have hdecode := SessionTable.decode_of_framed .empty .empty 0 peer.address
      (Builder.parse_build (b := packet) rfl (by decide)) (Builder.splitSets_build (by decide))
    have hmessages : (messagesOf
        (SessionTable.decode .empty .empty 0 peer.address packet.build).2).length = 2 := by
      rw [hdecode]
      rfl
    rw [Listener.take_eq, Listener.submitted_foldl]
    exact congrArg (0 + ·) hmessages
  -- The listener stops, then its worker, then the dispatch stage.
  let stopped : State p := { s with told := true, receiving := false }.note [.listenerStopped p.address]
  let left : State p := stopped.setWorker only ⟨[], .ended⟩
  let ended : State p := { left with stage := .ended }
  have hidle : stopped.worker only = {} := hstands.worker_nil only
  have htell : p.Step s { s with told := true } := .tell
  have hstop : p.Step { s with told := true } stopped := .stop rfl hstands.receiving
  have hleave : p.Step stopped left :=
    .leave (congrArg Worker.task hidle) (congrArg Worker.queue hidle) rfl
  have hall : ∀ i, (left.worker i).task = .ended := by
    intro i
    have honly : i = only := Subsingleton.elim (α := Fin 1) i only
    rw [honly]
    exact congrArg Worker.task (setWorker_self stopped only _)
  have hclose : p.Step left { left with stage := .closing } := .close hstands.stage hstands.queue hall
  have hfinish : p.Step { left with stage := .closing } ended := .finish rfl hstands.inFlight
  have hreachable : p.Reachable .empty ended :=
    (((((hrun.tail htell).tail hstop).tail hleave).tail hclose).tail hfinish)
  have hended : ended.Ended := ⟨rfl, hall, rfl, hstands.inFlight⟩
  obtain ⟨-, -, -, hlast, hone, -⟩ := submitted_exactly_once .empty hreachable
  obtain ⟨-, hperm, hanswers, hcount⟩ := hlast hended
  have htwo : ended.submitted.length = 2 := hstands.submitted.trans hserved
  have hreceived : (ended.events.map Event.received).sum = 2 :=
    (balanced_of_reachable hreachable).received.trans (hperm.length_eq.symm.trans htwo)
  refine ⟨ended, hreachable, hended, haccepted, htwo, hperm, hone rfl, ?_⟩
  rw [hcount, hanswers, hreceived]
  rfl

end Pipeline

end FlowIntake
