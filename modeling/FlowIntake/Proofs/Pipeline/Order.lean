/-
# The tasks decode each exporter in order

What a running listener makes of one exporter's datagrams is what decoding them one after another
makes of them, whatever the tasks do in between and whatever other exporters send.

Seen from one exporter the listener is a `Lane`: the datagrams that wait, the messages that wait,
and the templates known.  Every step of a task is a step of the lane or leaves it as it is, and a
lane only ever moves forward.

* `SessionTable.decode_alike`: the messages of a packet depend on the templates alone;
* `Pipeline.routed_step`: a worker has nothing from an exporter that is not routed to it;
* `Pipeline.lane_step`: what a task does is a step of every exporter's lane, or none;
* `Lane.sequential_step`: a step of a lane keeps it to the sequential order;
* `Pipeline.entered_in_order`: the theorem about all schedules.
-/
import FlowIntake.Proofs.Packet.Framing
import FlowIntake.Proofs.Pipeline.Schedule
import FlowIntake.Proofs.Session.Sequence

namespace FlowIntake

/-! ## 1. What a packet yields -/

theorem Visit.exporter_of_mem_report {elements : Registry} {c : MessageContext} {v : Visit}
    {m : Message} (h : m ∈ (v.report elements c).1) : m.exporter = c.exporter := by
  have hmessages : ∀ (t : Template) (rs : List (List Value)), m ∈ c.messages t rs →
      m.exporter = c.exporter := by
    intro t rs hm
    rw [MessageContext.messages_eq] at hm
    obtain ⟨values, -, rfl⟩ := List.mem_map.mp hm
    rfl
  unfold report at h
  split at h
  · cases h
  · split at h
    · cases h
    · exact hmessages _ _ h
  · cases h

namespace SessionTable

/-- The messages of a well-framed packet are what its sets say under the templates of its key. -/
theorem messagesOf_decode (elements : Registry) (ss : SessionTable) (now : Nat)
    (exporter : Address) {bs : Bytes} {h : Header} {sets : List RawSet}
    (hparse : Header.parse bs = .ok h) (hsplit : splitSets h bs = .ok sets) :
    messagesOf (ss.decode elements now exporter bs).2
      = ((ss.bindings ⟨exporter, h.domain⟩).visits elements sets).flatMap fun v =>
          (v.report elements ⟨exporter, h.domain, h.exportTime, h.sequence⟩).1 := by
  have hfollows := Session.follows_receive elements h
    ((ss.session now ⟨exporter, h.domain⟩).touch now) sets
  have hcontext : ((ss.session now ⟨exporter, h.domain⟩).touch now).context h
      = ⟨exporter, h.domain, h.exportTime, h.sequence⟩ := by
    rw [Session.context]
    simp only [Session.touch, key_session]
  have hbindings : ((ss.session now ⟨exporter, h.domain⟩).touch now).bindings
      = ss.bindings ⟨exporter, h.domain⟩ := bindings_session ss now _
  rw [decode_of_framed elements ss now exporter hparse hsplit, messagesOf, hfollows.messages,
    hcontext, hbindings]

/-- A packet yields messages of its exporter. -/
theorem exporter_of_mem_decode {elements : Registry} {ss : SessionTable} {now : Nat}
    {exporter : Address} {bs : Bytes} {m : Message}
    (h : m ∈ messagesOf (ss.decode elements now exporter bs).2) : m.exporter = exporter := by
  rcases decode_cases bs with ⟨e, hfault⟩ | ⟨hd, sets, hparse, hsplit⟩
  · rw [(hfault _ _ _ _).1] at h
    cases h
  · rw [messagesOf_decode elements ss now exporter hparse hsplit] at h
    obtain ⟨v, -, hv⟩ := List.mem_flatMap.mp h
    exact Visit.exporter_of_mem_report hv

/-- A packet leaves the templates of every other exporter. -/
theorem bindings_decode_of_ne (elements : Registry) (ss : SessionTable) (now : Nat)
    {e exporter : Address} (hne : exporter ≠ e) (bs : Bytes) (domain : UInt32) :
    bindings (ss.decode elements now exporter bs).1 ⟨e, domain⟩ = ss.bindings ⟨e, domain⟩ := by
  have hsets : (Arrival.mk now exporter bs).setsFor ⟨e, domain⟩ = [] := by
    unfold Arrival.setsFor
    split
    · rfl
    · split
      · rfl
      · exact if_neg fun h => hne (congrArg SessionKey.exporter h).symm
  have hdecode := bindings_decode elements ss ⟨e, domain⟩ ⟨now, exporter, bs⟩
  rw [hsets] at hdecode
  exact hdecode

/-- **A packet yields the same in all sessions with the same templates**, at whatever instant, and
leaves the same templates. -/
theorem decode_alike (elements : Registry) {ss ss' : SessionTable} {exporter : Address}
    (h : ∀ domain, ss'.bindings ⟨exporter, domain⟩ = ss.bindings ⟨exporter, domain⟩)
    (now now' : Nat) (bs : Bytes) :
    messagesOf (ss'.decode elements now' exporter bs).2
        = messagesOf (ss.decode elements now exporter bs).2 ∧
      ∀ domain, bindings (ss'.decode elements now' exporter bs).1 ⟨exporter, domain⟩
        = bindings (ss.decode elements now exporter bs).1 ⟨exporter, domain⟩ := by
  constructor
  · rcases decode_cases bs with ⟨e, hfault⟩ | ⟨hd, sets, hparse, hsplit⟩
    · rw [(hfault _ _ _ _).1, (hfault _ _ _ _).1]
    · rw [messagesOf_decode elements ss now exporter hparse hsplit,
        messagesOf_decode elements ss' now' exporter hparse hsplit, h]
  · intro domain
    have hdecode := bindings_decode elements ss ⟨exporter, domain⟩ ⟨now, exporter, bs⟩
    have hdecode' := bindings_decode elements ss' ⟨exporter, domain⟩ ⟨now', exporter, bs⟩
    have hsets : (Arrival.mk now' exporter bs).setsFor ⟨exporter, domain⟩
        = (Arrival.mk now exporter bs).setsFor ⟨exporter, domain⟩ := rfl
    rw [hsets, h] at hdecode'
    exact hdecode'.trans hdecode.symm

/-- The messages of packets that are decoded one after another. -/
def messages (elements : Registry) (ss : SessionTable) (arrivals : List Arrival) : List Message :=
  (ss.outcomes elements arrivals).flatMap fun x => messagesOf x.2

theorem messages_append (elements : Registry) (ss : SessionTable) (arrivals later : List Arrival) :
    ss.messages elements (arrivals ++ later)
      = ss.messages elements arrivals ++ (ss.after elements arrivals).messages elements later := by
  rw [messages, outcomes_append, List.flatMap_append]
  rfl

theorem messages_singleton (elements : Registry) (ss : SessionTable) (a : Arrival) :
    ss.messages elements [a] = messagesOf (ss.decode elements a.now a.exporter a.packet).2 :=
  List.append_nil _

end SessionTable

/-! ## 2. Exporters -/

theorem Octets.eq_of_toBytes {n : Nat} {a b : Octets n} (h : a.toBytes = b.toBytes) : a = b := by
  cases a
  cases b
  cases h
  rfl

namespace Address

/-- An address is known as an IPv4 address when it is that address or maps it. -/
theorem canonical_eq_v4_iff {a : Address} {o : Octets 4} :
    a.canonical = v4 o ↔ a = v4 o ∨ a = v6 (mapping o) := by
  constructor
  · intro h
    cases a with
    | v4 q => exact Or.inl h
    | v6 q =>
      right
      rw [canonical, mapped?] at h
      split at h
      · rename_i r hmapped
        cases h
        split at hmapped
        · rename_i hprefix
          cases hmapped
          have hlength : (q.toBytes.drop 12).length = 4 := by rw [List.length_drop, q.size]
          have hoctets : q.toBytes
              = mappedPrefix ++ (Octets.ofBytes 4 (q.toBytes.drop 12)).toBytes := by
            rw [Octets.toBytes_ofBytes hlength, ← hprefix, List.take_append_drop]
          exact congrArg v6 (Octets.eq_of_toBytes hoctets)
        · cases hmapped
      · cases h
  · rintro (rfl | rfl)
    · rfl
    · exact canonical_mapping o

end Address

/-- Whether the datagram comes from an exporter. -/
def Datagram.isFrom (e : Address) (d : Datagram) : Bool := d.exporter = e

/-- Whether the message comes from an exporter. -/
def Message.isFrom (e : Address) (m : Message) : Bool := m.exporter = e

/-- The datagram as it comes to be decoded at an instant. -/
def Datagram.arrival (d : Datagram) (now : Nat) : Arrival := ⟨now, d.exporter, d.payload⟩

/-! ## 3. Lanes -/

/-- A running listener as one exporter sees it. -/
@[ext]
structure Lane where
  /-- The datagrams that were accepted. -/
  accepted : List Datagram
  /-- Those that wait to be decoded. -/
  pending : List Datagram
  /-- The messages that wait to be sent. -/
  unsent : List Message
  /-- The messages that were sent. -/
  entered : List Message
  /-- The templates of each domain. -/
  bindings : UInt32 → Bindings

namespace Lane

variable {elements : Registry} {ss : SessionTable} {e : Address} {l l' : Lane}

/-- What happens in the lane of an exporter.  It decodes in any sessions with the templates it
knows. -/
inductive Step (elements : Registry) (e : Address) : Lane → Lane → Prop where
  | accept {l : Lane} {d : Datagram} (own : d.exporter = e) :
      Step elements e l { l with accepted := l.accepted ++ [d], pending := l.pending ++ [d] }
  | decode {l : Lane} {d : Datagram} {ds : List Datagram} {now : Nat} {ss : SessionTable}
      (own : d.exporter = e) (next : l.pending = d :: ds) (idle : l.unsent = [])
      (known : ∀ domain, ss.bindings ⟨e, domain⟩ = l.bindings domain) :
      Step elements e l { l with
        pending := ds
        unsent := messagesOf (ss.decode elements now e d.payload).2
        bindings := fun domain =>
          SessionTable.bindings (ss.decode elements now e d.payload).1 ⟨e, domain⟩ }
  | send {l : Lane} {m : Message} {ms : List Message} (next : l.unsent = m :: ms) :
      Step elements e l { l with unsent := ms, entered := l.entered ++ [m] }

/-- The lane stands where decoding its first datagrams one after another, from these sessions and at
whatever instants, has come. -/
def Sequential (elements : Registry) (ss : SessionTable) (e : Address) (l : Lane) : Prop :=
  ∃ decoded, l.accepted = decoded ++ l.pending ∧
    ∀ timed : List (Nat × Datagram), timed.map Prod.snd = decoded →
      let arrivals := timed.map fun x => x.2.arrival x.1
      (∀ domain, (ss.after elements arrivals).bindings ⟨e, domain⟩ = l.bindings domain) ∧
        ss.messages elements arrivals = l.entered ++ l.unsent

/-- **A step keeps a lane to the sequential order.** -/
theorem sequential_step (h : l.Sequential elements ss e) (step : Step elements e l l') :
    l'.Sequential elements ss e := by
  obtain ⟨decoded, haccepted, hdecoded⟩ := h
  cases step with
  | accept own =>
    refine ⟨decoded, ?_, hdecoded⟩
    rw [haccepted, List.append_assoc]
  | @decode d ds now ss' own next idle known =>
    refine ⟨decoded ++ [d], ?_, ?_⟩
    · rw [haccepted, next, List.append_assoc]
      rfl
    · intro timed htimed arrivals
      obtain ⟨before, last, rfl, hbefore, hlast⟩ := List.map_eq_append_iff.mp htimed
      obtain ⟨⟨now', d'⟩, rfl, rfl⟩ := List.map_eq_singleton_iff.mp hlast
      obtain ⟨hbindings, hmessages⟩ := hdecoded before hbefore
      have halike := SessionTable.decode_alike elements
        (fun domain => (hbindings domain).trans (known domain).symm) now now' d'.payload
      have harrivals : arrivals
          = (before.map fun x => x.2.arrival x.1) ++ [⟨now', e, d'.payload⟩] := by
        rw [← own]
        exact List.map_append
      constructor
      · rw [harrivals, SessionTable.after_append]
        exact halike.2
      · rw [harrivals, SessionTable.messages_append, SessionTable.messages_singleton, hmessages,
          idle, List.append_nil]
        exact congrArg _ halike.1
  | @send m ms next =>
    refine ⟨decoded, haccepted, fun timed htimed => ?_⟩
    obtain ⟨hbindings, hmessages⟩ := hdecoded timed htimed
    refine ⟨hbindings, ?_⟩
    rw [hmessages, next, List.append_assoc]
    rfl

end Lane

/-! ## 4. Steps -/

theorem filter_concat_of_pos {α : Type} {f : α → Bool} {a : α} (h : f a = true) (as : List α) :
    (as ++ [a]).filter f = as.filter f ++ [a] := by
  rw [List.filter_append, List.filter_cons_of_pos h, List.filter_nil]

theorem filter_concat_of_neg {α : Type} {f : α → Bool} {a : α} (h : ¬f a = true) (as : List α) :
    (as ++ [a]).filter f = as.filter f := by
  rw [List.filter_append, List.filter_cons_of_neg h, List.filter_nil, List.append_nil]

namespace Worker

variable {w : Worker}

theorem pending_of_sending {ms : List Message} (h : w.task = .sending ms) :
    w.pending = w.queue := by rw [pending, h]

theorem unsent_of_sending {ms : List Message} (h : w.task = .sending ms) : w.unsent = ms := by
  rw [unsent, h]

theorem pending_of_holding {d : Datagram} (h : w.task = .holding d) :
    w.pending = d :: w.queue := by rw [pending, h]

theorem unsent_of_holding {d : Datagram} (h : w.task = .holding d) : w.unsent = [] := by
  rw [unsent, h]

/-- What joins the queue waits behind all else. -/
theorem pending_queue_append (w : Worker) (ds : List Datagram) :
    ({ w with queue := w.queue ++ ds } : Worker).pending = w.pending ++ ds := by
  obtain ⟨queue, d | ms | _⟩ := w <;> rfl

end Worker

namespace Pipeline

variable {p : Pipeline} {s s' : State p} {i : Fin p.workers} {w : Worker}

/-- Whether a worker has nothing but what is routed to it. -/
def Serves (p : Pipeline) (i : Fin p.workers) (w : Worker) : Prop :=
  (∀ d ∈ w.pending, p.route d.exporter = i) ∧ ∀ m ∈ w.unsent, p.route m.exporter = i

/-- Whether every worker has nothing but what is routed to it. -/
def State.Routed (s : State p) : Prop := ∀ i, p.Serves i (s.worker i)

theorem routed_setWorker (h : s.Routed) (hw : p.Serves i w) : (s.setWorker i w).Routed := by
  intro j
  have hset : (s.setWorker i w).worker j = if j = i then w else s.worker j := rfl
  rw [hset]
  split
  · rename_i hj
    exact hj ▸ hw
  · exact h j

/-- **A step leaves no worker with what is routed to another.** -/
theorem routed_step (h : s.Routed) (step : p.Step s s') : s'.Routed := by
  cases step with
  | @accept d _ _ =>
    refine routed_setWorker h ⟨?_, (h (p.workerFor d)).2⟩
    intro d' hd'
    rw [Worker.pending_queue_append] at hd'
    rcases List.mem_append.mp hd' with hold | hnew
    · exact (h _).1 d' hold
    · rw [List.mem_singleton.mp hnew]
      rfl
  | @fetch i d ds idle next =>
    refine routed_setWorker h ⟨fun d' hd' => (h i).1 d' ?_, fun m hm => absurd hm List.not_mem_nil⟩
    rw [Worker.pending_of_sending idle, next]
    exact hd'
  | @decode i d now holding =>
    have hheld := Worker.pending_of_holding holding
    refine routed_setWorker h ⟨fun d' hd' => (h i).1 d' ?_, fun m hm => ?_⟩
    · rw [hheld]
      exact List.mem_cons_of_mem d hd'
    · rw [SessionTable.exporter_of_mem_decode hm]
      exact (h i).1 d (hheld ▸ List.mem_cons_self)
  | @send i m ms sending room =>
    refine routed_setWorker h ⟨fun d hd => (h i).1 d ?_, fun m' hm' => (h i).2 m' ?_⟩
    · rw [Worker.pending_of_sending sending]
      exact hd
    · rw [Worker.unsent_of_sending sending]
      exact List.mem_cons_of_mem m hm'
  | leave =>
    exact routed_setWorker h
      ⟨fun d hd => absurd hd List.not_mem_nil, fun m hm => absurd hm List.not_mem_nil⟩
  | drop | fail | sweep | tell | stop | pick | spawn | submit | answer | close | finish => exact h

/-- The listener as one exporter sees it. -/
def State.lane (s : State p) (e : Address) : Lane where
  accepted := s.accepted.filter (Datagram.isFrom e)
  pending := (s.worker (p.route e)).pending.filter (Datagram.isFrom e)
  unsent := (s.worker (p.route e)).unsent.filter (Message.isFrom e)
  entered := s.entered.filter (Message.isFrom e)
  bindings domain := s.sessions.bindings ⟨e, domain⟩

/-- An exporter does not notice what a worker does when nothing of its own is concerned. -/
theorem lane_setWorker (e : Address)
    (hpending : p.route e = i →
      w.pending.filter (Datagram.isFrom e) = (s.worker i).pending.filter (Datagram.isFrom e))
    (hunsent : p.route e = i →
      w.unsent.filter (Message.isFrom e) = (s.worker i).unsent.filter (Message.isFrom e)) :
    (s.setWorker i w).lane e = s.lane e := by
  have hset : (s.setWorker i w).worker (p.route e)
      = if p.route e = i then w else s.worker (p.route e) := rfl
  unfold State.lane
  rw [hset]
  split
  · rename_i hi
    rw [hpending hi, hunsent hi, ← hi]
    rfl
  · rfl

/-- An accepted datagram joins the lane of its exporter. -/
theorem lane_accept (s : State p) (d : Datagram) (e : Address) :
    (s.accept d).lane e = s.lane e ∨ Lane.Step p.elements e (s.lane e) ((s.accept d).lane e) := by
  let kept := d.cut p.bufferSize
  let w := s.worker (p.workerFor d)
  let w' : Worker := { w with queue := w.queue ++ [kept] }
  have hpending : w'.pending = w.pending ++ [kept] := Worker.pending_queue_append w [kept]
  rcases eq_or_ne d.exporter e with rfl | hother
  · right
    have hfrom : Datagram.isFrom d.exporter kept = true := decide_eq_true rfl
    have hworker : (s.accept d).worker (p.route d.exporter) = w' := if_pos rfl
    have hlane : (s.accept d).lane d.exporter = { s.lane d.exporter with
        accepted := (s.lane d.exporter).accepted ++ [kept]
        pending := (s.lane d.exporter).pending ++ [kept] } := by
      refine Lane.ext (filter_concat_of_pos hfrom s.accepted) ?pending ?unsent rfl rfl
      case pending =>
        rw [State.lane, hworker, hpending, filter_concat_of_pos hfrom]
        rfl
      case unsent =>
        rw [State.lane, hworker]
        rfl
    rw [hlane]
    exact .accept rfl
  · left
    have hfrom : ¬Datagram.isFrom e kept = true := mt of_decide_eq_true hother
    have hsame : (s.setWorker (p.workerFor d) w').lane e = s.lane e := by
      refine lane_setWorker e (fun _ => ?_) (fun _ => rfl)
      rw [hpending, filter_concat_of_neg hfrom]
    have hwaiting := congrArg Lane.pending hsame
    have hunsent := congrArg Lane.unsent hsame
    exact Lane.ext (filter_concat_of_neg hfrom s.accepted) hwaiting hunsent rfl rfl

/-- A datagram is decoded in the lane of its exporter. -/
theorem lane_decode (h : s.Routed) {d : Datagram} (now : Nat)
    (holding : (s.worker i).task = .holding d) (e : Address) :
    (s.decode i now d).lane e = s.lane e ∨
      Lane.Step p.elements e (s.lane e) ((s.decode i now d).lane e) := by
  let result := s.sessions.decode p.elements now d.exporter d.payload
  let w : Worker := ⟨(s.worker i).queue, .sending (messagesOf result.2)⟩
  have hheld := Worker.pending_of_holding holding
  have hidle := Worker.unsent_of_holding holding
  have hroute : p.route d.exporter = i := (h i).1 d (hheld ▸ List.mem_cons_self)
  rcases eq_or_ne d.exporter e with rfl | hother
  · right
    have hfrom : Datagram.isFrom d.exporter d = true := decide_eq_true rfl
    have hworker : (s.decode i now d).worker (p.route d.exporter) = w := if_pos hroute
    have hnext : (s.lane d.exporter).pending
        = d :: (s.worker i).queue.filter (Datagram.isFrom d.exporter) := by
      rw [State.lane, hroute, hheld, List.filter_cons_of_pos hfrom]
    have hsent : (s.lane d.exporter).unsent = [] := by
      rw [State.lane, hroute, hidle, List.filter_nil]
    have hown : (messagesOf result.2).filter (Message.isFrom d.exporter) = messagesOf result.2 := by
      rw [List.filter_eq_self]
      intro m hm
      exact decide_eq_true (SessionTable.exporter_of_mem_decode hm)
    have hlane : (s.decode i now d).lane d.exporter = { s.lane d.exporter with
        pending := (s.worker i).queue.filter (Datagram.isFrom d.exporter)
        unsent := messagesOf result.2
        bindings := fun domain => SessionTable.bindings result.1 ⟨d.exporter, domain⟩ } := by
      refine Lane.ext rfl ?pending ?unsent rfl rfl
      case pending =>
        rw [State.lane, hworker]
        rfl
      case unsent =>
        rw [State.lane, hworker]
        exact hown
    rw [hlane]
    exact .decode rfl hnext hsent fun _ => rfl
  · left
    have hfrom : ¬Datagram.isFrom e d = true := mt of_decide_eq_true hother
    have hnone : (messagesOf result.2).filter (Message.isFrom e) = [] := by
      rw [List.filter_eq_nil_iff]
      intro m hm hown
      exact hother ((SessionTable.exporter_of_mem_decode hm).symm.trans (of_decide_eq_true hown))
    have hsame : (s.setWorker i w).lane e = s.lane e := by
      refine lane_setWorker e (fun _ => ?_) (fun _ => ?_)
      · rw [hheld, List.filter_cons_of_neg hfrom]
        rfl
      · rw [hidle]
        exact hnone
    have hwaiting := congrArg Lane.pending hsame
    have hunsent := congrArg Lane.unsent hsame
    refine Lane.ext rfl hwaiting hunsent rfl ?_
    funext domain
    exact SessionTable.bindings_decode_of_ne p.elements s.sessions now hother d.payload domain

/-- A message is sent in the lane of its exporter. -/
theorem lane_send (h : s.Routed) {m : Message} {ms : List Message}
    (sending : (s.worker i).task = .sending (m :: ms)) (e : Address) :
    (s.send i m ms).lane e = s.lane e ∨
      Lane.Step p.elements e (s.lane e) ((s.send i m ms).lane e) := by
  let w : Worker := ⟨(s.worker i).queue, .sending ms⟩
  have hpending := Worker.pending_of_sending sending
  have hunsent := Worker.unsent_of_sending sending
  have hroute : p.route m.exporter = i := (h i).2 m (hunsent ▸ List.mem_cons_self)
  rcases eq_or_ne m.exporter e with rfl | hother
  · right
    have hfrom : Message.isFrom m.exporter m = true := decide_eq_true rfl
    have hworker : (s.send i m ms).worker (p.route m.exporter) = w := if_pos hroute
    have hnext : (s.lane m.exporter).unsent = m :: ms.filter (Message.isFrom m.exporter) := by
      rw [State.lane, hroute, hunsent, List.filter_cons_of_pos hfrom]
    have hlane : (s.send i m ms).lane m.exporter = { s.lane m.exporter with
        unsent := ms.filter (Message.isFrom m.exporter)
        entered := (s.lane m.exporter).entered ++ [m] } := by
      refine Lane.ext rfl ?pending ?unsent (filter_concat_of_pos hfrom s.entered) rfl
      case pending =>
        rw [State.lane, State.lane, hworker, hroute, hpending]
        rfl
      case unsent =>
        rw [State.lane, hworker]
        rfl
    rw [hlane]
    exact .send hnext
  · left
    have hfrom : ¬Message.isFrom e m = true := mt of_decide_eq_true hother
    have hsame : (s.setWorker i w).lane e = s.lane e := by
      refine lane_setWorker e (fun _ => ?_) (fun _ => ?_)
      · rw [hpending]
        rfl
      · rw [hunsent, List.filter_cons_of_neg hfrom]
        rfl
    have hwaiting := congrArg Lane.pending hsame
    have hleft := congrArg Lane.unsent hsame
    exact Lane.ext rfl hwaiting hleft (filter_concat_of_neg hfrom s.entered) rfl

/-- **What a task does is a step of an exporter's lane, or the exporter does not notice it**, where
no sessions are removed for being idle. -/
theorem lane_step (hkept : p.idleTimeout? = none) (h : s.Routed) (step : p.Step s s')
    (e : Address) : s'.lane e = s.lane e ∨ Lane.Step p.elements e (s.lane e) (s'.lane e) := by
  cases step with
  | @accept d _ _ => exact lane_accept s d e
  | @decode i d now holding => exact lane_decode h now holding e
  | @send i m ms sending room => exact lane_send h sending e
  | @fetch i d ds idle next =>
    refine Or.inl (lane_setWorker e (fun _ => ?_) (fun _ => ?_))
    · rw [Worker.pending_of_sending idle, next]
      rfl
    · rw [Worker.unsent_of_sending idle]
      rfl
  | @leave i idle empty stopped =>
    refine Or.inl (lane_setWorker e (fun _ => ?_) (fun _ => ?_))
    · rw [Worker.pending_of_sending idle, empty]
      rfl
    · rw [Worker.unsent_of_sending idle]
      rfl
  | sweep receiving limited =>
    rw [hkept] at limited
    cases limited
  | drop | fail | tell | stop | pick | spawn | submit | answer | close | finish => exact Or.inl rfl

/-! ## 5. Schedules -/

/-- **On every schedule every lane keeps to the sequential order**, by induction on the steps. -/
theorem sequential_of_reachable {ss : SessionTable} (hkept : p.idleTimeout? = none)
    (h : p.Reachable ss s) : s.Routed ∧ ∀ e, (s.lane e).Sequential p.elements ss e := by
  induction h with
  | refl =>
    refine ⟨fun i => ⟨fun d hd => ?_, fun m hm => ?_⟩, fun e => ⟨[], rfl, fun timed htimed => ?_⟩⟩
    · cases hd
    · cases hm
    · cases List.map_eq_nil_iff.mp htimed
      exact ⟨fun domain => rfl, rfl⟩
  | tail _ step ih =>
    obtain ⟨hrouted, hsequential⟩ := ih
    refine ⟨routed_step hrouted step, fun e => ?_⟩
    rcases lane_step hkept hrouted step e with hsame | hlane
    · rw [hsame]
      exact hsequential e
    · exact Lane.sequential_step (hsequential e) hlane

/-- **Every exporter is decoded in order, whatever the tasks do.**  Where no sessions are removed
for being idle, the messages of an exporter that have entered the queue are always, in order, the
first of those that decoding its accepted datagrams one after another yields, at whatever instants;
once the workers have nothing left they are all of them.  An IPv4 exporter is one and the same
whether its address comes plain or mapped into IPv6, for the choice of a worker and for its
sessions, and no other address is taken for it. -/
theorem entered_in_order (ss : SessionTable) (hkept : p.idleTimeout? = none)
    (h : p.Reachable ss s) :
    (∀ (e : Address) (timed : List (Nat × Datagram)),
      timed.map Prod.snd = s.accepted.filter (Datagram.isFrom e) →
      let reference := ss.messages p.elements (timed.map fun x => x.2.arrival x.1)
      s.entered.filter (Message.isFrom e) <+: reference ∧
        (s.Drained → s.entered.filter (Message.isFrom e) = reference)) ∧
    ∀ (o : Octets 4) (d : Datagram),
      (d.exporter = .v4 o ↔ d.peer.address = .v4 o ∨ d.peer.address = .v6 (Address.mapping o)) ∧
        (d.exporter = .v4 o → p.workerFor d = p.route (.v4 o) ∧
          ∀ now, d.arrival now = ⟨now, .v4 o, d.payload⟩) := by
  constructor
  · intro e timed htimed reference
    obtain ⟨decoded, haccepted, hdecoded⟩ := (sequential_of_reachable hkept h).2 e
    obtain ⟨before, rest, rfl, hbefore, hrest⟩ :=
      List.map_eq_append_iff.mp (htimed.trans haccepted)
    obtain ⟨-, hmessages⟩ := hdecoded before hbefore
    have hreference : reference
        = (s.lane e).entered ++ ((s.lane e).unsent ++ (ss.after p.elements
            (before.map fun x => x.2.arrival x.1)).messages p.elements
            (rest.map fun x => x.2.arrival x.1)) := by
      rw [← List.append_assoc, ← hmessages, ← SessionTable.messages_append, ← List.map_append]
    refine ⟨⟨_, hreference.symm⟩, fun hdrained => ?_⟩
    obtain ⟨hpending, hunsent⟩ := hdrained (p.route e)
    have hnext : (s.lane e).pending = [] := by rw [State.lane, hpending, List.filter_nil]
    have hsent : (s.lane e).unsent = [] := by rw [State.lane, hunsent, List.filter_nil]
    rw [hnext] at hrest
    cases List.map_eq_nil_iff.mp hrest
    rw [hreference, hsent]
    exact (List.append_nil _).symm
  · intro o d
    refine ⟨Address.canonical_eq_v4_iff, fun hown => ⟨congrArg p.route hown, fun now => ?_⟩⟩
    rw [Datagram.arrival, hown]

/-- An exporter announces a template from its plain address and sends a record of it from the mapped
one; in between another exporter announces another template under the same identifier. -/
theorem record_from_mapped_address :
    let o : Octets 4 := ⟨[192, 0, 2, 1], rfl⟩
    let plain : SocketAddress := ⟨.v4 o, 4000, 0⟩
    let mapped : SocketAddress := ⟨.v6 (Address.mapping o), 4001, 0⟩
    let other : SocketAddress := ⟨.v4 ⟨[192, 0, 2, 2], rfl⟩, 4000, 0⟩
    let announced : Builder := ({} : Builder).template 256 [⟨1, none, 1⟩]
    let elsewhere : Builder := ({} : Builder).template 256 [⟨1, none, 8⟩]
    let sent : Builder := ({} : Builder).data 256 [[7]]
    let settings : ListenerSettings := { workers := 2, sessionIdleTimeoutSecs := 0 }
    let route (e : Address) : Fin 2 := if e = .v4 o then 0 else 1
    let p := settings.pipeline .empty ⟨.v4 o, 4739, 0⟩ route
    ∃ s : State p, p.Reachable .empty s ∧ s.Drained ∧
      s.accepted
        = [⟨plain, announced.build⟩, ⟨other, elsewhere.build⟩, ⟨mapped, sent.build⟩] ∧
      (s.entered.filter (Message.isFrom (.v4 o))).map Message.templateId = [256] := by
  intro o plain mapped other announced elsewhere sent settings route p
  obtain ⟨s, hreachable, hdrained, -, haccepted, -, -⟩ := serve_schedule settings .empty p.address
    route (fun _ _ => .ok ()) 0
    [⟨plain, announced.build⟩, ⟨other, elsewhere.build⟩, ⟨mapped, sent.build⟩]
  refine ⟨s, hreachable, hdrained, haccepted, ?_⟩
  have hown : ([(0, ⟨plain, announced.build⟩), (1, ⟨mapped, sent.build⟩)] :
      List (Nat × Datagram)).map Prod.snd = s.accepted.filter (Datagram.isFrom (.v4 o)) := by
    rw [haccepted]
    rfl
  have hall : s.entered.filter (Message.isFrom (.v4 o))
      = SessionTable.messages .empty .empty
          [⟨0, .v4 o, announced.build⟩, ⟨1, .v4 o, sent.build⟩] :=
    ((entered_in_order .empty rfl hreachable).1 (.v4 o) _ hown).2 hdrained
  have hfirst := SessionTable.decode_of_framed .empty .empty 0 (.v4 o)
    (Builder.parse_build (b := announced) rfl (by decide)) (Builder.splitSets_build (by decide))
  have hsecond := fun ss => SessionTable.decode_of_framed .empty ss 1 (.v4 o)
    (Builder.parse_build (b := sent) rfl (by decide)) (Builder.splitSets_build (by decide))
  rw [hall, SessionTable.messages, SessionTable.outcomes_cons, hfirst, SessionTable.outcomes_cons,
    hsecond]
  rfl

end Pipeline

end FlowIntake
