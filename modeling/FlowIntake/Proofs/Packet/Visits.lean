/-
# Bindings over the packets of a session

A packet is read set by set under the bindings in force when each set is reached.  Here that is said
of the plain map of `Bindings`; `Session.decodeSets` is shown to do nothing else, and so are the
packets of any run.

* `Visit`: a set and the bindings under which it is read, with what it announces and reports;
* `Visit.report_cases`: what a set can report, and the messages that it has then;
* `Bindings.visits`: the sets of a packet that are read, up to one with a record that overruns;
* `Session.decodeSets_visits`: the sets of a packet are read in this way;
* `Session.finishes_eq_visits`: and that comes to an end when each of them does;
* `SessionTable.bindings_decode`: one packet changes the bindings of a key by what is announced;
* `SessionTable.bindings_of_arrivals`: whole runs, from no sessions at all.
-/
import FlowIntake.Proofs.Packet.Framing
import FlowIntake.Proofs.Packet.Records
import FlowIntake.Proofs.Session.Bindings

namespace FlowIntake

/-! ## 1. Sets under bindings -/

/-- A set of a packet, and the bindings in force when it is reached. -/
structure Visit where
  set : RawSet
  bindings : Bindings

namespace Visit

/-- The records of a template set, up to the first malformed one. -/
def announcements (elements : Registry) (v : Visit) : List Announcement :=
  match v.set.kind with
  | .template kind => (TemplateRecord.readAll kind elements v.set.body).1.map fun r => ⟨kind, r⟩
  | .data | .reserved => []

/-- The messages of a set, read with the template its identifier is bound to, and what is wrong
with it. -/
def report (elements : Registry) (c : MessageContext) (v : Visit) :
    List Message × Option SetIssue :=
  match v.set.kind with
  | .template kind =>
    ([], (TemplateRecord.readAll kind elements v.set.body).2.map (.malformedTemplate v.set.id))
  | .data =>
    match v.bindings v.set.id with
    | none => ([], some (.missingTemplate v.set.id))
    | some t =>
      let run := t.records v.set.body
      (c.messages t run.records, run.stop.map (.ofRecord v.set.id run.records.length))
  | .reserved => ([], some (.reservedSet v.set.id))

/-- Whether a record of a data set, read with the template its identifier is bound to, overruns
the set. -/
def overruns (v : Visit) : Bool :=
  v.set.kind = .data &&
    (v.bindings v.set.id).any fun t => (t.records v.set.body).stop.any fun e => e.IsOverrun

/-- Whether the records of the set, read with the template its identifier is bound to, come to an
end. -/
def finishes (v : Visit) : Bool :=
  match v.set.kind, v.bindings v.set.id with
  | .data, some t => (t.records? (v.set.body.length + 1) v.set.body).isSome
  | _, _ => true

/-- What the set yields. -/
noncomputable def yield (elements : Registry) (c : MessageContext) (v : Visit) : SetYield where
  messages := (v.report elements c).1
  changes := v.bindings.changes (v.announcements elements)
  issue := (v.report elements c).2

/-- What a template set announces is what it falls into. -/
theorem announcements_of_kind (elements : Registry) {v : Visit} {kind : TemplateKind}
    (h : v.set.kind = .template kind) :
    ∃ rs stop, TemplateRun kind elements (Cursor.ofBytes v.set.body) rs stop ∧
      v.announcements elements = rs.map (fun r => ⟨kind, r⟩) :=
  ⟨_, _, TemplateRecord.templateRun_readAll kind elements v.set.body, by rw [announcements, h]⟩

/-- **What a set can report**, and the messages that it has then. -/
theorem report_cases {elements : Registry} {c : MessageContext} {v : Visit} {i : SetIssue}
    (h : (v.report elements c).2 = some i) :
    (∃ kind e, v.set.kind = .template kind ∧ i = .malformedTemplate v.set.id e ∧
      (v.report elements c).1 = []) ∨
    (v.set.kind = .reserved ∧ i = .reservedSet v.set.id ∧ (v.report elements c).1 = []) ∨
    (v.set.kind = .data ∧ v.bindings v.set.id = none ∧ i = .missingTemplate v.set.id ∧
      (v.report elements c).1 = []) ∨
    ∃ t e, v.set.kind = .data ∧ v.bindings v.set.id = some t ∧
      (t.records v.set.body).stop = some e ∧
      i = .ofRecord v.set.id (t.records v.set.body).records.length e ∧
      (v.report elements c).1 = (t.records v.set.body).records.map (c.message t) := by
  unfold report at h ⊢
  cases hkind : v.set.kind with
  | template kind =>
    simp only [hkind] at h
    obtain ⟨e, -, rfl⟩ := Option.map_eq_some_iff.mp h
    exact Or.inl ⟨kind, e, rfl, rfl, rfl⟩
  | reserved =>
    simp only [hkind] at h
    exact Or.inr (Or.inl ⟨rfl, (Option.some.inj h).symm, rfl⟩)
  | data =>
    simp only [hkind] at h
    cases hbound : v.bindings v.set.id with
    | none =>
      simp only [hbound] at h
      exact Or.inr (Or.inr (Or.inl ⟨rfl, rfl, (Option.some.inj h).symm, rfl⟩))
    | some t =>
      simp only [hbound] at h
      obtain ⟨e, hstop, hi⟩ := Option.map_eq_some_iff.mp h
      exact Or.inr (Or.inr (Or.inr ⟨t, e, rfl, rfl, hstop, hi.symm, c.messages_eq t _⟩))

/-- An issue names its set. -/
theorem setId?_of_report {elements : Registry} {c : MessageContext} {v : Visit} {i : SetIssue}
    (h : (v.report elements c).2 = some i) : i.setId? = some v.set.id := by
  obtain ⟨_, _, -, rfl, -⟩ | ⟨-, rfl, -⟩ | ⟨-, -, rfl, -⟩ | ⟨t, e, -, -, -, rfl, -⟩ :=
    report_cases h
  · rfl
  · rfl
  · rfl
  · rcases SetIssue.ofRecord_cases v.set.id (t.records v.set.body).records.length e with hi | hi <;>
      rw [hi] <;> rfl

/-- A set aborts its packet when a record of it overruns. -/
theorem aborts_iff (elements : Registry) (c : MessageContext) (v : Visit) :
    (∃ i, (v.report elements c).2 = some i ∧ i.AbortsPacket) ↔ v.overruns = true := by
  unfold report overruns
  cases hkind : v.set.kind with
  | template kind =>
    constructor
    · rintro ⟨i, hi, habort⟩
      obtain ⟨e, -, rfl⟩ := Option.map_eq_some_iff.mp hi
      exact absurd habort id
    · intro h
      simp at h
  | reserved =>
    constructor
    · rintro ⟨i, hi, habort⟩
      cases hi
      exact absurd habort id
    · intro h
      simp at h
  | data =>
    cases hbound : v.bindings v.set.id with
    | none =>
      constructor
      · rintro ⟨i, hi, habort⟩
        cases hi
        exact absurd habort id
      · intro h
        simp at h
    | some t =>
      cases hstop : (t.records v.set.body).stop with
      | none => simp [hstop]
      | some e =>
        by_cases he : e.IsOverrun <;> simp [hstop, he, SetIssue.ofRecord, SetIssue.AbortsPacket]

end Visit

namespace Bindings

/-- The sets of a packet that are read, each under the bindings that those before it leave, up to
one with a record that overruns. -/
def visits (elements : Registry) : Bindings → List RawSet → List Visit
  | _, [] => []
  | b, set :: sets =>
    let v : Visit := ⟨set, b⟩
    if v.overruns then [v] else v :: visits elements (b.fold (v.announcements elements)) sets

/-- The template records of a packet, in the order in which they stand. -/
def announced (elements : Registry) (b : Bindings) (sets : List RawSet) : List Announcement :=
  (b.visits elements sets).flatMap (Visit.announcements elements)

theorem visits_overruns (elements : Registry) {b : Bindings} {set : RawSet}
    (h : (Visit.mk set b).overruns = true) (sets : List RawSet) :
    b.visits elements (set :: sets) = [⟨set, b⟩] := if_pos h

theorem visits_cons (elements : Registry) {b : Bindings} {set : RawSet}
    (h : ¬(Visit.mk set b).overruns = true) (sets : List RawSet) :
    b.visits elements (set :: sets)
      = ⟨set, b⟩ :: (b.fold ((Visit.mk set b).announcements elements)).visits elements sets :=
  if_neg h

/-- The first set of a packet is read in any case. -/
theorem mem_visits_cons (elements : Registry) (b : Bindings) (set : RawSet) (sets : List RawSet) :
    ⟨set, b⟩ ∈ b.visits elements (set :: sets) := by
  by_cases h : (Visit.mk set b).overruns = true
  · rw [visits_overruns elements h]
    exact List.mem_cons_self
  · rw [visits_cons elements h]
    exact List.mem_cons_self

/-- The only set of a packet is read, whatever is in it. -/
theorem visits_singleton (elements : Registry) (b : Bindings) (set : RawSet) :
    b.visits elements [set] = [⟨set, b⟩] := by
  by_cases h : (Visit.mk set b).overruns = true
  · exact visits_overruns elements h []
  · exact visits_cons elements h []

theorem announced_cons (elements : Registry) {b : Bindings} {set : RawSet}
    (h : ¬(Visit.mk set b).overruns = true) (sets : List RawSet) :
    b.announced elements (set :: sets)
      = (Visit.mk set b).announcements elements
        ++ (b.fold ((Visit.mk set b).announcements elements)).announced elements sets := by
  rw [announced, visits_cons elements h, List.flatMap_cons]
  rfl

/-- Sets of which none overruns are followed by the others, under the bindings that they leave. -/
theorem visits_append (elements : Registry) {b : Bindings} {sets : List RawSet}
    (h : ∀ v ∈ b.visits elements sets, ¬v.overruns = true) (later : List RawSet) :
    b.visits elements (sets ++ later)
      = b.visits elements sets ++ (b.fold (b.announced elements sets)).visits elements later := by
  induction sets generalizing b with
  | nil => rfl
  | cons set sets ih =>
    by_cases hover : (Visit.mk set b).overruns = true
    · rw [visits_overruns elements hover] at h
      exact absurd hover (h _ (List.mem_singleton_self _))
    · rw [visits_cons elements hover] at h ⊢
      rw [List.cons_append, visits_cons elements hover,
        ih fun v hv => h v (List.mem_cons_of_mem _ hv), announced_cons elements hover, fold_append,
        List.cons_append]

theorem announced_append (elements : Registry) {b : Bindings} {sets : List RawSet}
    (h : ∀ v ∈ b.visits elements sets, ¬v.overruns = true) (later : List RawSet) :
    b.announced elements (sets ++ later)
      = b.announced elements sets
        ++ (b.fold (b.announced elements sets)).announced elements later := by
  rw [announced, visits_append elements h, List.flatMap_append]
  rfl

/-- After a set that overruns nothing is read. -/
theorem visits_append_of_overruns (elements : Registry) {b : Bindings} {sets : List RawSet}
    {v : Visit} (hv : v ∈ b.visits elements sets) (h : v.overruns = true) (later : List RawSet) :
    b.visits elements (sets ++ later) = b.visits elements sets := by
  induction sets generalizing b with
  | nil => cases hv
  | cons set sets ih =>
    by_cases hover : (Visit.mk set b).overruns = true
    · rw [List.cons_append, visits_overruns elements hover, visits_overruns elements hover]
    · rw [visits_cons elements hover] at hv
      rcases List.mem_cons.mp hv with rfl | hlater
      · exact absurd h hover
      · rw [List.cons_append, visits_cons elements hover, visits_cons elements hover, ih hlater]

/-- The changes of the sets of a packet add up to those of all its records. -/
theorem foldl_changes (elements : Registry) (b : Bindings) (sets : List RawSet)
    (n : TemplateChanges) :
    ((b.visits elements sets).map fun v => v.bindings.changes (v.announcements elements)).foldl
        (· + ·) n
      = n + b.changes (b.announced elements sets) := by
  induction sets generalizing b n with
  | nil => exact TemplateChanges.ext rfl rfl
  | cons set sets ih =>
    by_cases h : (Visit.mk set b).overruns = true
    · rw [announced, visits_overruns elements h, List.flatMap_singleton, List.map_singleton,
        List.foldl_cons, List.foldl_nil]
    · rw [announced_cons elements h, visits_cons elements h, changes_append,
        ← TemplateChanges.add_assoc, List.map_cons, List.foldl_cons, ih]

end Bindings

/-! ## 2. Packets -/

namespace Session

/-- **A set is read under the templates of its session.** -/
theorem decodeSet_yield (elements : Registry) (h : Header) (s : Session) (set : RawSet) :
    (s.decodeSet elements h set).2 = (Visit.mk set s.bindings).yield elements (s.context h) := by
  unfold decodeSet Visit.yield Visit.report Visit.announcements
  cases hkind : set.kind with
  | template kind => simp only [changes_applyAll]
  | reserved => rfl
  | data =>
    have hbound : s.bindings set.id = s.template? set.id := rfl
    simp only [hbound]
    cases s.template? set.id <;> rfl

/-- A set ends its packet when a record of it overruns. -/
theorem decodeSet_aborts_iff (elements : Registry) (h : Header) (s : Session) (set : RawSet) :
    (∃ i, (s.decodeSet elements h set).2.issue = some i ∧ i.AbortsPacket)
      ↔ (Visit.mk set s.bindings).overruns = true := by
  rw [decodeSet_yield]
  exact Visit.aborts_iff elements (s.context h) _

/-- **What a set announces is done to the templates of its session.** -/
theorem bindings_decodeSet (elements : Registry) (h : Header) (s : Session) (set : RawSet) :
    (s.decodeSet elements h set).1.bindings
      = s.bindings.fold ((Visit.mk set s.bindings).announcements elements) := by
  unfold decodeSet Visit.announcements
  cases hkind : set.kind with
  | template kind => exact bindings_applyAll kind s _
  | reserved => rfl
  | data => cases s.template? set.id <;> rfl

theorem context_decodeSet (elements : Registry) (h : Header) (s : Session) (set : RawSet) :
    (s.decodeSet elements h set).1.context h = s.context h := by
  obtain ⟨table, htable⟩ := decodeSet_frame elements h s set
  rw [htable]
  rfl

/-- **The sets of a packet are read one after another under the bindings in force**, and what they
announce is done to the templates, by induction on the sets. -/
theorem decodeSets_visits (elements : Registry) (h : Header) (s : Session) (sets : List RawSet) :
    (s.decodeSets elements h sets).2
        = (s.bindings.visits elements sets).map (Visit.yield elements (s.context h)) ∧
      (s.decodeSets elements h sets).1.bindings
        = s.bindings.fold (s.bindings.announced elements sets) := by
  induction sets generalizing s with
  | nil => exact ⟨rfl, rfl⟩
  | cons set sets ih =>
    have hyield := decodeSet_yield elements h s set
    have hbindings := bindings_decodeSet elements h s set
    by_cases hover : (Visit.mk set s.bindings).overruns = true
    · obtain ⟨i, hissue, habort⟩ := (decodeSet_aborts_iff elements h s set).mpr hover
      rw [decodeSets_cons_abort hissue habort, Bindings.announced,
        Bindings.visits_overruns elements hover, List.flatMap_singleton, List.map_singleton]
      exact ⟨congrArg List.singleton hyield, hbindings⟩
    · have hgo : ∀ i, (s.decodeSet elements h set).2.issue = some i → ¬i.AbortsPacket :=
        fun i hi habort => hover ((decodeSet_aborts_iff elements h s set).mp ⟨i, hi, habort⟩)
      obtain ⟨hyields, hlast⟩ := ih (s.decodeSet elements h set).1
      rw [context_decodeSet, hbindings] at hyields
      rw [hbindings] at hlast
      rw [decodeSets_cons hgo, Bindings.announced_cons elements hover,
        Bindings.visits_cons elements hover, List.map_cons, Bindings.fold_append]
      exact ⟨congrArg₂ List.cons hyield hyields, hlast⟩

/-- **Reading the sets of a packet comes to an end when each of those that are read does**, by
induction on the sets. -/
theorem finishes_eq_visits (elements : Registry) (h : Header) (s : Session) (sets : List RawSet) :
    s.finishes elements h sets = (s.bindings.visits elements sets).all Visit.finishes := by
  induction sets generalizing s with
  | nil => rfl
  | cons set sets ih =>
    have hset : s.finishesSet set = (Visit.mk set s.bindings).finishes := rfl
    by_cases hover : (Visit.mk set s.bindings).overruns = true
    · obtain ⟨i, hissue, habort⟩ := (decodeSet_aborts_iff elements h s set).mpr hover
      rw [finishes_cons_abort hissue habort, Bindings.visits_overruns elements hover, hset,
        List.all_cons, List.all_nil, Bool.and_true]
    · have hgo : ∀ i, (s.decodeSet elements h set).2.issue = some i → ¬i.AbortsPacket :=
        fun i hi habort => hover ((decodeSet_aborts_iff elements h s set).mp ⟨i, hi, habort⟩)
      rw [finishes_cons hgo, ih, bindings_decodeSet, Bindings.visits_cons elements hover, hset,
        List.all_cons]

/-- **A packet changes the bindings of its session by what it announces.** -/
theorem bindings_receive (elements : Registry) (h : Header) (s : Session) (sets : List RawSet) :
    (s.receive elements h sets).1.bindings
      = s.bindings.fold (s.bindings.announced elements sets) := by
  rw [← (decodeSets_visits elements h s sets).2, receive_eq]
  funext id
  simp only [bindings, template?, templates_settle]

end Session

/-- What a packet with this context reports is what its sets say under the bindings in force, and
the changes of templates it counts are those of all its template records. -/
structure DecodedPacket.Follows (elements : Registry) (c : MessageContext) (b : Bindings)
    (sets : List RawSet) (p : DecodedPacket) : Prop where
  messages : p.messages = (b.visits elements sets).flatMap fun v => (v.report elements c).1
  issues : ∃ gaps, (∀ i ∈ gaps, ∃ expected received, i = SetIssue.sequenceGap expected received) ∧
    p.issues = gaps ++ (b.visits elements sets).filterMap fun v => (v.report elements c).2
  installed : p.changes.installed = (b.announced elements sets).countP Announcement.isDefinition
  withdrawn : p.changes.withdrawn = b.removed (b.announced elements sets)

/-- What a set reports is an issue of its packet. -/
theorem DecodedPacket.Follows.mem_issues {elements : Registry} {c : MessageContext} {b : Bindings}
    {sets : List RawSet} {p : DecodedPacket} (h : p.Follows elements c b sets) {v : Visit}
    (hv : v ∈ b.visits elements sets) {i : SetIssue} (hi : (v.report elements c).2 = some i) :
    i ∈ p.issues := by
  obtain ⟨gaps, -, hissues⟩ := h.issues
  rw [hissues]
  exact List.mem_append_right _ (List.mem_filterMap.mpr ⟨v, hv, hi⟩)

theorem Session.follows_receive (elements : Registry) (h : Header) (s : Session)
    (sets : List RawSet) :
    (s.receive elements h sets).2.Follows elements (s.context h) s.bindings sets := by
  obtain ⟨hyields, -⟩ := decodeSets_visits elements h s sets
  have hchanges := Bindings.foldl_changes elements s.bindings sets .none
  rw [TemplateChanges.none_add] at hchanges
  rw [receive_eq, produced, hyields, DecodedPacket.ofYields]
  simp only [List.flatMap_map, List.filterMap_map, List.map_map]
  refine ⟨rfl, ⟨s.sequenceIssues h.sequence, ?_, rfl⟩, ?_, ?_⟩
  · intro i hi
    obtain ⟨expected, -, rfl⟩ := List.mem_map.mp hi
    exact ⟨expected, h.sequence, rfl⟩
  · exact congrArg TemplateChanges.installed hchanges
  · exact congrArg TemplateChanges.withdrawn hchanges

/-! ## 3. Runs -/

/-- A packet, and when and from where it comes. -/
structure Arrival where
  now : Nat
  exporter : Address
  packet : Bytes

/-- The sets of a packet for the session of a key: none when the packet has a fault or is for
another session. -/
def Arrival.setsFor (a : Arrival) (K : SessionKey) : List RawSet :=
  match Header.parse a.packet with
  | .error _ => []
  | .ok h =>
    match splitSets h a.packet with
    | .error _ => []
    | .ok sets => if K = ⟨a.exporter, h.domain⟩ then sets else []

/-- The bindings of a key after packets have come one after another. -/
def Bindings.ofArrivals (elements : Registry) (K : SessionKey) (arrivals : List Arrival) :
    Bindings :=
  arrivals.foldl (fun b a => b.fold (b.announced elements (a.setsFor K))) .empty

namespace SessionTable

/-- The sessions after packets have come one after another, from none at all. -/
def ofArrivals (elements : Registry) (arrivals : List Arrival) : SessionTable :=
  arrivals.foldl (fun ss a => (ss.decode elements a.now a.exporter a.packet).1) .empty

/-- The templates under a key as a map. -/
def bindings (ss : SessionTable) (K : SessionKey) : Bindings := ss.template? K

/-- How many templates are installed under a key. -/
def templateCount (ss : SessionTable) (K : SessionKey) : Nat :=
  ((ss.get? K).map Session.templateCount).getD 0

theorem size_bindings (ss : SessionTable) (K : SessionKey) :
    (ss.bindings K).size = ss.templateCount K := by
  unfold bindings template? templateCount
  cases ss.get? K with
  | none => exact Keyed.ncard_get? (Keyed.empty : TemplateTable)
  | some s => exact s.size_bindings

/-- The session under a key has the bindings of the key, also when it begins now. -/
theorem bindings_session (ss : SessionTable) (now : Nat) (K : SessionKey) :
    (ss.session now K).bindings = ss.bindings K := by
  unfold session bindings template?
  cases ss.get? K <;> rfl

theorem bindings_insert (ss : SessionTable) {s : Session} {K : SessionKey} (h : s.key = K) :
    bindings (ss.insert s) K = s.bindings := by
  funext id
  rw [bindings, template?, Keyed.get?_insert, if_pos h]
  rfl

theorem bindings_insert_of_ne (ss : SessionTable) {s : Session} {K : SessionKey} (h : s.key ≠ K) :
    bindings (ss.insert s) K = ss.bindings K := by
  funext id
  rw [bindings, template?, Keyed.get?_insert, if_neg h]
  rfl

/-- **A packet changes the bindings of every key by what it announces for it.** -/
theorem bindings_decode (elements : Registry) (ss : SessionTable) (K : SessionKey) (a : Arrival) :
    bindings (ss.decode elements a.now a.exporter a.packet).1 K
      = (ss.bindings K).fold ((ss.bindings K).announced elements (a.setsFor K)) := by
  unfold Arrival.setsFor
  cases hparse : Header.parse a.packet with
  | error e =>
    rw [decode, hparse]
    rfl
  | ok h =>
    cases hsplit : splitSets h a.packet with
    | error e =>
      rw [decode, hparse]
      simp only [hsplit]
      rfl
    | ok sets =>
      rw [decode_of_framed elements ss a.now a.exporter hparse hsplit]
      have hsaved := key_received elements ss a.now ⟨a.exporter, h.domain⟩ h sets
      by_cases hkey : K = ⟨a.exporter, h.domain⟩
      · simp only [hsplit, if_pos hkey]
        rw [hkey, bindings_insert ss hsaved, Session.bindings_receive,
          ← bindings_session ss a.now ⟨a.exporter, h.domain⟩]
        rfl
      · simp only [hsplit, if_neg hkey]
        exact bindings_insert_of_ne ss fun heq => hkey (heq.symm.trans hsaved)

/-- **The bindings of a key are those that all packets that have come for it announce**, by
induction on the packets. -/
theorem bindings_ofArrivals (elements : Registry) (K : SessionKey) (arrivals : List Arrival) :
    (ofArrivals elements arrivals).bindings K = .ofArrivals elements K arrivals := by
  -- from any sessions, so that the first packet can be taken off
  have hrun : ∀ ss : SessionTable,
      bindings (arrivals.foldl
          (fun ss a => (ss.decode elements a.now a.exporter a.packet).1) ss) K
        = arrivals.foldl (fun b a => b.fold (b.announced elements (a.setsFor K)))
            (ss.bindings K) := by
    induction arrivals with
    | nil => exact fun ss => rfl
    | cons a arrivals ih =>
      intro ss
      rw [List.foldl_cons, List.foldl_cons, ih, bindings_decode]
  exact hrun .empty

/-- **The templates of a session are those that its packets announce, the last to write an
identifier winning.**  After any packets whatsoever they are the map of all template records for
its key, and so they are after the next packet; that packet reports what its sets say under the
bindings in force when each is reached, and counts the definitions it holds and the bindings it
takes away, which account for the change of the number of templates.  A template set announces
its records up to the first malformed one. -/
theorem templates_of_arrivals (elements : Registry) (K : SessionKey) (arrivals : List Arrival) :
    let ss := ofArrivals elements arrivals
    let b := Bindings.ofArrivals elements K arrivals
    ss.bindings K = b ∧
      ∀ (a : Arrival) (h : Header) (sets : List RawSet), Header.parse a.packet = .ok h →
        splitSets h a.packet = .ok sets → K = ⟨a.exporter, h.domain⟩ →
        ∃ ss' p, ss.decode elements a.now a.exporter a.packet = (ss', .ok p) ∧
          ss'.bindings K = b.fold (b.announced elements sets) ∧
          p.Follows elements ⟨K.exporter, h.domain, h.exportTime, h.sequence⟩ b sets ∧
          ((ss'.templateCount K : Int) - ss.templateCount K
            = b.fresh (b.announced elements sets) - p.changes.withdrawn) ∧
          ∀ v ∈ b.visits elements sets, ∀ kind, v.set.kind = .template kind →
            ∃ rs stop, TemplateRun kind elements (Cursor.ofBytes v.set.body) rs stop ∧
              v.announcements elements = rs.map fun r => ⟨kind, r⟩ := by
  intro ss b
  have hbindings : ss.bindings K = b := bindings_ofArrivals elements K arrivals
  refine ⟨hbindings, ?_⟩
  intro a h sets hparse hsplit hkey
  have hdecode := decode_of_framed elements ss a.now a.exporter hparse hsplit
  have hafter := bindings_decode elements ss K a
  have hsets : a.setsFor K = sets := by
    simp only [Arrival.setsFor, hparse, hsplit, if_pos hkey]
  rw [hsets, hbindings, hdecode] at hafter
  dsimp only at hafter
  have hfollows := Session.follows_receive elements h
    ((ss.session a.now ⟨a.exporter, h.domain⟩).touch a.now) sets
  have hcontext : ((ss.session a.now ⟨a.exporter, h.domain⟩).touch a.now).context h
      = ⟨K.exporter, h.domain, h.exportTime, h.sequence⟩ := by
    rw [hkey, Session.context]
    simp only [Session.touch, key_session]
  have hunder : ((ss.session a.now ⟨a.exporter, h.domain⟩).touch a.now).bindings = b := by
    rw [← hbindings, hkey, ← bindings_session ss a.now]
    rfl
  rw [hcontext, hunder] at hfollows
  refine ⟨_, _, hdecode, hafter, hfollows, ?_, fun v _ kind hkind => ?_⟩
  · have hsize := Bindings.size_fold b (b.announced elements sets)
    rw [← hafter, size_bindings, ← hbindings, size_bindings, hbindings,
      ← hfollows.withdrawn] at hsize
    omega
  · exact Visit.announcements_of_kind elements hkind

/-- Two templates and the withdrawal of all data templates, in one packet. -/
theorem options_template_stays :
    let K : SessionKey := ⟨.v4 ⟨[192, 0, 2, 1], rfl⟩, 0⟩
    let both : Builder :=
      (({} : Builder).template 256 [⟨1, none, 8⟩]).optionsTemplate 257 1 [⟨10, none, 4⟩]
    let announced : Builder := both.withdrawal 2 2
    ∃ ss' p, decode .empty .empty 0 K.exporter announced.build = (ss', .ok p) ∧
      p.changes.installed = 2 ∧ ss'.template? K 256 = none ∧ (ss'.template? K 257).isSome := by
  intro K both announced
  have hlength : announced.build.length ≤ 65535 := by decide
  obtain ⟨-, hnext⟩ := templates_of_arrivals .empty K []
  obtain ⟨ss', p, hdecode, hbindings, hfollows, -⟩ := hnext ⟨0, K.exporter, announced.build⟩ _ _
    (Builder.parse_build rfl hlength) (Builder.splitSets_build hlength) rfl
  refine ⟨ss', p, hdecode, hfollows.installed.trans (by decide), ?_, ?_⟩
  · exact (congrFun hbindings 256).trans (by decide)
  · exact (congrArg Option.isSome (congrFun hbindings 257)).trans (by decide)

end SessionTable

end FlowIntake
