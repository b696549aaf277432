/-
# Sequence numbers over whole runs

Whether a packet shows a gap depends on all that came before it for its session; here that is said
of the packets and what they produced, without the number that the session keeps.

* `SessionTable.outcomes`, `SessionTable.accepted`: what a run makes of its packets, and those it
  accepts for one key;
* `DecodedPacket.next?`: the sequence number that should follow a packet;
* `SessionTable.expected_ofArrivals`: a session expects what should follow its latest packet;
* `Renumbered`, `DecodedPacket.unnumbered`: packets that differ in their sequence numbers alone, and
  what is left of a packet without them;
* `SessionTable.outcomes_renumbered`: nothing else depends on the numbers;
* `SessionTable.gaps_of_arrivals`: the two together.
-/
import FlowIntake.Proofs.Packet.Visits

namespace FlowIntake

/-! ## 1. What should follow a packet -/

/-- Whether the issue is a gap in the sequence numbers. -/
def SetIssue.isGap : SetIssue → Bool
  | .sequenceGap .. => true
  | _ => false

/-- The sequence number that should follow a packet: its own and one for each message, unless
records were lost. -/
def DecodedPacket.next? (p : DecodedPacket) : Option UInt32 :=
  if ∃ i ∈ p.issues, i.LosesRecords then none
  else some (p.header.sequence + UInt32.ofNat p.messages.length)

theorem DecodedPacket.next?_eq_some_iff {p : DecodedPacket} {n : UInt32} :
    p.next? = some n ↔ (∀ i ∈ p.issues, ¬i.LosesRecords) ∧
      n.toNat = (p.header.sequence.toNat + p.messages.length) % 4294967296 := by
  have hsum : (p.header.sequence + UInt32.ofNat p.messages.length).toNat
      = (p.header.sequence.toNat + p.messages.length) % 4294967296 := by
    rw [UInt32.toNat_add, UInt32.toNat_ofNat']
    omega
  rw [← hsum, UInt32.toNat_inj, next?]
  by_cases h : ∃ i ∈ p.issues, i.LosesRecords
  · rw [if_pos h]
    obtain ⟨i, hi, hloses⟩ := h
    constructor
    · intro hnone
      cases hnone
    · rintro ⟨hnone, -⟩
      exact absurd hloses (hnone i hi)
  · rw [if_neg h, Option.some_inj]
    constructor
    · rintro rfl
      exact ⟨fun i hi hloses => h ⟨i, hi, hloses⟩, rfl⟩
    · rintro ⟨-, hn⟩
      exact hn.symm

namespace Session

theorem expected_settle (s : Session) (p : DecodedPacket) : (s.settle p).expected = p.next? := by
  have hany : (p.issues.any fun i => i.LosesRecords) = true ↔ ∃ i ∈ p.issues, i.LosesRecords := by
    simp only [List.any_eq_true, decide_eq_true_eq]
  unfold settle DecodedPacket.next?
  by_cases h : ∃ i ∈ p.issues, i.LosesRecords
  · rw [if_pos (hany.mpr h), if_pos h]
    rfl
  · rw [if_neg (mt hany.mp h), if_neg h]
    rfl

/-- At most one gap is before a packet. -/
theorem length_sequenceIssues_le (s : Session) (received : UInt32) :
    (s.sequenceIssues received).length ≤ 1 := by
  rw [sequenceIssues, List.length_map]
  cases s.gap? received <;> simp

theorem isGap_of_mem_sequenceIssues {s : Session} {received : UInt32} {i : SetIssue}
    (hi : i ∈ s.sequenceIssues received) : i.isGap = true := by
  obtain ⟨expected, -, rfl⟩ := List.mem_map.mp hi
  rfl

/-- No set reports a gap. -/
theorem not_isGap_of_report {elements : Registry} {c : MessageContext} {v : Visit} {i : SetIssue}
    (h : (v.report elements c).2 = some i) : i.isGap = false := by
  have hset := Visit.setId?_of_report h
  cases i <;> first | rfl | cases hset

/-- The issues of a packet: the gap before it, and what its sets report. -/
theorem issues_produced (elements : Registry) (h : Header) (s : Session) (sets : List RawSet) :
    (s.produced elements h sets).issues
      = s.sequenceIssues h.sequence ++ (s.bindings.visits elements sets).filterMap fun v =>
          (v.report elements (s.context h)).2 := by
  rw [produced, (decodeSets_visits elements h s sets).1, DecodedPacket.ofYields]
  simp only [List.filterMap_map]
  rfl

theorem not_isGap_of_mem_reports {elements : Registry} {c : MessageContext} {vs : List Visit}
    {i : SetIssue} (h : i ∈ vs.filterMap fun v => (v.report elements c).2) : i.isGap = false := by
  obtain ⟨v, -, hv⟩ := List.mem_filterMap.mp h
  exact not_isGap_of_report hv

/-- **A packet shows a gap when its session expects another number**, and then that one. -/
theorem gap_mem_produced_iff (elements : Registry) (h : Header) (s : Session) (sets : List RawSet)
    {expected received : UInt32} :
    .sequenceGap expected received ∈ (s.produced elements h sets).issues ↔
      s.expected = some expected ∧ received = h.sequence ∧ expected ≠ h.sequence := by
  have hnone : ¬SetIssue.sequenceGap expected received ∈
      (s.bindings.visits elements sets).filterMap fun v => (v.report elements (s.context h)).2 :=
    fun hmem => Bool.noConfusion (not_isGap_of_mem_reports hmem)
  rw [issues_produced, List.mem_append, or_iff_left hnone, sequenceIssues, gap?]
  simp only [List.mem_map, Option.mem_toList, Option.filter_eq_some_iff, decide_eq_true_eq,
    SetIssue.sequenceGap.injEq]
  constructor
  · rintro ⟨n, ⟨hn, hne⟩, rfl, rfl⟩
    exact ⟨hn, rfl, hne⟩
  · rintro ⟨hn, rfl, hne⟩
    exact ⟨expected, ⟨hn, hne⟩, rfl, rfl⟩

/-- **A gap stands before all other issues of its packet**, and there is at most one. -/
theorem gap_first (elements : Registry) (h : Header) (s : Session) (sets : List RawSet) {k : Nat}
    {i : SetIssue} (hk : (s.produced elements h sets).issues[k]? = some i)
    (hgap : i.isGap = true) : k = 0 := by
  have hlen := length_sequenceIssues_le s h.sequence
  rw [issues_produced] at hk
  by_cases hlt : k < (s.sequenceIssues h.sequence).length
  · omega
  · rw [List.getElem?_append_right (Nat.not_lt.mp hlt)] at hk
    have hno := not_isGap_of_mem_reports (List.mem_of_getElem? hk)
    rw [hgap] at hno
    cases hno

end Session

/-! ## 2. Runs -/

namespace SessionTable

/-- The sequence number that the next packet for a key should carry. -/
def expected (ss : SessionTable) (K : SessionKey) : Option UInt32 :=
  (ss.get? K).bind Session.expected

/-- The sessions after packets have come one after another. -/
def after (elements : Registry) (ss : SessionTable) (arrivals : List Arrival) : SessionTable :=
  arrivals.foldl (fun ss a => (ss.decode elements a.now a.exporter a.packet).1) ss

/-- Packets one after another, each with what comes of it. -/
def outcomes (elements : Registry) (ss : SessionTable) :
    List Arrival → List (Arrival × Except PacketError DecodedPacket)
  | [] => []
  | a :: arrivals =>
    let (ss, result) := ss.decode elements a.now a.exporter a.packet
    (a, result) :: outcomes elements ss arrivals

/-- The packet, when it is well-framed and for the session of a key. -/
def acceptedFor (K : SessionKey) (x : Arrival × Except PacketError DecodedPacket) :
    Option DecodedPacket :=
  match x.2 with
  | .ok p => if K = ⟨x.1.exporter, p.header.domain⟩ then some p else none
  | .error _ => none

/-- The packets that are accepted for a key when packets come one after another, from no sessions
at all. -/
def accepted (elements : Registry) (K : SessionKey) (arrivals : List Arrival) :
    List DecodedPacket :=
  (outcomes elements .empty arrivals).filterMap (acceptedFor K)

theorem expected_session (ss : SessionTable) (now : Nat) (K : SessionKey) :
    (ss.session now K).expected = ss.expected K := by
  unfold session expected
  cases ss.get? K <;> rfl

/-- **A key expects what should follow the packet just accepted for it**, and any other packet
leaves what it expects. -/
theorem expected_decode (elements : Registry) (ss : SessionTable) (K : SessionKey) (a : Arrival) :
    (ss.decode elements a.now a.exporter a.packet).1.expected K
      = match acceptedFor K (a, (ss.decode elements a.now a.exporter a.packet).2) with
        | some p => p.next?
        | none => ss.expected K := by
  rcases decode_cases a.packet with ⟨e, hfault⟩ | ⟨h, sets, hparse, hsplit⟩
  · rw [(hfault _ _ _ _).1]
    rfl
  · rw [decode_of_framed elements ss a.now a.exporter hparse hsplit]
    have hkept := key_received elements ss a.now ⟨a.exporter, h.domain⟩ h sets
    by_cases hkey : K = ⟨a.exporter, h.domain⟩
    · have hfor : acceptedFor K (a, .ok (((ss.session a.now ⟨a.exporter, h.domain⟩).touch
          a.now).receive elements h sets).2) = some _ := if_pos hkey
      rw [hfor, expected, Keyed.get?_insert, if_pos (hkept.trans hkey.symm)]
      exact Session.expected_settle _ _
    · have hfor : acceptedFor K (a, .ok (((ss.session a.now ⟨a.exporter, h.domain⟩).touch
          a.now).receive elements h sets).2) = none := if_neg hkey
      rw [hfor, expected, Keyed.get?_insert, if_neg fun heq => hkey (heq.symm.trans hkept)]
      rfl

theorem after_cons (elements : Registry) (ss : SessionTable) (a : Arrival)
    (arrivals : List Arrival) :
    ss.after elements (a :: arrivals)
      = (ss.decode elements a.now a.exporter a.packet).1.after elements arrivals := rfl

theorem after_append (elements : Registry) (ss : SessionTable) (arrivals later : List Arrival) :
    ss.after elements (arrivals ++ later)
      = (ss.after elements arrivals).after elements later := List.foldl_append

theorem ofArrivals_eq (elements : Registry) (arrivals : List Arrival) :
    ofArrivals elements arrivals = after elements .empty arrivals := rfl

theorem outcomes_cons (elements : Registry) (ss : SessionTable) (a : Arrival)
    (arrivals : List Arrival) :
    ss.outcomes elements (a :: arrivals)
      = (a, (ss.decode elements a.now a.exporter a.packet).2) ::
          (ss.decode elements a.now a.exporter a.packet).1.outcomes elements arrivals := rfl

/-- Later packets find the sessions that the earlier ones leave. -/
theorem outcomes_append (elements : Registry) (ss : SessionTable) (arrivals later : List Arrival) :
    ss.outcomes elements (arrivals ++ later)
      = ss.outcomes elements arrivals ++ (ss.after elements arrivals).outcomes elements later := by
  induction arrivals generalizing ss with
  | nil => rfl
  | cons a arrivals ih =>
    rw [List.cons_append, outcomes_cons, outcomes_cons, ih, after_cons]
    rfl

theorem accepted_append (elements : Registry) (K : SessionKey) (arrivals : List Arrival)
    (a : Arrival) :
    accepted elements K (arrivals ++ [a])
      = accepted elements K arrivals ++
          (acceptedFor K (a, ((ofArrivals elements arrivals).decode elements a.now a.exporter
            a.packet).2)).toList := by
  rw [accepted, outcomes_append, List.filterMap_append]
  rfl

/-- **A key expects what should follow the latest packet accepted for it**, by induction on the
packets, the latest last. -/
theorem expected_ofArrivals (elements : Registry) (K : SessionKey) (arrivals : List Arrival) :
    (ofArrivals elements arrivals).expected K
      = (accepted elements K arrivals).getLast?.bind DecodedPacket.next? := by
  induction arrivals using List.reverseRecOn with
  | nil => rfl
  | append_singleton arrivals a ih =>
    rw [ofArrivals_eq, after_append, ← ofArrivals_eq, accepted_append]
    refine (expected_decode elements _ K a).trans ?_
    cases acceptedFor K (a, ((ofArrivals elements arrivals).decode elements a.now a.exporter
        a.packet).2) with
    | none => rw [ih, Option.toList_none, List.append_nil]
    | some p => rw [Option.toList_some, List.getLast?_concat, Option.bind_some]

end SessionTable

/-! ## 3. Packets under other numbers -/

/-- Octets that differ in none but the four that hold the sequence number of a packet. -/
structure Renumbered (bs bs' : Bytes) : Prop where
  length_eq : bs'.length = bs.length
  before : bs'.take 8 = bs.take 8
  after : bs'.drop 12 = bs.drop 12

namespace Renumbered

variable {bs bs' : Bytes}

theorem number_before (r : Renumbered bs bs') {offset n : Nat} (h : offset + n ≤ 8) :
    Header.number bs' offset n = Header.number bs offset n := by
  have hpart : ∀ xs : Bytes, (xs.drop offset).take n = ((xs.take 8).drop offset).take n := by
    intro xs
    rw [List.drop_take, List.take_take, Nat.min_eq_left (by omega)]
  rw [Header.number, Header.number, hpart bs', hpart bs, r.before]

theorem drop_after (r : Renumbered bs bs') {offset : Nat} (h : 12 ≤ offset) :
    bs'.drop offset = bs.drop offset := by
  have hpart : ∀ xs : Bytes, xs.drop offset = (xs.drop 12).drop (offset - 12) := by
    intro xs
    rw [List.drop_drop, Nat.add_sub_cancel' h]
  rw [hpart bs', hpart bs, r.after]

theorem atLeast (r : Renumbered bs bs') (n : Nat) : bs'.atLeast n = bs.atLeast n := by
  rw [Bytes.atLeast_eq, Bytes.atLeast_eq, r.length_eq]

/-- The header says the same but for the number, and has the same fault if it has one. -/
theorem parse (r : Renumbered bs bs') :
    Header.parse bs' = (Header.parse bs).map fun h =>
      { h with sequence := UInt32.ofNat (Header.number bs' 8 4) } := by
  have hversion : Header.number bs' 0 2 = Header.number bs 0 2 := r.number_before (by decide)
  have hlength : Header.number bs' 2 2 = Header.number bs 2 2 := r.number_before (by decide)
  have htime : Header.number bs' 4 4 = Header.number bs 4 4 := r.number_before (by decide)
  have hdomain : Header.number bs' 12 4 = Header.number bs 12 4 := by
    rw [Header.number, Header.number, r.drop_after (Nat.le_refl 12)]
  unfold Header.parse
  simp only [hversion, hlength, htime, hdomain, r.atLeast, r.length_eq]
  split
  · split
    · rfl
    · split <;> rfl
  · rfl

/-- The sets are the same. -/
theorem splitSets (r : Renumbered bs bs') (h : Header) (n : UInt32) :
    splitSets { h with sequence := n } bs' = splitSets h bs := by
  have hbody : ({ h with sequence := n } : Header).body bs' = h.body bs := by
    have hdrop : bs'.drop Header.size = bs.drop Header.size := r.drop_after (by decide)
    unfold Header.body
    rw [r.atLeast]
    simp only [List.drop_take, hdrop]
  rw [FlowIntake.splitSets, FlowIntake.splitSets, hbody]

end Renumbered

/-- The message without the sequence number of its packet. -/
def Message.unnumbered (m : Message) : Message := { m with sequence := 0 }

/-- The packet without its sequence number and the gap before it. -/
def DecodedPacket.unnumbered (p : DecodedPacket) : DecodedPacket where
  header := { p.header with sequence := 0 }
  messages := p.messages.map Message.unnumbered
  issues := p.issues.filter fun i => !i.isGap
  changes := p.changes

/-- What the sets of a packet say under bindings, without its sequence number and a gap. -/
noncomputable def Bindings.told (elements : Registry) (exporter : Address) (h : Header)
    (b : Bindings) (sets : List RawSet) : DecodedPacket :=
  let c : MessageContext := ⟨exporter, h.domain, h.exportTime, 0⟩
  { header := { h with sequence := 0 }
    messages := (b.visits elements sets).flatMap fun v => (v.report elements c).1
    issues := (b.visits elements sets).filterMap fun v => (v.report elements c).2
    changes := b.changes (b.announced elements sets) }

/-- The messages of a set carry the sequence number, and nothing else of it depends on that. -/
theorem Visit.report_unnumbered (elements : Registry) (c : MessageContext) (v : Visit) :
    v.report elements { c with sequence := 0 }
      = ((v.report elements c).1.map Message.unnumbered, (v.report elements c).2) := by
  have hmessages : ∀ (t : Template) (rs : List (List Value)),
      ({ c with sequence := 0 } : MessageContext).messages t rs
        = (c.messages t rs).map Message.unnumbered := by
    intro t rs
    rw [MessageContext.messages_eq, MessageContext.messages_eq, List.map_map]
    rfl
  unfold Visit.report
  cases v.set.kind with
  | template kind => rfl
  | reserved => rfl
  | data =>
    cases v.bindings v.set.id with
    | none => rfl
    | some t => simp only [hmessages]

/-- **Without its number a packet is what its sets say** under the bindings of its session. -/
theorem Session.unnumbered_produced (elements : Registry) (h : Header) (s : Session)
    (sets : List RawSet) :
    (s.produced elements h sets).unnumbered = s.bindings.told elements s.key.exporter h sets := by
  have hzero : (⟨s.key.exporter, h.domain, h.exportTime, 0⟩ : MessageContext)
      = { s.context h with sequence := 0 } := rfl
  have hgaps : (s.sequenceIssues h.sequence).filter (fun i => !i.isGap) = [] := by
    rw [sequenceIssues]
    cases s.gap? h.sequence <;> rfl
  have hreports : ((s.bindings.visits elements sets).filterMap fun v =>
        (v.report elements (s.context h)).2).filter (fun i => !i.isGap)
      = (s.bindings.visits elements sets).filterMap fun v =>
          (v.report elements (s.context h)).2 := by
    rw [List.filter_eq_self]
    intro i hi
    rw [not_isGap_of_mem_reports hi]
    rfl
  have hfollows := Session.follows_receive elements h s sets
  rw [receive_eq] at hfollows
  have hissues : (s.produced elements h sets).unnumbered.issues
      = (s.bindings.visits elements sets).filterMap fun v =>
          (v.report elements (s.context h)).2 := by
    rw [DecodedPacket.unnumbered, issues_produced, List.filter_append, hgaps, hreports,
      List.nil_append]
  have hmessages : (s.produced elements h sets).unnumbered.messages
      = (s.bindings.visits elements sets).flatMap fun v =>
          (v.report elements (s.context h)).1.map Message.unnumbered := by
    rw [DecodedPacket.unnumbered, hfollows.messages, List.map_flatMap]
  have hchanges : (s.produced elements h sets).unnumbered.changes
      = s.bindings.changes (s.bindings.announced elements sets) :=
    TemplateChanges.ext hfollows.installed hfollows.withdrawn
  rw [Bindings.told, hzero]
  simp only [Visit.report_unnumbered, ← hissues, ← hmessages, ← hchanges]
  rfl

namespace SessionTable

/-- A packet that is well-framed, without its number. -/
theorem unnumbered_decode (elements : Registry) (ss : SessionTable) (now : Nat)
    (exporter : Address) {bs : Bytes} {h : Header} {sets : List RawSet}
    (hparse : Header.parse bs = .ok h) (hsplit : splitSets h bs = .ok sets) :
    (ss.decode elements now exporter bs).2.map DecodedPacket.unnumbered
      = .ok ((ss.bindings ⟨exporter, h.domain⟩).told elements exporter h sets) := by
  have hkey : ((ss.session now ⟨exporter, h.domain⟩).touch now).key = ⟨exporter, h.domain⟩ :=
    key_session ss now _
  have hbindings : ((ss.session now ⟨exporter, h.domain⟩).touch now).bindings
      = ss.bindings ⟨exporter, h.domain⟩ := bindings_session ss now _
  rw [decode_of_framed elements ss now exporter hparse hsplit, Session.receive_eq, Except.map,
    Session.unnumbered_produced, hbindings, hkey]

/-- **One packet under another number**: in sessions with the same templates it yields the same but
for the number, and the same templates. -/
theorem decode_renumbered (elements : Registry) {ss ss' : SessionTable}
    (hss : ∀ K, ss'.bindings K = ss.bindings K) {a a' : Arrival} (hfrom : a'.exporter = a.exporter)
    (r : Renumbered a.packet a'.packet) :
    (ss'.decode elements a'.now a'.exporter a'.packet).2.map DecodedPacket.unnumbered
        = (ss.decode elements a.now a.exporter a.packet).2.map DecodedPacket.unnumbered ∧
      ∀ K, bindings (ss'.decode elements a'.now a'.exporter a'.packet).1 K
        = bindings (ss.decode elements a.now a.exporter a.packet).1 K := by
  have hparse' := r.parse
  cases hparse : Header.parse a.packet with
  | error e =>
    rw [hparse] at hparse'
    rw [decode, decode, hparse, hparse']
    exact ⟨rfl, hss⟩
  | ok h =>
    rw [hparse] at hparse'
    have hsplit' := r.splitSets h (UInt32.ofNat (Header.number a'.packet 8 4))
    cases hsplit : splitSets h a.packet with
    | error e =>
      rw [hsplit] at hsplit'
      have hfault : ss'.decode elements a'.now a'.exporter a'.packet = (ss', .error e) := by
        rw [decode, hparse']
        simp only [Except.map, hsplit']
      have hfault' : ss.decode elements a.now a.exporter a.packet = (ss, .error e) := by
        rw [decode, hparse]
        simp only [hsplit]
      rw [hfault, hfault']
      exact ⟨rfl, hss⟩
    | ok sets =>
      rw [hsplit] at hsplit'
      constructor
      · rw [unnumbered_decode elements ss a.now a.exporter hparse hsplit,
          unnumbered_decode elements ss' a'.now a'.exporter hparse' hsplit', hfrom]
        simp only [hss]
        rfl
      · intro K
        have hsets : a'.setsFor K = a.setsFor K := by
          simp only [Arrival.setsFor, hparse, hparse', Except.map, hsplit, hsplit', hfrom]
        rw [bindings_decode, bindings_decode, hsets, hss]

/-- **Nothing but the gaps depends on the sequence numbers**, by induction on the packets. -/
theorem outcomes_renumbered (elements : Registry) {arrivals arrivals' : List Arrival}
    (h : List.Forall₂ (fun a a' => a'.exporter = a.exporter ∧ Renumbered a.packet a'.packet)
      arrivals arrivals') :
    ((outcomes elements .empty arrivals').map fun x => x.2.map DecodedPacket.unnumbered)
        = ((outcomes elements .empty arrivals).map fun x => x.2.map DecodedPacket.unnumbered) ∧
      ∀ K, (ofArrivals elements arrivals').bindings K
        = (ofArrivals elements arrivals).bindings K := by
  -- from any sessions with the same templates, which is what each packet leaves
  have hrun : ∀ ss ss' : SessionTable, (∀ K, ss'.bindings K = ss.bindings K) →
      ((ss'.outcomes elements arrivals').map fun x => x.2.map DecodedPacket.unnumbered)
          = ((ss.outcomes elements arrivals).map fun x => x.2.map DecodedPacket.unnumbered) ∧
        ∀ K, (ss'.after elements arrivals').bindings K
          = (ss.after elements arrivals).bindings K := by
    induction h with
    | nil => exact fun ss ss' hss => ⟨rfl, hss⟩
    | @cons a a' arrivals arrivals' ha _ ih =>
      intro ss ss' hss
      obtain ⟨hresult, hnext⟩ := decode_renumbered elements hss ha.1 ha.2
      obtain ⟨hresults, hlast⟩ := ih _ _ hnext
      rw [outcomes_cons, outcomes_cons, List.map_cons, List.map_cons, hresults, hresult]
      exact ⟨rfl, hlast⟩
  exact hrun .empty .empty fun _ => rfl

/-- **Sequence numbers are followed over whole runs.**  After any packets whatsoever a packet that
is accepted for a key shows a gap exactly when one was accepted for the key before, the latest of
them lost no records, and its number and the number of its messages do not add up, modulo 2^32, to
the number of this one; the gap names the sum, stands before all other issues and is the only one.
A packet with a fault changes nothing.  And other numbers in the packets make no other messages, no
other issues but gaps, no other counts and no other templates. -/
theorem gaps_of_arrivals (elements : Registry) (K : SessionKey) (arrivals : List Arrival) :
    let ss := ofArrivals elements arrivals
    (∀ (a : Arrival) (ss' : SessionTable) (p : DecodedPacket),
      ss.decode elements a.now a.exporter a.packet = (ss', .ok p) →
      K = ⟨a.exporter, p.header.domain⟩ →
      (∀ expected received, .sequenceGap expected received ∈ p.issues ↔
        received = p.header.sequence ∧ expected ≠ p.header.sequence ∧
          ∃ q, (accepted elements K arrivals).getLast? = some q ∧
            (∀ i ∈ q.issues, ¬i.LosesRecords) ∧
            expected.toNat
              = (q.header.sequence.toNat + q.messages.length) % 4294967296) ∧
      ∀ (k : Nat) (expected received : UInt32),
        p.issues[k]? = some (.sequenceGap expected received) → k = 0) ∧
    (∀ (a : Arrival) (ss' : SessionTable) (e : PacketError),
      ss.decode elements a.now a.exporter a.packet = (ss', .error e) → ss' = ss) ∧
    ∀ arrivals' : List Arrival,
      List.Forall₂ (fun a a' => a'.exporter = a.exporter ∧ Renumbered a.packet a'.packet)
        arrivals arrivals' →
      ((outcomes elements .empty arrivals').map fun x => x.2.map DecodedPacket.unnumbered)
          = ((outcomes elements .empty arrivals).map fun x => x.2.map DecodedPacket.unnumbered) ∧
        ∀ K, (ofArrivals elements arrivals').template? K = ss.template? K ∧
          (ofArrivals elements arrivals').templateCount K = ss.templateCount K := by
  intro ss
  refine ⟨?_, ?_, ?_⟩
  · intro a ss' p hdecode hkey
    rcases decode_cases a.packet with ⟨e, hfault⟩ | ⟨h, sets, hparse, hsplit⟩
    · rw [(hfault _ _ _ _).1] at hdecode
      cases hdecode
    · rw [decode_of_framed elements ss a.now a.exporter hparse hsplit] at hdecode
      cases hdecode
      have hexpected : ((ss.session a.now ⟨a.exporter, h.domain⟩).touch a.now).expected
          = (accepted elements K arrivals).getLast?.bind DecodedPacket.next? := by
        rw [← expected_ofArrivals, hkey]
        exact expected_session ss a.now ⟨a.exporter, h.domain⟩
      refine ⟨fun expected received => ?_, fun k expected received hk => ?_⟩
      · rw [Session.receive_eq, Session.gap_mem_produced_iff, hexpected]
        simp only [Option.bind_eq_some_iff, DecodedPacket.next?_eq_some_iff]
        constructor
        · rintro ⟨hlast, hreceived, hne⟩
          exact ⟨hreceived, hne, hlast⟩
        · rintro ⟨hreceived, hne, hlast⟩
          exact ⟨hlast, hreceived, hne⟩
      · exact Session.gap_first elements h _ sets hk rfl
  · intro a ss' e hdecode
    have herror : (ss.decode elements a.now a.exporter a.packet).2 = .error e := by rw [hdecode]
    rw [← decode_of_error herror, hdecode]
  · intro arrivals' h
    obtain ⟨hresults, hbindings⟩ := outcomes_renumbered elements h
    refine ⟨hresults, fun K => ⟨hbindings K, ?_⟩⟩
    rw [← size_bindings, ← size_bindings, hbindings]

/-- A packet with number 100 and two records, and after it one with number 110, which should have
been 102. -/
theorem gap_after_two_records :
    let K : SessionKey := ⟨.v4 ⟨[192, 0, 2, 1], rfl⟩, 0⟩
    let empty : Builder := {}
    let two : Builder :=
      ({ empty with sequence := 100 }.template 256 [⟨1, none, 1⟩]).data 256 [[7], [8]]
    let late : Builder := { empty with sequence := 110 }
    let ss := ofArrivals .empty [⟨0, K.exporter, two.build⟩]
    ∃ ss' p, ss.decode .empty 1 K.exporter late.build = (ss', .ok p) ∧
      .sequenceGap 102 110 ∈ p.issues := by
  intro K empty two late ss
  have hfirst := decode_of_framed .empty .empty 0 K.exporter
    (Builder.parse_build (b := two) rfl (by decide)) (Builder.splitSets_build (by decide))
  have hlate := decode_of_framed .empty ss 1 K.exporter
    (Builder.parse_build (b := late) rfl (by decide)) (Builder.splitSets_build (by decide))
  let q := (((session .empty 0 K).touch 0).receive .empty two.header two.sets).2
  have hq : accepted .empty K [⟨0, K.exporter, two.build⟩] = [q] := by
    rw [accepted, outcomes_cons, hfirst]
    rfl
  obtain ⟨hgaps, -⟩ := (gaps_of_arrivals .empty K [⟨0, K.exporter, two.build⟩]).1
    ⟨1, K.exporter, late.build⟩ _ _ hlate rfl
  have hkept : ∀ i ∈ q.issues, ¬i.LosesRecords := by decide
  have hsum : (102 : UInt32).toNat
      = (q.header.sequence.toNat + q.messages.length) % 4294967296 := by decide
  refine ⟨_, _, hlate, (hgaps 102 110).mpr ⟨rfl, by decide, q, ?_, hkept, hsum⟩⟩
  rw [hq]
  rfl

end SessionTable

end FlowIntake
