/-
# No record is lost without an issue

An exporter counts the records it sends, and a collector goes on counting after a packet only if it
has seen them all.  That it has not is said by an issue: when none says so, the data sets of the
packet are records of known templates from end to end, but for padding, and each of these records
has its message.

* `Visit.IsTiled`: a data set that is read to its padding;
* `Exhausts`: messages that account for every octet of every data set;
* `Visit.keeps_iff`: a data set has no such issue exactly when it is read to its padding;
* `exhausts_visits`, `Exhausts.visits_eq`: the same of all sets of a packet, by induction on them;
* `SessionTable.exhausts_iff_keeps`: packets that come after any others.
-/
import FlowIntake.Proofs.Packet.Tiling
import FlowIntake.Proofs.Session.Templates

namespace FlowIntake

/-! ## 1. Records of data sets -/

/-- The identifier of the set is bound to a template, and the set is records of it laid end to end,
with less than the smallest record after them. -/
def Visit.IsTiled (v : Visit) : Prop :=
  ∃ t octets records padding, v.bindings v.set.id = some t ∧
    t.Tiles v.set.body octets records padding

/-- The messages are those of all records of the data sets, and the data sets are nothing but these
records and padding: each has a template when it is reached, under which records tile it. -/
inductive Exhausts (elements : Registry) (c : MessageContext) :
    Bindings → List RawSet → List Message → Prop where
  | nil {b : Bindings} : Exhausts elements c b [] []
  | data {b : Bindings} {set : RawSet} {sets : List RawSet} {t : Template} {octets : List Bytes}
      {records : List (List Value)} {padding : Bytes} {messages : List Message} :
      set.kind = .data → b set.id = some t → t.Tiles set.body octets records padding →
      Exhausts elements c b sets messages →
      Exhausts elements c b (set :: sets) (records.map (c.message t) ++ messages)
  | other {b : Bindings} {set : RawSet} {sets : List RawSet} {messages : List Message} :
      set.kind ≠ .data →
      Exhausts elements c (b.fold ((Visit.mk set b).announcements elements)) sets messages →
      Exhausts elements c b (set :: sets) messages

/-! ## 2. One set -/

/-- Any failure of a record loses records. -/
theorem SetIssue.losesRecords_ofRecord (setId : UInt16) (record : Nat) (e : FieldError) :
    (ofRecord setId record e).LosesRecords := by
  rcases ofRecord_cases setId record e with h | h <;> rw [h] <;> trivial

namespace Visit

variable {elements : Registry} {c : MessageContext} {v : Visit}

/-- A set whose issue, if any, loses no records. -/
def Keeps (elements : Registry) (c : MessageContext) (v : Visit) : Prop :=
  ∀ i, (v.report elements c).2 = some i → ¬i.LosesRecords

theorem not_overruns_of_keeps (h : v.Keeps elements c) : ¬v.overruns = true := by
  intro hover
  obtain ⟨i, hi, habort⟩ := (aborts_iff elements c v).mpr hover
  exact h i hi (SetIssue.losesRecords_of_abortsPacket habort)

/-- Sets without records have no messages, and lose none. -/
theorem keeps_of_kind_ne (elements : Registry) (c : MessageContext)
    (hkind : v.set.kind ≠ .data) :
    (v.report elements c).1 = [] ∧ v.Keeps elements c := by
  unfold Keeps report
  cases h : v.set.kind with
  | template kind =>
    refine ⟨rfl, fun i hi => ?_⟩
    obtain ⟨e, -, rfl⟩ := Option.map_eq_some_iff.mp hi
    exact id
  | reserved =>
    refine ⟨rfl, fun i hi => ?_⟩
    cases hi
    exact id
  | data => exact absurd h hkind

/-- A data set that records tile has their messages and no issue. -/
theorem report_of_tiles (elements : Registry) (c : MessageContext) (hkind : v.set.kind = .data)
    {t : Template} {octets : List Bytes} {records : List (List Value)} {padding : Bytes}
    (hbound : v.bindings v.set.id = some t)
    (htiles : t.Tiles v.set.body octets records padding) :
    v.report elements c = (records.map (c.message t), none) := by
  rw [report, hkind]
  simp only [hbound, htiles.records_eq, MessageContext.messages_eq, Option.map_none]

/-- **A data set loses no records exactly when it is read to its padding.** -/
theorem keeps_iff (hv : v.bindings.Acceptable elements) (hkind : v.set.kind = .data) :
    v.Keeps elements c ↔ v.IsTiled := by
  constructor
  · intro hkeeps
    rw [Keeps, report, hkind] at hkeeps
    cases hbound : v.bindings v.set.id with
    | none =>
      simp only [hbound] at hkeeps
      exact absurd trivial (hkeeps (.missingTemplate v.set.id) rfl)
    | some t =>
      obtain ⟨-, hwell, -⟩ := hv _ t hbound
      simp only [hbound] at hkeeps
      cases hstop : (t.records v.set.body).stop with
      | some e =>
        rw [hstop] at hkeeps
        exact absurd (SetIssue.losesRecords_ofRecord _ _ e) (hkeeps _ rfl)
      | none =>
        obtain ⟨octets, padding, htiles⟩ :=
          (Template.stop_eq_none_iff hwell.minRecordLength_pos).mp hstop
        exact ⟨t, octets, _, padding, hbound, htiles⟩
  · rintro ⟨t, octets, records, padding, hbound, htiles⟩ i hi
    rw [report_of_tiles elements c hkind hbound htiles] at hi
    cases hi

/-- Data sets announce nothing. -/
theorem announcements_of_data (elements : Registry) (hkind : v.set.kind = .data) :
    v.announcements elements = [] := by
  rw [announcements, hkind]

end Visit

/-! ## 3. The sets of a packet -/

section Sets

variable {elements : Registry} {c : MessageContext} {b : Bindings} {sets : List RawSet}

/-- **Sets that lose no records are exhausted by their messages**, by induction on the sets. -/
theorem exhausts_visits (hb : b.Acceptable elements)
    (hkeeps : ∀ v ∈ b.visits elements sets, v.Keeps elements c) :
    Exhausts elements c b sets
      ((b.visits elements sets).flatMap fun v => (v.report elements c).1) := by
  induction sets generalizing b with
  | nil => exact .nil
  | cons set sets ih =>
    have hfirst : (Visit.mk set b).Keeps elements c :=
      hkeeps _ (Bindings.mem_visits_cons elements b set sets)
    rw [Bindings.visits_cons elements (Visit.not_overruns_of_keeps hfirst)] at hkeeps ⊢
    rw [List.flatMap_cons]
    have hlater := ih (Bindings.All.set (fun _ ht => ⟨rfl, ht⟩) hb set) fun v hv =>
      hkeeps v (List.mem_cons_of_mem _ hv)
    by_cases hkind : set.kind = .data
    · obtain ⟨t, octets, records, padding, hbound, htiles⟩ :=
        (Visit.keeps_iff (v := ⟨set, b⟩) hb hkind).mp hfirst
      rw [Visit.report_of_tiles (v := ⟨set, b⟩) elements c hkind hbound htiles]
      rw [Visit.announcements_of_data (v := ⟨set, b⟩) elements hkind] at hlater ⊢
      exact .data hkind hbound htiles hlater
    · rw [(Visit.keeps_of_kind_ne (v := ⟨set, b⟩) elements c hkind).1]
      exact .other hkind hlater

/-- **Messages that exhaust the sets are all there are, and no records are lost**, by induction on
the sets. -/
theorem Exhausts.visits_eq {messages : List Message} (h : Exhausts elements c b sets messages) :
    (∀ v ∈ b.visits elements sets, v.Keeps elements c) ∧
      messages = (b.visits elements sets).flatMap fun v => (v.report elements c).1 := by
  induction h with
  | nil => exact ⟨List.forall_mem_nil _, rfl⟩
  | @data b set sets t octets records padding messages hkind hbound htiles _ ih =>
    have hreport := Visit.report_of_tiles (v := ⟨set, b⟩) elements c hkind hbound htiles
    have hfirst : (Visit.mk set b).Keeps elements c := by
      intro i hi
      rw [hreport] at hi
      cases hi
    rw [Bindings.visits_cons elements (Visit.not_overruns_of_keeps hfirst), List.flatMap_cons,
      hreport, Visit.announcements_of_data (v := ⟨set, b⟩) elements hkind]
    exact ⟨List.forall_mem_cons.mpr ⟨hfirst, ih.1⟩, congrArg _ ih.2⟩
  | @other b set sets messages hkind _ ih =>
    obtain ⟨hnone, hfirst⟩ := Visit.keeps_of_kind_ne (v := ⟨set, b⟩) elements c hkind
    rw [Bindings.visits_cons elements (Visit.not_overruns_of_keeps hfirst), List.flatMap_cons,
      hnone, List.nil_append]
    exact ⟨List.forall_mem_cons.mpr ⟨hfirst, ih.1⟩, ih.2⟩

/-- Where no set loses records, each data set is reached and read to its padding. -/
theorem isTiled_of_keeps (hb : b.Acceptable elements)
    (hkeeps : ∀ v ∈ b.visits elements sets, v.Keeps elements c) {earlier later : List RawSet}
    {set : RawSet} (hsets : sets = earlier ++ set :: later) (hkind : set.kind = .data) :
    (∀ v ∈ b.visits elements earlier, ¬v.overruns = true) ∧
      (Visit.mk set (b.fold (b.announced elements earlier))).IsTiled := by
  have hreached : ∀ v ∈ b.visits elements earlier, ¬v.overruns = true := by
    intro v hv hover
    have hlast := Bindings.visits_append_of_overruns elements hv hover (set :: later)
    rw [hsets, hlast] at hkeeps
    exact Visit.not_overruns_of_keeps (hkeeps v hv) hover
  have hset := Bindings.mem_visits_cons elements (b.fold (b.announced elements earlier)) set later
  rw [hsets, Bindings.visits_append elements hreached] at hkeeps
  have hbound : (b.fold (b.announced elements earlier)).Acceptable elements :=
    Bindings.All.announced (fun _ ht => ⟨rfl, ht⟩) hb earlier
  exact ⟨hreached, (Visit.keeps_iff hbound hkind).mp (hkeeps _ (List.mem_append_right _ hset))⟩

end Sets

/-! ## 4. Packets -/

/-- No issue of a packet loses records exactly when none of its sets does. -/
theorem DecodedPacket.Follows.keeps_iff {elements : Registry} {c : MessageContext} {b : Bindings}
    {sets : List RawSet} {p : DecodedPacket} (h : p.Follows elements c b sets) :
    (∀ i ∈ p.issues, ¬i.LosesRecords) ↔ ∀ v ∈ b.visits elements sets, v.Keeps elements c := by
  constructor
  · intro hkeeps v hv i hi
    exact hkeeps i (h.mem_issues hv hi)
  · intro hkeeps i hi
    obtain ⟨gaps, hgaps, hissues⟩ := h.issues
    rw [hissues] at hi
    rcases List.mem_append.mp hi with hgap | hreported
    · obtain ⟨expected, received, rfl⟩ := hgaps i hgap
      exact id
    · obtain ⟨v, hv, hvi⟩ := List.mem_filterMap.mp hreported
      exact hkeeps v hv i hvi

namespace SessionTable

/-- **No record is lost without an issue that says so.**  After any packets whatsoever a packet that
is accepted reports no missing template, no failure of a record and no overrun exactly when its
messages account for every octet of its data sets: each data set has a template, its octets are
records of it laid end to end and less than the smallest record after them, and the messages are
those of all these records, in order.  Then, and only then, the session goes on counting.  A data
set that is not reached, has no template or is not read to its padding always leaves such an
issue. -/
theorem exhausts_iff_keeps (elements : Registry) (arrivals : List Arrival) (now : Nat)
    (exporter : Address) {bs : Bytes} {h : Header} {sets : List RawSet}
    (hbs : Carries bs h sets) :
    let ss := ofArrivals elements arrivals
    let b := ss.bindings ⟨exporter, h.domain⟩
    ∃ ss' p, ss.decode elements now exporter bs = (ss', .ok p) ∧
      ((∀ i ∈ p.issues, ¬i.LosesRecords) ↔
        Exhausts elements ⟨exporter, h.domain, h.exportTime, h.sequence⟩ b sets p.messages) ∧
      ((∀ i ∈ p.issues, ¬i.LosesRecords) ↔
        ss'.expected ⟨exporter, h.domain⟩ = some (h.sequence + UInt32.ofNat p.messages.length)) ∧
      ∀ (earlier : List RawSet) (set : RawSet) (later : List RawSet),
        sets = earlier ++ set :: later → set.kind = .data →
        ¬((∀ v ∈ b.visits elements earlier, ¬v.overruns = true) ∧
          (Visit.mk set (b.fold (b.announced elements earlier))).IsTiled) →
        ∃ i ∈ p.issues, i.LosesRecords := by
  intro ss b
  have hb : b.Acceptable elements := acceptable_ofArrivals elements arrivals _
  obtain ⟨ss', p, hdecode, hfollows, hheader, hexpected⟩ :=
    follows_decode elements ss now exporter hbs
  refine ⟨ss', p, hdecode, ?_, ?_, ?_⟩
  · rw [hfollows.keeps_iff, hfollows.messages]
    exact ⟨exhausts_visits hb, fun hall => hall.visits_eq.1⟩
  · rw [hexpected, DecodedPacket.next?, hheader]
    by_cases hlost : ∃ i ∈ p.issues, i.LosesRecords
    · rw [if_pos hlost]
      obtain ⟨i, hi, hloses⟩ := hlost
      exact iff_of_false (fun hkeeps => hkeeps i hi hloses) (by simp)
    · rw [if_neg hlost]
      exact iff_of_true (fun i hi hloses => hlost ⟨i, hi, hloses⟩) rfl
  · intro earlier set later hsets hkind hnot
    by_contra hnone
    refine hnot (isTiled_of_keeps hb (hfollows.keeps_iff.mp fun i hi hloses => ?_) hsets hkind)
    exact hnone ⟨i, hi, hloses⟩

/-- A template and two records of it, in one packet: the messages account for all of its data
set. -/
theorem two_records_exhaust_set :
    let exporter : Address := .v4 ⟨[192, 0, 2, 1], rfl⟩
    let two : Builder := (({} : Builder).template 256 [⟨1, none, 2⟩]).data 256 [[0, 7], [0, 8], [0]]
    ∃ ss' p, decode .empty .empty 0 exporter two.build = (ss', .ok p) ∧
      p.messages.length = 2 ∧ Exhausts .empty ⟨exporter, 0, 0, 0⟩ .empty two.sets p.messages := by
  intro exporter two
  have hcarries : Carries two.build two.header two.sets := Builder.carries_build rfl (by decide)
  obtain ⟨ss', p, hdecode, hexhausts, -⟩ := exhausts_iff_keeps .empty [] 0 exporter hcarries
  have hp := received_of_decode hcarries hdecode
  have hkept : ∀ i ∈ p.issues, ¬i.LosesRecords := by
    rw [hp]
    decide
  refine ⟨ss', p, hdecode, ?_, hexhausts.mp hkept⟩
  rw [hp]
  decide

end SessionTable

end FlowIntake
