/-
# What a set does to its session

One lemma for each kind of set says everything that decoding it can do; what holds of a whole
packet follows by induction on its sets.

* `Session.decodeSet_frame`, `Session.decodeSets_frame`: nothing but the templates changes;
* `Session.decodeSets_cons`, `Session.decodeSets_cons_abort`: a packet is read set by set, up to
  one that aborts it;
* `Session.decodeSets_append`, `Session.decodeSets_append_abort`: the same after any sets that do
  not abort it;
* `Session.finishes_cons`, `Session.finishes_append`: whether that comes to an end;
* `Session.key_receive`: a packet leaves its session under the same key;
* `SessionTable.decode_of_framed`: a well-framed packet is read in the session of its key;
* `SessionTable.decode_cases`: any other has a fault, which changes no session.
-/
import FlowIntake.Packet.Decode

namespace FlowIntake

/-! ## 1. The kind of a set, and its messages -/

theorem SetKind.ofId_setId (kind : TemplateKind) : ofId kind.setId = .template kind := by
  cases kind <;> decide

theorem SetKind.ofId_of_ge {id : UInt16} (h : minDataSetId ≤ id) : ofId id = .data := by
  have hge : 256 ≤ id.toNat := UInt16.le_iff_toNat_le.mp h
  have hdata : id ≠ TemplateKind.data.setId := by
    rintro rfl
    exact absurd hge (by decide)
  have hoptions : id ≠ TemplateKind.options.setId := by
    rintro rfl
    exact absurd hge (by decide)
  rw [ofId, if_neg hdata, if_neg hoptions, if_pos h]

/-- The failure of a record overruns, or costs the rest of its set. -/
theorem SetIssue.ofRecord_cases (setId : UInt16) (record : Nat) (e : FieldError) :
    ofRecord setId record e = .recordDecode setId record e ∨
      ofRecord setId record e = .recordOverrun setId record e := by
  unfold ofRecord
  split
  · exact Or.inr rfl
  · exact Or.inl rfl

/-- The keys are found once for all records; each message is the one of its record. -/
theorem MessageContext.messages_eq (c : MessageContext) (t : Template)
    (records : List (List Value)) : c.messages t records = records.map (c.message t) := by
  cases records <;> rfl

/-! ## 2. Template records -/

namespace TemplateChanges

@[ext] theorem ext {a b : TemplateChanges} (hi : a.installed = b.installed)
    (hw : a.withdrawn = b.withdrawn) : a = b := by
  cases a
  cases b
  simp_all

@[simp] theorem installed_add (a b : TemplateChanges) :
    (a + b).installed = a.installed + b.installed := rfl

@[simp] theorem withdrawn_add (a b : TemplateChanges) :
    (a + b).withdrawn = a.withdrawn + b.withdrawn := rfl

@[simp] theorem none_add (a : TemplateChanges) : none + a = a :=
  ext (Nat.zero_add _) (Nat.zero_add _)

theorem add_assoc (a b c : TemplateChanges) : a + b + c = a + (b + c) :=
  ext (Nat.add_assoc _ _ _) (Nat.add_assoc _ _ _)

end TemplateChanges

namespace Session

variable {elements : Registry} {h : Header}

theorem template?_install (s : Session) (t : Template) :
    (s.install t).template? t.id = some t := by
  rw [install, template?, Keyed.get?_insert, if_pos rfl]

/-- A template record changes nothing but the templates. -/
theorem apply_frame (kind : TemplateKind) (s : Session) (r : TemplateRecord) :
    ∃ table, (s.apply kind r).1 = { s with templates := table } := by
  cases r with
  | definition t => exact ⟨s.templates.insert t, rfl⟩
  | withdrawal id =>
    rw [apply]
    split
    · exact ⟨s.templates.filter fun t => t.kind ≠ kind, rfl⟩
    · exact ⟨s.templates.erase id, rfl⟩

/-- The changes already made only add to the count. -/
theorem foldl_apply (kind : TemplateKind) (records : List TemplateRecord) (s : Session)
    (n : TemplateChanges) :
    records.foldl (fun (s, n) r => let (s, m) := s.apply kind r; (s, n + m)) (s, n)
      = ((s.applyAll kind records).1, n + (s.applyAll kind records).2) := by
  induction records generalizing s n with
  | nil =>
    have hzero : n + TemplateChanges.none = n := TemplateChanges.ext rfl rfl
    rw [applyAll, List.foldl_nil, List.foldl_nil, hzero]
  | cons r records ih =>
    rw [applyAll, List.foldl_cons, List.foldl_cons]
    simp only [ih, TemplateChanges.none_add, TemplateChanges.add_assoc]

@[simp] theorem applyAll_nil (kind : TemplateKind) (s : Session) :
    s.applyAll kind [] = (s, .none) := rfl

/-- Records are applied one after another. -/
theorem applyAll_cons (kind : TemplateKind) (s : Session) (r : TemplateRecord)
    (records : List TemplateRecord) :
    s.applyAll kind (r :: records)
      = (((s.apply kind r).1.applyAll kind records).1,
          (s.apply kind r).2 + ((s.apply kind r).1.applyAll kind records).2) := by
  rw [applyAll, List.foldl_cons]
  simp only [foldl_apply, TemplateChanges.none_add]

theorem applyAll_frame (kind : TemplateKind) (s : Session) (records : List TemplateRecord) :
    ∃ table, (s.applyAll kind records).1 = { s with templates := table } := by
  induction records generalizing s with
  | nil => exact ⟨s.templates, rfl⟩
  | cons r records ih =>
    obtain ⟨first, hfirst⟩ := apply_frame kind s r
    obtain ⟨table, htable⟩ := ih (s.apply kind r).1
    refine ⟨table, ?_⟩
    rw [applyAll_cons, htable, hfirst]

/-! ## 3. Sets and packets -/

/-- **A set changes nothing but the templates of its session.** -/
theorem decodeSet_frame (elements : Registry) (h : Header) (s : Session) (set : RawSet) :
    ∃ table, (s.decodeSet elements h set).1 = { s with templates := table } := by
  unfold decodeSet
  split
  · rename_i kind _
    exact applyAll_frame kind s _
  · split
    · exact ⟨s.templates, rfl⟩
    · exact ⟨s.templates, rfl⟩
  · exact ⟨s.templates, rfl⟩

/-- No issue of the set aborts the packet. -/
theorem any_aborts_eq_false {y : SetYield} (hgo : ∀ i, y.issue = some i → ¬i.AbortsPacket) :
    (y.issue.any fun i => i.AbortsPacket) = false := by
  rw [Bool.eq_false_iff, ne_eq, Option.any_eq_true]
  rintro ⟨i, hi, habort⟩
  exact hgo i hi (of_decide_eq_true habort)

/-- An issue of the set aborts the packet. -/
theorem any_aborts_eq_true {y : SetYield} {i : SetIssue} (hi : y.issue = some i)
    (habort : i.AbortsPacket) : (y.issue.any fun i => i.AbortsPacket) = true := by
  rw [Option.any_eq_true]
  exact ⟨i, hi, decide_eq_true habort⟩

/-- A set without an issue does not abort the packet. -/
theorem not_aborts_of_issue_none {y : SetYield} (hnone : y.issue = none) :
    ∀ i, y.issue = some i → ¬i.AbortsPacket := by
  intro i hi
  rw [hnone] at hi
  cases hi

/-- After a set that does not abort the packet the next one is read, in the session it left. -/
theorem decodeSets_cons {s : Session} {set : RawSet}
    (hgo : ∀ i, (s.decodeSet elements h set).2.issue = some i → ¬i.AbortsPacket)
    (sets : List RawSet) :
    s.decodeSets elements h (set :: sets)
      = (((s.decodeSet elements h set).1.decodeSets elements h sets).1,
          (s.decodeSet elements h set).2 ::
            ((s.decodeSet elements h set).1.decodeSets elements h sets).2) := by
  rw [decodeSets]
  simp only
  rw [if_neg (Bool.eq_false_iff.mp (any_aborts_eq_false hgo))]

/-- After a set that aborts the packet nothing is read. -/
theorem decodeSets_cons_abort {s : Session} {set : RawSet} {i : SetIssue}
    (hi : (s.decodeSet elements h set).2.issue = some i) (habort : i.AbortsPacket)
    (sets : List RawSet) :
    s.decodeSets elements h (set :: sets)
      = ((s.decodeSet elements h set).1, [(s.decodeSet elements h set).2]) := by
  rw [decodeSets]
  simp only
  rw [if_pos (any_aborts_eq_true hi habort)]

/-- Either a set aborts the packet or the next one is read. -/
theorem aborts_or_goes_on (y : SetYield) :
    (∃ i, y.issue = some i ∧ i.AbortsPacket) ∨ ∀ i, y.issue = some i → ¬i.AbortsPacket := by
  by_cases h : ∃ i, y.issue = some i ∧ i.AbortsPacket
  · exact Or.inl h
  · exact Or.inr fun i hi habort => h ⟨i, hi, habort⟩

/-- Sets none of which aborts the packet are followed by the others. -/
theorem decodeSets_append {s : Session} {sets : List RawSet}
    (hgo : ∀ y ∈ (s.decodeSets elements h sets).2, ∀ i, y.issue = some i → ¬i.AbortsPacket)
    (later : List RawSet) :
    s.decodeSets elements h (sets ++ later)
      = (((s.decodeSets elements h sets).1.decodeSets elements h later).1,
          (s.decodeSets elements h sets).2 ++
            ((s.decodeSets elements h sets).1.decodeSets elements h later).2) := by
  induction sets generalizing s with
  | nil => rfl
  | cons set sets ih =>
    rcases aborts_or_goes_on (s.decodeSet elements h set).2 with ⟨i, hi, habort⟩ | hnext
    · refine absurd habort (hgo _ ?_ i hi)
      rw [decodeSets_cons_abort hi habort]
      exact List.mem_singleton_self _
    · rw [decodeSets_cons hnext] at hgo ⊢
      rw [List.cons_append, decodeSets_cons hnext,
        ih fun y hy => hgo y (List.mem_cons_of_mem _ hy)]
      rfl

/-- A set that aborts the packet is the last that is read. -/
theorem decodeSets_append_abort {s : Session} {sets : List RawSet}
    (hgo : ∀ y ∈ (s.decodeSets elements h sets).2, ∀ i, y.issue = some i → ¬i.AbortsPacket)
    {set : RawSet} {i : SetIssue}
    (hi : ((s.decodeSets elements h sets).1.decodeSet elements h set).2.issue = some i)
    (habort : i.AbortsPacket) (later : List RawSet) :
    s.decodeSets elements h (sets ++ set :: later) = s.decodeSets elements h (sets ++ [set]) := by
  rw [decodeSets_append hgo, decodeSets_append hgo, decodeSets_cons_abort hi habort,
    decodeSets_cons_abort hi habort]

/-- A set that does not abort the packet has to come to an end, and so have the later ones. -/
theorem finishes_cons {s : Session} {set : RawSet}
    (hgo : ∀ i, (s.decodeSet elements h set).2.issue = some i → ¬i.AbortsPacket)
    (sets : List RawSet) :
    s.finishes elements h (set :: sets)
      = (s.finishesSet set && (s.decodeSet elements h set).1.finishes elements h sets) := by
  rw [finishes]
  simp only
  rw [any_aborts_eq_false hgo, Bool.false_or]

/-- A set that aborts the packet is the last that has to come to an end. -/
theorem finishes_cons_abort {s : Session} {set : RawSet} {i : SetIssue}
    (hi : (s.decodeSet elements h set).2.issue = some i) (habort : i.AbortsPacket)
    (sets : List RawSet) : s.finishes elements h (set :: sets) = s.finishesSet set := by
  rw [finishes]
  simp only
  rw [any_aborts_eq_true hi habort, Bool.true_or, Bool.and_true]

theorem finishes_singleton (elements : Registry) (h : Header) (s : Session) (set : RawSet) :
    s.finishes elements h [set] = s.finishesSet set := by
  rcases aborts_or_goes_on (s.decodeSet elements h set).2 with ⟨i, hi, habort⟩ | hgo
  · exact finishes_cons_abort hi habort []
  · rw [finishes_cons hgo, finishes, Bool.and_true]

/-- **Sets come to an end when the first of them do and then the others**, as long as none of the
first aborts the packet. -/
theorem finishes_append {s : Session} {sets : List RawSet}
    (hgo : ∀ y ∈ (s.decodeSets elements h sets).2, ∀ i, y.issue = some i → ¬i.AbortsPacket)
    (later : List RawSet) :
    s.finishes elements h (sets ++ later)
      = (s.finishes elements h sets &&
          (s.decodeSets elements h sets).1.finishes elements h later) := by
  induction sets generalizing s with
  | nil => rfl
  | cons set sets ih =>
    rcases aborts_or_goes_on (s.decodeSet elements h set).2 with ⟨i, hi, habort⟩ | hnext
    · refine absurd habort (hgo _ ?_ i hi)
      rw [decodeSets_cons_abort hi habort]
      exact List.mem_singleton_self _
    · rw [decodeSets_cons hnext] at hgo ⊢
      rw [List.cons_append, finishes_cons hnext, finishes_cons hnext,
        ih fun y hy => hgo y (List.mem_cons_of_mem _ hy), Bool.and_assoc]

/-- **The sets of a packet change nothing but the templates**, by induction on the sets. -/
theorem decodeSets_frame (elements : Registry) (h : Header) (s : Session) (sets : List RawSet) :
    ∃ table, (s.decodeSets elements h sets).1 = { s with templates := table } := by
  induction sets generalizing s with
  | nil => exact ⟨s.templates, rfl⟩
  | cons set sets ih =>
    obtain ⟨first, hfirst⟩ := decodeSet_frame elements h s set
    rcases aborts_or_goes_on (s.decodeSet elements h set).2 with ⟨i, hi, habort⟩ | hgo
    · rw [decodeSets_cons_abort hi habort]
      exact ⟨first, hfirst⟩
    · obtain ⟨table, htable⟩ := ih (s.decodeSet elements h set).1
      refine ⟨table, ?_⟩
      rw [decodeSets_cons hgo, htable, hfirst]

/-- A gap before a packet loses no record of it. -/
theorem not_losesRecords_of_gap {s : Session} {received : UInt32} {i : SetIssue}
    (hi : i ∈ s.sequenceIssues received) : ¬i.LosesRecords := by
  obtain ⟨expected, -, rfl⟩ := List.mem_map.mp hi
  exact id

theorem key_settle (s : Session) (p : DecodedPacket) : (s.settle p).key = s.key := by
  unfold settle
  split <;> rfl

theorem templates_settle (s : Session) (p : DecodedPacket) :
    (s.settle p).templates = s.templates := by
  unfold settle
  split <;> rfl

/-- What a packet produces: the gap before it, and what its sets yield. -/
def produced (elements : Registry) (h : Header) (s : Session) (sets : List RawSet) :
    DecodedPacket :=
  DecodedPacket.ofYields h (s.sequenceIssues h.sequence) (s.decodeSets elements h sets).2

theorem receive_eq (elements : Registry) (h : Header) (s : Session) (sets : List RawSet) :
    s.receive elements h sets
      = ((s.decodeSets elements h sets).1.settle (s.produced elements h sets),
          s.produced elements h sets) := rfl

/-- **A packet leaves its session under the same key.** -/
theorem key_receive (elements : Registry) (h : Header) (s : Session) (sets : List RawSet) :
    (s.receive elements h sets).1.key = s.key := by
  obtain ⟨table, htable⟩ := decodeSets_frame elements h s sets
  rw [receive_eq]
  simp only [key_settle, htable]

end Session

/-! ## 4. Tables of sessions -/

namespace SessionTable

theorem key_session (ss : SessionTable) (now : Nat) (key : SessionKey) :
    (ss.session now key).key = key := by
  unfold session
  cases h : ss.get? key with
  | none => rfl
  | some s => exact Keyed.key_of_get? h

theorem key_received (elements : Registry) (ss : SessionTable) (now : Nat) (key : SessionKey)
    (h : Header) (sets : List RawSet) :
    (((ss.session now key).touch now).receive elements h sets).1.key = key := by
  rw [Session.key_receive]
  exact key_session ss now key

/-- **A well-framed packet is read in the session of its exporter and domain**, which begins when
there is none, and the session is kept under the same key. -/
theorem decode_of_framed (elements : Registry) (ss : SessionTable) (now : Nat)
    (exporter : Address) {bs : Bytes} {h : Header} {sets : List RawSet}
    (hparse : Header.parse bs = .ok h) (hsplit : splitSets h bs = .ok sets) :
    ss.decode elements now exporter bs
      = (ss.insert ((((ss.session now ⟨exporter, h.domain⟩).touch now).receive elements h sets).1),
          .ok (((ss.session now ⟨exporter, h.domain⟩).touch now).receive elements h sets).2) := by
  rw [decode, hparse]
  simp only [hsplit]

/-- Whether a packet that is well-framed comes to an end is up to its sets. -/
theorem finishes_of_framed (elements : Registry) (ss : SessionTable) (now : Nat)
    (exporter : Address) {bs : Bytes} {h : Header} {sets : List RawSet}
    (hparse : Header.parse bs = .ok h) (hsplit : splitSets h bs = .ok sets) :
    ss.finishes elements now exporter bs
      = ((ss.session now ⟨exporter, h.domain⟩).touch now).finishes elements h sets := by
  rw [finishes, hparse]
  simp only [hsplit]

/-- A packet either has a fault, which depends on its octets alone, is found in any case and leaves
every session as it is, or is well-framed. -/
theorem decode_cases (bs : Bytes) :
    (∃ e, ∀ (elements : Registry) (ss : SessionTable) (now : Nat) (exporter : Address),
      ss.decode elements now exporter bs = (ss, .error e) ∧
        ss.finishes elements now exporter bs = true) ∨
    ∃ h sets, Header.parse bs = .ok h ∧ splitSets h bs = .ok sets := by
  cases hparse : Header.parse bs with
  | error e =>
    refine Or.inl ⟨e, fun elements ss now exporter => ?_⟩
    constructor
    · rw [decode, hparse]
    · rw [finishes, hparse]
  | ok h =>
    cases hsplit : splitSets h bs with
    | error e =>
      refine Or.inl ⟨e, fun elements ss now exporter => ?_⟩
      constructor
      · rw [decode, hparse]
        simp only [hsplit]
      · rw [finishes, hparse]
        simp only [hsplit]
    | ok sets => exact Or.inr ⟨h, sets, rfl, hsplit⟩

/-- **A packet with a fault changes no session.** -/
theorem decode_of_error {elements : Registry} {ss : SessionTable} {now : Nat}
    {exporter : Address} {bs : Bytes} {e : PacketError}
    (h : (ss.decode elements now exporter bs).2 = .error e) :
    (ss.decode elements now exporter bs).1 = ss := by
  rcases decode_cases bs with ⟨e', hfault⟩ | ⟨hd, sets, hparse, hsplit⟩
  · rw [(hfault elements ss now exporter).1]
  · rw [decode_of_framed elements ss now exporter hparse hsplit] at h
    cases h

/-- What comes of a packet is what is decoded, when that comes to an end. -/
theorem decode?_eq_some_iff {elements : Registry} {ss : SessionTable} {now : Nat}
    {exporter : Address} {bs : Bytes} {x : SessionTable × Except PacketError DecodedPacket} :
    ss.decode? elements now exporter bs = some x ↔
      ss.finishes elements now exporter bs = true ∧ ss.decode elements now exporter bs = x := by
  rw [decode?, Option.ite_none_right_eq_some, Option.some_inj]

end SessionTable

end FlowIntake
