/-
# Records that run past the end of their set

A field says how many octets it takes.  When that is more than its set has left, and when the length
itself is cut off, the record overruns the set and the packet is given up, provided that the data
type accepts the length: a length that it does not accept is refused before the octets are counted,
and costs no more than the rest of its set.

* `Field.Overruns`, `Field.AcceptsDeclared`: what an occurrence of a field says of its length;
* `Field.isOverrun_iff`: when the failure of a field counts as an overrun;
* `Template.FailsAt`: a record of a body, and the first of its fields to fail;
* `Session.issue_of_failsAt`: the issue that it makes;
* `SessionTable.decode_of_failsAt`: what becomes of its packet.
-/
import FlowIntake.Proofs.Packet.Framing
import FlowIntake.Proofs.Packet.Records
import FlowIntake.Proofs.Packet.Sets

namespace FlowIntake

/-! ## 1. Fields -/

namespace Field

/-- How many octets the next occurrence of a field says it takes, and where they begin; nothing when
the octets that say so are not all there. -/
def declared? (f : Field) (c : Cursor) : Option (Nat × Cursor) :=
  if f.isVariable then
    match Cursor.variableLength c with
    | .ok n c => some (n, c)
    | .error _ _ => none
  else some (f.length.toNat, c)

/-- The next occurrence of the field runs past the end: it takes more octets than are left, or does
not even get to say how many. -/
def Overruns (f : Field) (c : Cursor) : Prop :=
  ∀ n c', f.declared? c = some (n, c') → c'.remaining < n

/-- The data type of the field accepts the length, if one is declared. -/
def AcceptsDeclared (f : Field) (c : Cursor) : Prop :=
  ∀ n c', f.declared? c = some (n, c') → f.element.type.Accepts n

end Field

theorem DataType.isOverrun_iff {t : DataType} {name : String} {n : Nat} {c c' : Cursor}
    {e : FieldError} (h : t.decode name n c = .error e c') :
    e.IsOverrun ↔ c.remaining < n ∧ t.Accepts n := by
  unfold DataType.decode at h
  by_cases hacc : t.Accepts n
  · rw [if_pos hacc, Cursor.take_eq] at h
    by_cases hleft : n ≤ c.remaining
    · rw [if_pos hleft] at h
      have hno : ¬(c.remaining < n ∧ t.Accepts n) := fun hyes => absurd hyes.1 (by omega)
      simp only at h
      split at h
      · cases h
      · cases h
        exact iff_of_false id hno
    · rw [if_neg hleft] at h
      cases h
      exact iff_of_true trivial ⟨by omega, hacc⟩
  · rw [if_neg hacc] at h
    cases h
    exact iff_of_false id fun hyes => hacc hyes.2

/-- **A field that fails overruns when it takes more octets than are left, and a length that its
type accepts.** -/
theorem Field.isOverrun_iff {f : Field} {c c' : Cursor} {e : FieldError}
    (h : f.decode c = .error e c') : e.IsOverrun ↔ f.Overruns c ∧ f.AcceptsDeclared c := by
  unfold Field.decode at h
  cases hvar : f.isVariable with
  | false =>
    rw [hvar, if_neg Bool.false_ne_true] at h
    have hdeclared : f.declared? c = some (f.length.toNat, c) := by
      rw [declared?, hvar, if_neg Bool.false_ne_true]
    rw [DataType.isOverrun_iff h]
    simp [Overruns, AcceptsDeclared, hdeclared]
  | true =>
    rw [hvar, if_pos rfl] at h
    cases hlen : Cursor.variableLength c with
    | ok n c₁ =>
      rw [hlen] at h
      have hdeclared : f.declared? c = some (n, c₁) := by
        rw [declared?, hvar, if_pos rfl, hlen]
      rw [DataType.isOverrun_iff h]
      simp [Overruns, AcceptsDeclared, hdeclared]
    | error e' c₁ =>
      rw [hlen] at h
      cases h
      have hdeclared : f.declared? c = none := by
        rw [declared?, hvar, if_pos rfl, hlen]
      refine iff_of_true trivial ⟨?_, ?_⟩ <;> intro n c₂ hsome <;> rw [hdeclared] at hsome <;>
        cases hsome

/-! ## 2. Records -/

/-- A record fails with the first of its fields to fail. -/
theorem readRecord_append_error {before after : List Field} {f : Field} {vs : List Value}
    {c c₁ c₂ : Cursor} {e : FieldError} (hbefore : readRecord before c = .ok vs c₁)
    (hf : f.decode c₁ = .error e c₂) : readRecord (before ++ f :: after) c = .error e c₂ := by
  induction before generalizing c vs with
  | nil =>
    cases hbefore
    exact Reader.bind_error hf
  | cons g before ih =>
    obtain ⟨v, c₃, hg, hlater⟩ := Reader.bind_ok_iff.mp hbefore
    obtain ⟨vs', c₄, hvs, hlast⟩ := Reader.bind_ok_iff.mp hlater
    cases hlast
    rw [List.cons_append, readRecord, Reader.bind_ok hg]
    exact Reader.bind_error (ih hvs)

/-- From one place of a body to another, records of the given fields are read in full, each begun
with `least` octets left. -/
inductive RecordsTo (fields : List Field) (least : Nat) :
    Cursor → List (List Value) → Cursor → Prop where
  | here (c : Cursor) : RecordsTo fields least c [] c
  | record {c c' d : Cursor} {vs : List Value} {rs : List (List Value)} : least ≤ c.remaining →
      readRecord fields c = .ok vs c' → RecordsTo fields least c' rs d →
      RecordsTo fields least c (vs :: rs) d

/-- A record that fails ends the records. -/
theorem RecordsTo.dataRun {fields : List Field} {least : Nat} {c d d' : Cursor}
    {rs : List (List Value)} {e : FieldError} (h : RecordsTo fields least c rs d)
    (hleast : least ≤ d.remaining) (hfails : readRecord fields d = .error e d') :
    DataRun fields least c rs (some e) := by
  induction h with
  | here c => exact .fault hleast hfails
  | record hc hread _ ih => exact .record hc hread (ih hleast hfails)

/-- Where records take no octets, either the first one fails or none does. -/
theorem DataRun.fails_at_once {fields : List Field} {least : Nat} {c : Cursor}
    {rs : List (List Value)} {e : FieldError} (h : DataRun fields least c rs (some e))
    (hzero : Field.minWireLengths fields = 0) : ∃ c', readRecord fields c = .error e c' := by
  generalize hstop : some e = stop at h
  induction h with
  | padding _ => cases hstop
  | fault _ hread =>
    cases hstop
    exact ⟨_, hread⟩
  | record _ hread _ ih =>
    obtain ⟨c', hfails⟩ := ih hstop
    rw [stays_of_minWireLengths hzero hread, hread] at hfails
    cases hfails

/-- Before a record that fails there are at most as many as there are octets. -/
theorem DataRun.length_le_of_fault {fields : List Field} {least : Nat} {c : Cursor}
    {rs : List (List Value)} {e : FieldError} (h : DataRun fields least c rs (some e)) :
    rs.length ≤ c.remaining := by
  rcases Nat.eq_zero_or_pos (Field.minWireLengths fields) with hzero | hpos
  · obtain ⟨c', hfails⟩ := h.fails_at_once hzero
    cases h with
    | fault _ _ => exact Nat.zero_le _
    | record _ hread _ =>
      rw [hread] at hfails
      cases hfails
  · exact h.length_le hpos

/-- Record number `k` of a body is reached, and `f` is the first of its fields to fail, at the place
`c` and with `e`. -/
inductive Template.FailsAt (t : Template) (body : Bytes) :
    (k : Nat) → (f : Field) → (c : Cursor) → (e : FieldError) → Prop where
  | intro {rs : List (List Value)} {start c c' : Cursor} {before after : List Field} {f : Field}
      {vs : List Value} {e : FieldError} :
      RecordsTo t.fields (max t.minRecordLength 1) (Cursor.ofBytes body) rs start →
      max t.minRecordLength 1 ≤ start.remaining → t.fields = before ++ f :: after →
      readRecord before start = .ok vs c → f.decode c = .error e c' →
      FailsAt t body rs.length f c e

/-- A body falls into the records before the first that fails. -/
theorem Template.FailsAt.dataRun {t : Template} {body : Bytes} {k : Nat} {f : Field} {c : Cursor}
    {e : FieldError} (h : t.FailsAt body k f c e) :
    ∃ rs, rs.length = k ∧
      DataRun t.fields (max t.minRecordLength 1) (Cursor.ofBytes body) rs (some e) := by
  obtain @⟨rs, start, _, c', _, _, _, _, _, hrecords, hleast, hfields, hbefore, hf⟩ := h
  have hfails : readRecord t.fields start = .error e c' := by
    rw [hfields]
    exact readRecord_append_error hbefore hf
  exact ⟨rs, rfl, hrecords.dataRun hleast hfails⟩

/-- The records of a body end with the first that fails. -/
theorem Template.records_of_failsAt {t : Template} {body : Bytes} {k : Nat} {f : Field}
    {c : Cursor} {e : FieldError} (h : t.FailsAt body k f c e) :
    (t.records body).records.length = k ∧ (t.records body).stop = some e := by
  obtain ⟨rs, rfl, hrun⟩ := h.dataRun
  rw [records_of_dataRun hrun hrun.length_le_of_fault]
  exact ⟨rfl, rfl⟩

/-! ## 3. Packets -/

/-- **A record that fails ends its set with an issue**, which depends on its failure. -/
theorem Session.issue_of_failsAt (elements : Registry) (h : Header) {s : Session} {set : RawSet}
    {t : Template} {k : Nat} {f : Field} {c : Cursor} {e : FieldError} (hkind : set.kind = .data)
    (ht : s.template? set.id = some t) (hfails : t.FailsAt set.body k f c e) :
    (s.decodeSet elements h set).2.issue = some (.ofRecord set.id k e) := by
  obtain ⟨hlength, hstop⟩ := Template.records_of_failsAt hfails
  rw [decodeSet, hkind]
  simp only [ht, hstop, hlength, Option.map_some]

/-- **What a record that fails does to its packet.**  When the first of its fields to fail takes
more octets than the set has left, or cannot say how many, and its type accepts the length it
declares, the record overruns and the packet is read as if it ended with the set.  Any other
failure ends the set alone, and the sets after it are read.  The set comes to an end in both cases,
so that it is up to the other sets that are read whether the packet does. -/
theorem SessionTable.decode_of_failsAt (elements : Registry) (ss : SessionTable) (now : Nat)
    (exporter : Address) {bs : Bytes} {h : Header} {earlier later : List RawSet} {set : RawSet}
    (hparse : Header.parse bs = .ok h) (hsplit : splitSets h bs = .ok (earlier ++ set :: later)) :
    let s := (ss.session now ⟨exporter, h.domain⟩).touch now
    let s' := (s.decodeSets elements h earlier).1
    ∀ (t : Template) (k : Nat) (f : Field) (c : Cursor) (e : FieldError),
      (∀ y ∈ (s.decodeSets elements h earlier).2, ∀ i, y.issue = some i → ¬i.AbortsPacket) →
      set.kind = .data → s'.template? set.id = some t → t.FailsAt set.body k f c e →
      (f.Overruns c ∧ f.AcceptsDeclared c →
        (s'.decodeSet elements h set).2.issue = some (.recordOverrun set.id k e) ∧
          ss.decode elements now exporter bs
            = (ss.insert (s.receive elements h (earlier ++ [set])).1,
                .ok (s.receive elements h (earlier ++ [set])).2) ∧
          ss.finishes elements now exporter bs = s.finishes elements h earlier) ∧
      (¬(f.Overruns c ∧ f.AcceptsDeclared c) →
        (s'.decodeSet elements h set).2.issue = some (.recordDecode set.id k e) ∧
          ss.decode elements now exporter bs
            = (ss.insert (s.receive elements h (earlier ++ set :: later)).1,
                .ok (s.receive elements h (earlier ++ set :: later)).2) ∧
          (s.decodeSets elements h (earlier ++ set :: later)).2
            = (s.decodeSets elements h earlier).2 ++ (s'.decodeSet elements h set).2 ::
                ((s'.decodeSet elements h set).1.decodeSets elements h later).2 ∧
          ss.finishes elements now exporter bs
            = (s.finishes elements h earlier &&
                (s'.decodeSet elements h set).1.finishes elements h later)) := by
  intro s s' t k f c e hgo hkind ht hfails
  have hdecode := decode_of_framed elements ss now exporter hparse hsplit
  have hends : ss.finishes elements now exporter bs
      = (s.finishes elements h earlier && s'.finishes elements h (set :: later)) := by
    rw [finishes_of_framed elements ss now exporter hparse hsplit, Session.finishes_append hgo]
  have hset : s'.finishesSet set = true := by
    obtain ⟨rs, -, hrun⟩ := hfails.dataRun
    exact Session.finishesSet_of_dataRun ht hrun hrun.length_le_of_fault
  have hissue := Session.issue_of_failsAt elements h hkind ht hfails
  have hover : e.IsOverrun ↔ f.Overruns c ∧ f.AcceptsDeclared c := by
    obtain ⟨-, -, -, -, hf⟩ := hfails
    exact Field.isOverrun_iff hf
  constructor
  · intro hyes
    rw [SetIssue.ofRecord, if_pos (hover.mpr hyes)] at hissue
    have hlast := Session.decodeSets_append_abort hgo hissue trivial later
    have hreceive : s.receive elements h (earlier ++ set :: later)
        = s.receive elements h (earlier ++ [set]) := by
      rw [Session.receive_eq, Session.receive_eq, Session.produced, Session.produced, hlast]
    refine ⟨hissue, ?_, ?_⟩
    · rw [hdecode, hreceive]
    · rw [hends, Session.finishes_cons_abort hissue trivial, hset, Bool.and_true]
  · intro hno
    rw [SetIssue.ofRecord, if_neg fun hyes => hno (hover.mp hyes)] at hissue
    have hnext : ∀ i, (s'.decodeSet elements h set).2.issue = some i → ¬i.AbortsPacket := by
      intro i hi
      rw [hissue] at hi
      cases hi
      exact id
    refine ⟨hissue, hdecode, ?_, ?_⟩
    · rw [Session.decodeSets_append hgo, Session.decodeSets_cons hnext]
    · rw [hends, Session.finishes_cons hnext, hset, Bool.true_and]

/-- A name that is longer than what is left of its set: the name in the next set is not read. -/
theorem long_name_overruns :
    let name : Field := ⟨⟨0, 82, "interfaceName", .string⟩, variableLength⟩
    let K : SessionKey := ⟨.v4 ⟨[192, 0, 2, 1], rfl⟩, 0⟩
    let ss := SessionTable.install .empty 0 K ⟨300, .data, 0, [name]⟩
    let b : Builder := (({} : Builder).data 300 [[200, 1]]).data 300 [[1, 97]]
    ∃ ss' p, ss.decode .empty 0 K.exporter b.build = (ss', .ok p) ∧
      p.issues = [.recordOverrun 300 0 (.read (.short 200 1))] ∧ p.messages = [] := by
  intro name K ss b
  have hlength : b.build.length ≤ 65535 := by decide
  have hfails : Template.FailsAt ⟨300, .data, 0, [name]⟩ [200, 1] 0 name ⟨0, [200, 1]⟩
      (.read (.short 200 1)) :=
    .intro (.here _) (by decide) (List.nil_append _).symm rfl rfl
  have hdeclared : name.declared? ⟨0, [200, 1]⟩ = some (200, ⟨1, [1]⟩) := rfl
  have hover : name.Overruns ⟨0, [200, 1]⟩ ∧ name.AcceptsDeclared ⟨0, [200, 1]⟩ := by
    constructor <;> intro n c hn <;> rw [hdeclared] at hn <;> cases hn <;> decide
  have hsplit : splitSets b.header b.build = .ok ([] ++ ⟨300, [200, 1]⟩ :: [⟨300, [1, 97]⟩]) :=
    Builder.splitSets_build hlength
  obtain ⟨hlast, -⟩ := SessionTable.decode_of_failsAt .empty ss 0 K.exporter
    (Builder.parse_build rfl hlength) hsplit _ _ _ _ _ (fun y hy => nomatch hy) rfl rfl hfails
  obtain ⟨-, hdecode, -⟩ := hlast hover
  exact ⟨_, _, hdecode, by decide, rfl⟩

/-- A number of two hundred octets is refused for its length, although one octet is left: the number
in the next set is read. -/
theorem long_number_is_no_overrun :
    let number : Field := ⟨⟨0, 1, "octetDeltaCount", .unsigned64⟩, variableLength⟩
    let K : SessionKey := ⟨.v4 ⟨[192, 0, 2, 1], rfl⟩, 0⟩
    let ss := SessionTable.install .empty 0 K ⟨300, .data, 0, [number]⟩
    let b : Builder := (({} : Builder).data 300 [[200, 1]]).data 300 [[1, 7]]
    Template.FailsAt ⟨300, .data, 0, [number]⟩ [200, 1] 0 number ⟨0, [200, 1]⟩
        (.invalidLength "octetDeltaCount" 200 1 8) ∧
      number.Overruns ⟨0, [200, 1]⟩ ∧
      ∃ ss' p, ss.decode .empty 0 K.exporter b.build = (ss', .ok p) ∧
        p.issues = [.recordDecode 300 0 (.invalidLength "octetDeltaCount" 200 1 8)] ∧
        p.messages.length = 1 := by
  intro number K ss b
  have hlength : b.build.length ≤ 65535 := by decide
  have hdeclared : number.declared? ⟨0, [200, 1]⟩ = some (200, ⟨1, [1]⟩) := rfl
  have hdecode := SessionTable.decode_of_framed .empty ss 0 K.exporter
    (Builder.parse_build rfl hlength) (Builder.splitSets_build hlength)
  refine ⟨.intro (.here _) (by decide) (List.nil_append _).symm rfl rfl, ?_, _, _, hdecode, ?_, ?_⟩
  · intro n c hn
    rw [hdeclared] at hn
    cases hn
    decide
  · decide
  · decide

end FlowIntake
