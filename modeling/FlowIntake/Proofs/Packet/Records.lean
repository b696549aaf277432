/-
# How a set falls into records

The records of a set are read one after another until what is left is padding or a record is
faulty.  The library reads them with fuel; the relations here say the same without it, one
constructor for each way to go on.

* `Field.IsVacuous`, `exists_readRecord_of_vacuous`, `vacuous_of_readRecord`: records that take no
  octets;
* `DataRun`, `Template.records_of_dataRun`: the records of a data set;
* `exists_dataRun`, `Template.dataRun_records`: where records take octets, every data set falls into
  records, and into those that are read from it;
* `TemplateRun`, `TemplateRecord.readAll_of_templateRun`, `exists_templateRun`: the records of a
  template set, each of which takes octets.

Both relations are functions of the octets, so that a derivation determines what is read.
-/
import FlowIntake.Packet.Sets
import FlowIntake.Proofs.Wire.Reads

namespace FlowIntake

open Reader

/-! ## 1. What records take -/

theorem DataType.advances_decode (t : DataType) (name : String) (n : Nat) :
    Advances n (t.decode name n) := by
  intro c v c' h
  unfold DataType.decode at h
  split at h
  · split at h
    · cases h
    · rename_i bs c₁ htake
      split at h
      · cases h
        exact Cursor.advances_take n c bs c' htake
      · cases h
  · cases h

/-- A field takes at least as many octets as its smallest occurrence. -/
theorem Field.advances_decode (f : Field) : Advances f.minWireLength f.decode := by
  intro c v c' h
  unfold Field.decode at h
  cases hvar : f.isVariable with
  | true =>
    rw [hvar, if_pos rfl] at h
    split at h
    · rename_i n c₁ hlen
      obtain ⟨bs, hrest, hle, hpos⟩ := Cursor.advances_variableLength c n c₁ hlen
      obtain ⟨bs', hrest', -, hpos'⟩ := DataType.advances_decode _ _ _ c₁ v c' h
      refine ⟨bs ++ bs', ?_, ?_, ?_⟩
      · rw [hrest, hrest', List.append_assoc]
      · rw [Field.minWireLength, hvar, if_pos rfl, List.length_append]
        omega
      · rw [hpos', hpos, List.length_append, Nat.add_assoc]
    · cases h
  | false =>
    rw [hvar, if_neg Bool.false_ne_true] at h
    have hmin : f.minWireLength = f.length.toNat := by simp [Field.minWireLength, hvar]
    rw [hmin]
    exact DataType.advances_decode _ _ _ c v c' h

/-- A record takes at least as many octets as the smallest one of its template. -/
theorem advances_readRecord (fs : List Field) :
    Advances (Field.minWireLengths fs) (readRecord fs) := by
  induction fs with
  | nil => exact advances_pure []
  | cons f fs ih =>
    refine advances_bind f.advances_decode fun v => ?_
    exact advances_bind ih fun vs => advances_pure (v :: vs)

/-! ### Records that take nothing

A field takes no octets when its length is zero.  Then it is read without looking at any, and its
data type alone decides whether it has a value. -/

namespace Field

variable {f : Field}

/-- The occurrences of the field take no octets, and its data type accepts that. -/
def IsVacuous (f : Field) : Prop := f.length = 0 ∧ f.element.type.Accepts 0

instance (f : Field) : Decidable f.IsVacuous := by unfold IsVacuous; infer_instance

theorem minWireLength_eq_zero_iff : f.minWireLength = 0 ↔ f.length = 0 := by
  unfold minWireLength isVariable
  constructor
  · intro hzero
    by_cases hvar : f.length = variableLength
    · simp [hvar] at hzero
    · rw [decide_eq_false hvar, if_neg Bool.false_ne_true] at hzero
      exact UInt16.toNat_inj.mp hzero
  · intro hlength
    rw [hlength]
    rfl

/-- A field without octets is read as soon as the length is accepted. -/
theorem decode_of_length_zero (hlength : f.length = 0) (c : Cursor) :
    f.decode c = f.element.type.decode f.element.name 0 c := by
  have hfixed : f.isVariable = false := by
    rw [isVariable, hlength]
    rfl
  rw [decode, hfixed, if_neg Bool.false_ne_true, hlength]
  rfl

end Field

/-- A data type that accepts no octets has a value for them. -/
theorem DataType.exists_interpret_nil {t : DataType} (h : t.Accepts 0) :
    ∃ v, t.interpret [] = some v := by
  cases t <;> first | exact ⟨_, rfl⟩ | exact absurd h (by decide)

/-- A vacuous field has a value wherever it is read, and leaves its place. -/
theorem Field.IsVacuous.exists_decode {f : Field} (h : f.IsVacuous) (c : Cursor) :
    ∃ v, f.decode c = .ok v c := by
  obtain ⟨hlength, haccepts⟩ := h
  obtain ⟨v, hv⟩ := DataType.exists_interpret_nil haccepts
  have htake : Cursor.take 0 c = .ok [] c := by
    rw [Cursor.take_eq, if_pos (Nat.zero_le _)]
    rfl
  refine ⟨v, ?_⟩
  rw [decode_of_length_zero hlength, DataType.decode, if_pos haccepts, htake]
  simp only [hv]

/-- A field without octets whose type does not accept that fails wherever it is read. -/
theorem Field.exists_decode_error {f : Field} (hlength : f.length = 0)
    (hrefused : ¬f.element.type.Accepts 0) (c : Cursor) : ∃ e, f.decode c = .error e c := by
  rw [decode_of_length_zero hlength, DataType.decode, if_neg hrefused]
  exact ⟨_, rfl⟩

theorem minWireLengths_eq_zero_iff {fields : List Field} :
    Field.minWireLengths fields = 0 ↔ ∀ f ∈ fields, f.length = 0 := by
  induction fields with
  | nil => simp [Field.minWireLengths]
  | cons f fields ih =>
    rw [Field.minWireLengths, Nat.add_eq_zero_iff, ih, Field.minWireLength_eq_zero_iff,
      List.forall_mem_cons]

/-- A record of vacuous fields is read wherever one is looked for, and leaves its place. -/
theorem exists_readRecord_of_vacuous {fields : List Field} (h : ∀ f ∈ fields, f.IsVacuous)
    (c : Cursor) : ∃ vs, readRecord fields c = .ok vs c := by
  induction fields with
  | nil => exact ⟨[], rfl⟩
  | cons f fields ih =>
    rw [List.forall_mem_cons] at h
    obtain ⟨v, hv⟩ := h.1.exists_decode c
    obtain ⟨vs, hvs⟩ := ih h.2
    refine ⟨v :: vs, ?_⟩
    rw [readRecord, Reader.bind_ok hv, Reader.bind_ok hvs]
    rfl

/-- Where no field takes octets, only vacuous ones are read. -/
theorem vacuous_of_readRecord {fields : List Field} (hzero : Field.minWireLengths fields = 0)
    {c c' : Cursor} {vs : List Value} (h : readRecord fields c = .ok vs c') :
    ∀ f ∈ fields, f.IsVacuous := by
  induction fields generalizing c c' vs with
  | nil => exact fun f hf => nomatch hf
  | cons f fields ih =>
    rw [Field.minWireLengths, Nat.add_eq_zero_iff] at hzero
    obtain ⟨v, c₁, hf, hlater⟩ := Reader.bind_ok_iff.mp h
    obtain ⟨vs', c₂, hvs, -⟩ := Reader.bind_ok_iff.mp hlater
    have hlength := Field.minWireLength_eq_zero_iff.mp hzero.1
    rw [List.forall_mem_cons]
    refine ⟨⟨hlength, ?_⟩, ih hzero.2 hvs⟩
    by_contra hrefused
    obtain ⟨e, he⟩ := Field.exists_decode_error hlength hrefused c
    rw [he] at hf
    cases hf

/-- Where records take no octets, a record that is read leaves its place for the next. -/
theorem stays_of_minWireLengths {fields : List Field} (hzero : Field.minWireLengths fields = 0)
    {c c' : Cursor} {vs : List Value} (h : readRecord fields c = .ok vs c') : c' = c := by
  obtain ⟨vs', hstays⟩ := exists_readRecord_of_vacuous (vacuous_of_readRecord hzero h) c
  rw [h] at hstays
  cases hstays
  rfl

/-! ## 2. Data sets -/

/-- From a cursor on, a body falls into records of the given fields: each is read in full while
`least` octets are left, and `stop` is the fault of the one after them, when it is not padding that
ends them. -/
inductive DataRun (fields : List Field) (least : Nat) :
    Cursor → List (List Value) → Option FieldError → Prop where
  | padding {c : Cursor} : c.remaining < least → DataRun fields least c [] none
  | fault {c c' : Cursor} {e : FieldError} : least ≤ c.remaining →
      readRecord fields c = .error e c' → DataRun fields least c [] (some e)
  | record {c c' : Cursor} {vs : List Value} {rs : List (List Value)} {stop : Option FieldError} :
      least ≤ c.remaining → readRecord fields c = .ok vs c' → DataRun fields least c' rs stop →
      DataRun fields least c (vs :: rs) stop

theorem atLeast_iff {n : Nat} {c : Cursor} : c.rest.atLeast n = true ↔ n ≤ c.remaining := by
  simp [Cursor.remaining]

/-- **The loop reads what the body falls into**, with fuel for one more record than there are. -/
theorem readRecords?_of_dataRun {fields : List Field} {least : Nat} {c : Cursor}
    {rs : List (List Value)} {stop : Option FieldError} (h : DataRun fields least c rs stop)
    {fuel : Nat} (hfuel : rs.length < fuel) (read : List (List Value)) :
    readRecords? fields least fuel read c = some ⟨read.reverse ++ rs, stop⟩ := by
  induction h generalizing fuel read with
  | @padding c hshort =>
    cases fuel with
    | zero => cases hfuel
    | succ fuel =>
      have hno : ¬c.rest.atLeast least = true := fun hall => by
        have := atLeast_iff.mp hall
        omega
      rw [readRecords?, if_neg hno, List.append_nil]
  | @fault c c' e hleast hread =>
    cases fuel with
    | zero => cases hfuel
    | succ fuel => rw [readRecords?, if_pos (atLeast_iff.mpr hleast), hread, List.append_nil]
  | @record c c' vs rs stop hleast hread _ ih =>
    cases fuel with
    | zero => cases hfuel
    | succ fuel =>
      rw [readRecords?, if_pos (atLeast_iff.mpr hleast), hread]
      simp only
      rw [ih (Nat.lt_of_succ_lt_succ hfuel), List.reverse_cons, List.append_assoc]
      rfl

/-- Records that take octets are at most as many as the octets. -/
theorem DataRun.length_le {fields : List Field} {least : Nat} {c : Cursor}
    {rs : List (List Value)} {stop : Option FieldError} (h : DataRun fields least c rs stop)
    (hpos : 1 ≤ Field.minWireLengths fields) : rs.length ≤ c.remaining := by
  induction h with
  | padding _ => exact Nat.zero_le _
  | fault _ _ => exact Nat.zero_le _
  | record _ hread _ ih =>
    have htaken := (advances_readRecord fields).remaining_le hread
    rw [List.length_cons]
    omega

/-- **Every body falls into records**, where records take octets. -/
theorem exists_dataRun {fields : List Field} (least : Nat)
    (hpos : 1 ≤ Field.minWireLengths fields) (c : Cursor) :
    ∃ rs stop, DataRun fields least c rs stop := by
  -- on the number of octets left, of which a record takes at least one
  induction hn : c.remaining using Nat.strong_induction_on generalizing c with
  | _ n ih =>
    rcases Nat.lt_or_ge c.remaining least with hshort | hleast
    · exact ⟨[], none, .padding hshort⟩
    · cases hread : readRecord fields c with
      | ok vs c' =>
        have htaken := (advances_readRecord fields).remaining_le hread
        obtain ⟨rs, stop, hrun⟩ := ih c'.remaining (by omega) c' rfl
        exact ⟨vs :: rs, stop, .record hleast hread hrun⟩
      | error e c' => exact ⟨[], some e, .fault hleast hread⟩

/-- **The records of a data set** are those it falls into. -/
theorem Template.records_of_dataRun {t : Template} {body : Bytes} {rs : List (List Value)}
    {stop : Option FieldError}
    (h : DataRun t.fields (max t.minRecordLength 1) (Cursor.ofBytes body) rs stop)
    (hlen : rs.length ≤ body.length) : t.records body = ⟨rs, stop⟩ := by
  rw [Template.records, Template.records?,
    readRecords?_of_dataRun h (Nat.lt_succ_of_le hlen) []]
  rfl

/-- A set whose body falls into records comes to an end. -/
theorem Session.finishesSet_of_dataRun {s : Session} {set : RawSet} {t : Template}
    {rs : List (List Value)} {stop : Option FieldError} (ht : s.template? set.id = some t)
    (h : DataRun t.fields (max t.minRecordLength 1) (Cursor.ofBytes set.body) rs stop)
    (hlen : rs.length ≤ set.body.length) : s.finishesSet set = true := by
  rw [finishesSet]
  split
  · rename_i t' _ ht'
    obtain rfl := Option.some.inj (ht.symm.trans ht')
    exact congrArg Option.isSome (readRecords?_of_dataRun h (Nat.lt_succ_of_le hlen) [])
  · rfl

/-- **What is read from a data set is what it falls into**, where records take octets. -/
theorem Template.dataRun_records {t : Template} (hpos : 0 < t.minRecordLength) (body : Bytes) :
    DataRun t.fields (max t.minRecordLength 1) (Cursor.ofBytes body) (t.records body).records
      (t.records body).stop := by
  obtain ⟨rs, stop, hrun⟩ := exists_dataRun (max t.minRecordLength 1) hpos (Cursor.ofBytes body)
  rw [records_of_dataRun hrun (hrun.length_le hpos)]
  exact hrun

/-- What the loop gives, if anything, is what the body falls into, after what was read before. -/
theorem dataRun_of_readRecords? {fields : List Field} {least fuel : Nat} {c : Cursor}
    {read : List (List Value)} {run : RecordRun}
    (h : readRecords? fields least fuel read c = some run) :
    ∃ rs, run.records = read.reverse ++ rs ∧ DataRun fields least c rs run.stop := by
  induction fuel generalizing read c with
  | zero => cases h
  | succ fuel ih =>
    rw [readRecords?] at h
    by_cases hleast : least ≤ c.remaining
    · rw [if_pos (atLeast_iff.mpr hleast)] at h
      cases hread : readRecord fields c with
      | ok vs c' =>
        rw [hread] at h
        obtain ⟨rs, hrecords, hrun⟩ := ih h
        rw [List.reverse_cons, List.append_assoc] at hrecords
        exact ⟨vs :: rs, hrecords, .record hleast hread hrun⟩
      | error e c' =>
        rw [hread] at h
        cases h
        exact ⟨[], (List.append_nil _).symm, .fault hleast hread⟩
    · rw [if_neg (mt atLeast_iff.mp hleast)] at h
      cases h
      exact ⟨[], (List.append_nil _).symm, .padding (Nat.lt_of_not_le hleast)⟩

/-- A data set that ends with a fault falls into the records before it, whatever its template. -/
theorem Template.dataRun_of_stop {t : Template} {body : Bytes} {e : FieldError}
    (h : (t.records body).stop = some e) :
    DataRun t.fields (max t.minRecordLength 1) (Cursor.ofBytes body) (t.records body).records
      (some e) := by
  unfold records at h ⊢
  cases hrun : t.records? (body.length + 1) body with
  | none =>
    rw [hrun] at h
    cases h
  | some run =>
    rw [hrun] at h
    obtain ⟨rs, hrecords, hfalls⟩ := dataRun_of_readRecords? hrun
    have hstop : run.stop = some e := h
    have hall : run.records = rs := hrecords
    rw [hstop, ← hall] at hfalls
    exact hfalls

/-- A record has one value for each field. -/
theorem length_of_readRecord {fields : List Field} {c c' : Cursor} {vs : List Value}
    (h : readRecord fields c = .ok vs c') : vs.length = fields.length := by
  induction fields generalizing c vs with
  | nil =>
    cases h
    rfl
  | cons f fields ih =>
    obtain ⟨v, c₁, -, h⟩ := Reader.bind_ok_iff.mp h
    obtain ⟨vs', c₂, hvs, h⟩ := Reader.bind_ok_iff.mp h
    cases h
    exact congrArg Nat.succ (ih hvs)

theorem DataRun.length_of_mem {fields : List Field} {least : Nat} {c : Cursor}
    {rs : List (List Value)} {stop : Option FieldError} (h : DataRun fields least c rs stop)
    {vs : List Value} (hvs : vs ∈ rs) : vs.length = fields.length := by
  induction h with
  | padding _ => cases hvs
  | fault _ _ => cases hvs
  | record _ hread _ ih =>
    rcases List.mem_cons.mp hvs with rfl | hlater
    · exact length_of_readRecord hread
    · exact ih hlater

/-! ## 3. Template sets -/

open TemplateRecord

theorem advances_reading {α : Type} {n : Nat} {r : Reader ReadError α} (h : Advances n r) :
    Advances n (reading r) := by
  intro c a c' hr
  unfold reading at hr
  split at hr
  · rename_i b c₁ hb
    cases hr
    exact h c a c' hb
  · cases hr

theorem TemplateRecord.advances_field (elements : Registry) : Advances 0 (field elements) := by
  refine advances_bind_zero (advances_reading Cursor.advances_u16) fun raw => ?_
  refine advances_bind_zero (advances_reading Cursor.advances_u16) fun length => ?_
  split
  · exact advances_pure _
  · exact advances_bind_zero (advances_reading Cursor.advances_u32) fun _ => advances_pure _

theorem TemplateRecord.advances_fields (elements : Registry) (n : Nat) (read : List Field) :
    Advances 0 (fields elements n read) := by
  induction n generalizing read with
  | zero => exact advances_pure _
  | succ n ih => exact advances_bind (advances_field elements) fun f => ih (f :: read)

theorem TemplateRecord.advances_scopeCount (kind : TemplateKind) (id count : UInt16) :
    Advances 0 (scopeCount kind id count) := by
  cases kind with
  | data => exact advances_pure 0
  | options =>
    refine advances_bind_zero (advances_reading Cursor.advances_u16) fun n => ?_
    split
    · exact advances_throw_bind 0 _ _
    · exact advances_pure _

/-- A template record takes at least the four octets of its identifier and its number of
fields. -/
theorem TemplateRecord.advances_parse (kind : TemplateKind) (elements : Registry) :
    Advances minLength (parse kind elements) := by
  refine advances_bind (m := 2) (n := 2) (advances_reading Cursor.advances_u16) fun id => ?_
  refine advances_bind (m := 2) (n := 0) (advances_reading Cursor.advances_u16) fun count => ?_
  split
  · split
    · exact advances_throw_bind 0 _ _
    · exact advances_pure _
  · split
    · exact advances_throw_bind 0 _ _
    · refine advances_bind_zero (advances_scopeCount kind id count) fun scopes => ?_
      refine advances_bind_zero (advances_fields elements _ _) fun fs => ?_
      dsimp only
      split
      · exact advances_throw_bind 0 _ _
      · exact advances_pure _

/-- From a cursor on, a template set falls into records: each is read in full while a record's
octets are left, and `stop` says what is wrong with the one after them, when it is not padding
that ends them. -/
inductive TemplateRun (kind : TemplateKind) (elements : Registry) :
    Cursor → List TemplateRecord → Option TemplateError → Prop where
  | padding {c : Cursor} : c.remaining < minLength → TemplateRun kind elements c [] none
  | malformed {c c' : Cursor} {e : TemplateError} : minLength ≤ c.remaining →
      parse kind elements c = .error e c' → TemplateRun kind elements c [] (some e)
  | record {c c' : Cursor} {r : TemplateRecord} {rs : List TemplateRecord}
      {stop : Option TemplateError} : minLength ≤ c.remaining →
      parse kind elements c = .ok r c' → TemplateRun kind elements c' rs stop →
      TemplateRun kind elements c (r :: rs) stop

/-- **The loop reads what the set falls into**, with as much fuel as there are octets. -/
theorem TemplateRecord.readFrom_of_templateRun {kind : TemplateKind} {elements : Registry}
    {c : Cursor} {rs : List TemplateRecord} {stop : Option TemplateError}
    (h : TemplateRun kind elements c rs stop) {fuel : Nat} (hfuel : c.remaining ≤ fuel)
    (read : List TemplateRecord) :
    readFrom kind elements fuel read c = (read.reverse ++ rs, stop) := by
  induction h generalizing fuel read with
  | @padding c hshort =>
    rw [List.append_nil]
    cases fuel with
    | zero => rfl
    | succ fuel =>
      have hno : ¬c.rest.atLeast minLength = true := fun hall => by
        have := atLeast_iff.mp hall
        omega
      rw [readFrom, if_neg hno]
  | @malformed c c' e hleast hparse =>
    cases fuel with
    | zero => exact absurd (hleast.trans hfuel) (by decide)
    | succ fuel => rw [readFrom, if_pos (atLeast_iff.mpr hleast), hparse, List.append_nil]
  | @record c c' r rs stop hleast hparse _ ih =>
    cases fuel with
    | zero => exact absurd (hleast.trans hfuel) (by decide)
    | succ fuel =>
      have htaken := (advances_parse kind elements).remaining_le hparse
      have hmin : minLength = 4 := rfl
      rw [readFrom, if_pos (atLeast_iff.mpr hleast), hparse]
      simp only
      rw [ih (by omega), List.reverse_cons, List.append_assoc]
      rfl

/-- **Every template set falls into records.** -/
theorem exists_templateRun (kind : TemplateKind) (elements : Registry) (c : Cursor) :
    ∃ rs stop, TemplateRun kind elements c rs stop := by
  induction hn : c.remaining using Nat.strong_induction_on generalizing c with
  | _ n ih =>
    rcases Nat.lt_or_ge c.remaining minLength with hshort | hleast
    · exact ⟨[], none, .padding hshort⟩
    · cases hparse : parse kind elements c with
      | ok r c' =>
        have htaken := (advances_parse kind elements).remaining_le hparse
        have hmin : minLength = 4 := rfl
        obtain ⟨rs, stop, hrun⟩ := ih c'.remaining (by omega) c' rfl
        exact ⟨r :: rs, stop, .record hleast hparse hrun⟩
      | error e c' => exact ⟨[], some e, .malformed hleast hparse⟩

/-- **The records of a template set** are those it falls into. -/
theorem TemplateRecord.readAll_of_templateRun {kind : TemplateKind} {elements : Registry}
    {body : Bytes} {rs : List TemplateRecord} {stop : Option TemplateError}
    (h : TemplateRun kind elements (Cursor.ofBytes body) rs stop) :
    readAll kind elements body = (rs, stop) :=
  readFrom_of_templateRun h (Nat.le_refl _) []

/-- What is read from a template set is what the set falls into. -/
theorem TemplateRecord.templateRun_readAll (kind : TemplateKind) (elements : Registry)
    (body : Bytes) :
    TemplateRun kind elements (Cursor.ofBytes body) (readAll kind elements body).1
      (readAll kind elements body).2 := by
  obtain ⟨rs, stop, hrun⟩ := exists_templateRun kind elements (Cursor.ofBytes body)
  rw [readAll_of_templateRun hrun]
  exact hrun

end FlowIntake
