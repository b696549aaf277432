/-
# Templates are read back as they were announced

An exporter announces a template of either kind by its identifier and one description for each
field.  `Layout` is what it announces, `Layout.template` the template a collector is to install,
and `Layout.Announceable` what a template must satisfy to be accepted at all.

* `FieldSpec.field_append`: the description of a field is read back, with and without an
  enterprise number;
* `Layout.parse_append`: the record is read back as the definition of the template, whatever
  follows it.
-/
import FlowIntake.Proofs.Wire.Reads
import Mathlib.Data.Nat.Bitwise

namespace FlowIntake

/-! ## 1. What is announced -/

/-- The field that a description means to a collector with these elements. -/
def FieldSpec.field (elements : Registry) (f : FieldSpec) : Field :=
  ⟨elements.resolve (f.enterprise.getD Element.publicEnterprise) f.id, f.length⟩

/-- A template as its exporter knows it.  A data template has no scope fields, whatever `scopes`
says. -/
structure Layout where
  id : UInt16
  kind : TemplateKind
  scopes : UInt16
  specs : List FieldSpec
deriving DecidableEq

namespace Layout

/-- How many of the fields are scope fields. -/
def scopeCount (l : Layout) : Nat :=
  match l.kind with
  | .data => 0
  | .options => l.scopes.toNat

/-- The template that is to be installed. -/
def template (elements : Registry) (l : Layout) : Template :=
  ⟨l.id, l.kind, l.scopeCount, l.specs.map fun f => f.field elements⟩

/-- Appends the set that announces the template. -/
def announce (l : Layout) (b : Builder) : Builder :=
  match l.kind with
  | .data => b.template l.id l.specs
  | .options => b.optionsTemplate l.id l.scopes l.specs

/-- What makes a template acceptable: an identifier above those of sets, at least one field,
identifiers of elements of fifteen bits, records of at least one octet, and in an options template
at least one scope field and no more than there are fields. -/
structure Announceable (elements : Registry) (l : Layout) : Prop where
  id_ge : minDataSetId ≤ l.id
  specs_ne : l.specs ≠ []
  id_lt : ∀ f ∈ l.specs, f.id.toNat < 0x8000
  least_pos : 1 ≤ (l.template elements).minRecordLength
  scopes_pos : l.kind = .options → 1 ≤ l.scopes.toNat
  scopes_le : l.kind = .options → l.scopes.toNat ≤ l.specs.length

/-- The octets that say how many fields are scope fields; data templates have none. -/
def scopeBytes (l : Layout) : Bytes :=
  match l.kind with
  | .data => []
  | .options => Bytes.ofNat 2 l.scopes.toNat

/-- The octets of the record that defines the template. -/
def bytes (l : Layout) : Bytes :=
  Bytes.ofNat 2 l.id.toNat ++ Bytes.ofNat 2 l.specs.length ++ l.scopeBytes ++
    l.specs.flatMap FieldSpec.bytes

/-- The announcement is one set of one record. -/
theorem announce_eq (l : Layout) (b : Builder) : l.announce b = b.set l.kind.setId l.bytes := by
  unfold announce bytes scopeBytes
  cases l.kind with
  | data => rw [List.append_nil]; rfl
  | options => rfl

end Layout

/-! ## 2. Descriptions of fields -/

open TemplateRecord

section Bits

variable {a b : UInt16}

/-- A bit that was not set is cleared again by the second change. -/
theorem or_xor_of_and_eq_zero (h : a &&& b = 0) : (a ||| b) ^^^ b = a := by
  rw [← UInt16.toBitVec_inj] at h ⊢
  ext i hi
  have hbit := congrArg (fun v => v[i]) h
  simp only [UInt16.toBitVec_and, BitVec.getElem_and] at hbit
  simp only [UInt16.toBitVec_xor, UInt16.toBitVec_or, BitVec.getElem_xor, BitVec.getElem_or]
  cases ha : a.toBitVec[i] <;> cases hb : b.toBitVec[i] <;> simp_all

theorem or_and_self_right : (a ||| b) &&& b = b := by
  rw [← UInt16.toBitVec_inj]
  ext i hi
  simp only [UInt16.toBitVec_and, UInt16.toBitVec_or, BitVec.getElem_and, BitVec.getElem_or]
  cases a.toBitVec[i] <;> cases b.toBitVec[i] <;> rfl

theorem toNat_enterpriseBit : enterpriseBit.toNat = 2 ^ 15 := by decide

theorem and_enterpriseBit_eq_zero_iff {raw : UInt16} :
    raw &&& enterpriseBit = 0 ↔ raw.toNat.testBit 15 = false := by
  rw [← UInt16.toNat_inj, UInt16.toNat_and, toNat_enterpriseBit, Nat.and_two_pow]
  cases raw.toNat.testBit 15 <;> simp

/-- An identifier of fifteen bits does not say that an enterprise number follows. -/
theorem and_enterpriseBit (h : a.toNat < 0x8000) : a &&& enterpriseBit = 0 := by
  rw [and_enterpriseBit_eq_zero_iff]
  exact Nat.testBit_lt_two_pow h

/-- An identifier without the bit of an enterprise number has fifteen bits. -/
theorem toNat_lt_of_and_eq_zero {raw : UInt16} (h : raw &&& enterpriseBit = 0) :
    raw.toNat < 0x8000 := by
  have hlt := raw.toNat_lt
  rw [and_enterpriseBit_eq_zero_iff, Nat.testBit_eq_decide_div_mod_eq,
    decide_eq_false_iff_not] at h
  omega

/-- One that has the bit loses it. -/
theorem xor_enterpriseBit_and {raw : UInt16} (h : ¬raw &&& enterpriseBit = 0) :
    (raw ^^^ enterpriseBit) &&& enterpriseBit = 0 := by
  rw [and_enterpriseBit_eq_zero_iff, Bool.not_eq_false] at h
  rw [and_enterpriseBit_eq_zero_iff, UInt16.toNat_xor, toNat_enterpriseBit, Nat.testBit_xor,
    Nat.testBit_two_pow_self, h]
  rfl

/-- The bit that is taken off is put back. -/
theorem xor_or_enterpriseBit {raw : UInt16} (h : ¬raw &&& enterpriseBit = 0) :
    (raw ^^^ enterpriseBit) ||| enterpriseBit = raw := by
  rw [and_enterpriseBit_eq_zero_iff, Bool.not_eq_false] at h
  rw [← UInt16.toNat_inj, UInt16.toNat_or, UInt16.toNat_xor, toNat_enterpriseBit]
  refine Nat.eq_of_testBit_eq fun i => ?_
  rw [Nat.testBit_or, Nat.testBit_xor, Nat.testBit_two_pow]
  by_cases hi : 15 = i
  · subst hi
    simp [h]
  · simp [hi]

end Bits

namespace TemplateRecord

theorem reading_ok_iff {α : Type} {r : Reader ReadError α} {c c' : Cursor} {a : α} :
    reading r c = .ok a c' ↔ r c = .ok a c' := by
  unfold reading
  cases r c <;> simp

theorem reading_ok {α : Type} {r : Reader ReadError α} {c c' : Cursor} {a : α}
    (h : r c = .ok a c') : reading r c = .ok a c' :=
  reading_ok_iff.mpr h

end TemplateRecord

/-- **The description of a field is read back**, whatever follows. -/
theorem FieldSpec.field_append (elements : Registry) {f : FieldSpec} (h : f.id.toNat < 0x8000)
    (p : Nat) (rest : Bytes) :
    TemplateRecord.field elements ⟨p, f.bytes ++ rest⟩
      = .ok (f.field elements) ⟨p + f.bytes.length, rest⟩ := by
  have hlow := and_enterpriseBit h
  unfold TemplateRecord.field FieldSpec.bytes FieldSpec.field
  cases f.enterprise with
  | none =>
    simp only [List.append_assoc]
    rw [Reader.bind_ok (reading_ok (Cursor.u16_ofNat p f.id _)),
      Reader.bind_ok (reading_ok (Cursor.u16_ofNat _ f.length _)), if_pos hlow]
    simp [pure, EStateM.pure]
  | some enterprise =>
    have hne : ¬(f.id ||| enterpriseBit) &&& enterpriseBit = 0 := by
      rw [or_and_self_right]
      decide
    simp only [List.append_assoc]
    rw [Reader.bind_ok (reading_ok (Cursor.u16_ofNat p (f.id ||| enterpriseBit) _)),
      Reader.bind_ok (reading_ok (Cursor.u16_ofNat _ f.length _)), if_neg hne,
      Reader.bind_ok (reading_ok (Cursor.u32_ofNat _ enterprise _)), or_xor_of_and_eq_zero hlow]
    simp [pure, EStateM.pure]

theorem FieldSpec.length_bytes_pos (f : FieldSpec) : 4 ≤ f.bytes.length := by
  unfold bytes
  cases f.enterprise <;> simp

/-- **The descriptions of all fields are read back**, after those already read. -/
theorem TemplateRecord.fields_append (elements : Registry) {specs : List FieldSpec}
    (h : ∀ f ∈ specs, f.id.toNat < 0x8000) (read : List Field) (p : Nat) (rest : Bytes) :
    fields elements specs.length read ⟨p, specs.flatMap FieldSpec.bytes ++ rest⟩
      = .ok (read.reverse ++ specs.map fun f => f.field elements)
          ⟨p + (specs.flatMap FieldSpec.bytes).length, rest⟩ := by
  induction specs generalizing read p with
  | nil => simp [fields, pure, EStateM.pure]
  | cons f specs ih =>
    rw [List.flatMap_cons, List.append_assoc, List.length_cons, fields,
      Reader.bind_ok (FieldSpec.field_append elements (h f List.mem_cons_self) p _),
      ih (fun g hg => h g (List.mem_cons_of_mem f hg)), List.reverse_cons, List.append_assoc,
      List.length_append, Nat.add_assoc]
    rfl

/-! ## 3. The record of a template -/

namespace Layout

theorem minLength_le_bytes (l : Layout) : TemplateRecord.minLength ≤ l.bytes.length := by
  simp only [bytes, TemplateRecord.minLength, List.length_append, Bytes.length_ofNat]
  omega

/-- A record has at least four octets for each field. -/
theorem specs_le_bytes (l : Layout) : 4 * l.specs.length ≤ l.bytes.length := by
  have h : ∀ specs : List FieldSpec, 4 * specs.length ≤ (specs.flatMap FieldSpec.bytes).length := by
    intro specs
    induction specs with
    | nil => simp
    | cons f specs ih =>
      have hf := f.length_bytes_pos
      rw [List.flatMap_cons, List.length_append, List.length_cons]
      omega
  have hspecs := h l.specs
  simp only [bytes, List.length_append, Bytes.length_ofNat]
  omega

/-- The number of scope fields is read back where there is one. -/
theorem scopeCount_append {elements : Registry} {l : Layout} (h : l.Announceable elements)
    {count : UInt16} (hcount : count.toNat = l.specs.length) (p : Nat) (rest : Bytes) :
    TemplateRecord.scopeCount l.kind l.id count ⟨p, l.scopeBytes ++ rest⟩
      = .ok l.scopeCount ⟨p + l.scopeBytes.length, rest⟩ := by
  unfold TemplateRecord.scopeCount scopeBytes scopeCount
  cases hkind : l.kind with
  | data => rfl
  | options =>
    have hpos := h.scopes_pos hkind
    have hle := h.scopes_le hkind
    have hbad : ¬(l.scopes = 0 ∨ count < l.scopes) := by
      rintro (hzero | hlt)
      · rw [hzero] at hpos
        exact absurd hpos (by decide)
      · rw [UInt16.lt_iff_toNat_lt] at hlt
        omega
    dsimp only
    rw [Reader.bind_ok (reading_ok (Cursor.u16_ofNat p l.scopes _)), if_neg hbad,
      Bytes.length_ofNat]
    rfl

/-- **The record of a template is read back as its definition**, whatever follows. -/
theorem parse_append {elements : Registry} {l : Layout} (h : l.Announceable elements)
    (hsize : l.specs.length < 65536) (p : Nat) (rest : Bytes) :
    TemplateRecord.parse l.kind elements ⟨p, l.bytes ++ rest⟩
      = .ok (.definition (l.template elements)) ⟨p + l.bytes.length, rest⟩ := by
  have hcount : (UInt16.ofNat l.specs.length).toNat = l.specs.length := by
    rw [UInt16.toNat_ofNat', Nat.mod_eq_of_lt hsize]
  have hne : ¬UInt16.ofNat l.specs.length = 0 := by
    intro hzero
    rw [hzero] at hcount
    exact h.specs_ne (List.length_eq_zero_iff.mp hcount.symm)
  have hid : ¬l.id < minDataSetId := UInt16.not_lt.mpr h.id_ge
  have hleast : ¬(l.template elements).minRecordLength = 0 := by
    have := h.least_pos
    omega
  have hfields := fields_append elements h.id_lt []
    (p + 2 + 2 + l.scopeBytes.length) rest
  rw [List.reverse_nil, List.nil_append] at hfields
  unfold template at hleast ⊢
  unfold TemplateRecord.parse bytes
  rw [← hcount]
  simp only [List.append_assoc]
  rw [Reader.bind_ok (reading_ok (Cursor.u16_ofNat p l.id _)),
    Reader.bind_ok (reading_ok (Cursor.u16_ofNat _ (UInt16.ofNat l.specs.length) _)),
    if_neg hne, if_neg hid, Reader.bind_ok (scopeCount_append h hcount _ _), hcount,
    Reader.bind_ok hfields, if_neg hleast]
  simp only [pure, EStateM.pure, List.length_append, Bytes.length_ofNat, EStateM.Result.ok.injEq,
    Cursor.mk.injEq, true_and, and_true]
  omega

end Layout

end FlowIntake
