/-
# The octets of a template record

A template record defines a template or withdraws one.  The octets of both are laid down here
without a reader: those of a definition by its `Layout`, those of a withdrawal by its identifier.
The reader accepts exactly these octets, gives what they say and stops right behind them.

* `Layout.Legal`, `TemplateRecord.Spells`: the records there are, and their octets;
* `Cursor.Spans`: what stands between two places;
* `TemplateRecord.spells_of_parse`, `TemplateRecord.Spells.parse_append`: what is read is spelled,
  and what is spelled is read;
* `Template.layout`: how a template that was read is announced again;
* `TemplateRecord.parse_exactly`: all of it in one.
-/
import FlowIntake.Proofs.Packet.Records
import FlowIntake.Proofs.Template.RoundTrip
import Mathlib.Algebra.Order.BigOperators.Group.List

namespace FlowIntake

/-! ## 1. The records there are -/

/-- What a definition may say: an identifier above those of sets, a number of fields that fits its
two octets, identifiers of elements of fifteen bits, a field that is not empty, and in an options
template at least one scope field and no more than there are fields. -/
structure Layout.Legal (l : Layout) : Prop where
  id_ge : minDataSetId ≤ l.id
  specs_lt : l.specs.length < 65536
  id_lt : ∀ f ∈ l.specs, f.id.toNat < 0x8000
  length_ne : ∃ f ∈ l.specs, f.length ≠ 0
  scopes_pos : l.kind = .options → 1 ≤ l.scopes.toNat
  scopes_le : l.kind = .options → l.scopes.toNat ≤ l.specs.length

/-- The octets of a withdrawal: an identifier, and no fields. -/
def withdrawalBytes (id : UInt16) : Bytes := Bytes.ofNat 2 id.toNat ++ Bytes.ofNat 2 0

/-- The records that a set of the given kind may hold, and the octets of each. -/
inductive TemplateRecord.Spells (kind : TemplateKind) (elements : Registry) :
    TemplateRecord → Bytes → Prop where
  | definition {l : Layout} : l.Legal → l.kind = kind →
      Spells kind elements (.definition (l.template elements)) l.bytes
  | withdrawal {id : UInt16} : minDataSetId ≤ id ∨ id = kind.setId →
      Spells kind elements (.withdrawal id) (withdrawalBytes id)

/-- The records of a template take octets when one of its fields does. -/
theorem Layout.minRecordLength_pos_iff (elements : Registry) (l : Layout) :
    1 ≤ (l.template elements).minRecordLength ↔ ∃ f ∈ l.specs, f.length ≠ 0 := by
  have hzero : (l.template elements).minRecordLength = 0 ↔ ∀ f ∈ l.specs, f.length = 0 := by
    rw [Template.minRecordLength, minWireLengths_eq_zero_iff, template, List.forall_mem_map]
    rfl
  rw [Nat.one_le_iff_ne_zero, Ne, hzero]
  simp only [not_forall, exists_prop, Ne]

/-- A legal definition is one that a collector accepts. -/
theorem Layout.Legal.announceable {l : Layout} (h : l.Legal) (elements : Registry) :
    l.Announceable elements where
  id_ge := h.id_ge
  specs_ne := by
    obtain ⟨f, hf, -⟩ := h.length_ne
    exact List.ne_nil_of_mem hf
  id_lt := h.id_lt
  least_pos := (l.minRecordLength_pos_iff elements).mpr h.length_ne
  scopes_pos := h.scopes_pos
  scopes_le := h.scopes_le

/-! ## 2. What is spelled is read -/

namespace TemplateRecord

variable {kind : TemplateKind} {elements : Registry} {r : TemplateRecord} {bs : Bytes}

/-- The octets of a withdrawal are read back, whatever follows. -/
theorem parse_withdrawal {id : UInt16} (h : minDataSetId ≤ id ∨ id = kind.setId) (p : Nat)
    (rest : Bytes) : parse kind elements ⟨p, withdrawalBytes id ++ rest⟩
      = .ok (.withdrawal id) ⟨p + 4, rest⟩ := by
  have hid : ¬(id ≠ kind.setId ∧ id < minDataSetId) := by
    rintro ⟨hne, hlt⟩
    rcases h with hge | heq
    · exact UInt16.not_lt.mpr hge hlt
    · exact hne heq
  have hcount : Bytes.ofNat 2 0 = Bytes.ofNat 2 (0 : UInt16).toNat := rfl
  unfold parse withdrawalBytes
  rw [List.append_assoc, hcount, Reader.bind_ok (reading_ok (Cursor.u16_ofNat p id _)),
    Reader.bind_ok (reading_ok (Cursor.u16_ofNat _ 0 _)), if_pos rfl, if_neg hid]
  rfl

/-- **What is spelled is read**, whatever follows. -/
theorem Spells.parse_append (h : Spells kind elements r bs) (p : Nat) (rest : Bytes) :
    parse kind elements ⟨p, bs ++ rest⟩ = .ok r ⟨p + bs.length, rest⟩ := by
  cases h with
  | definition hlegal hkind =>
    subst hkind
    exact Layout.parse_append (hlegal.announceable elements) hlegal.specs_lt p rest
  | withdrawal hid =>
    rw [parse_withdrawal hid]
    rfl

end TemplateRecord

/-! ## 3. What is read is spelled -/

/-- From the first place to the second stand these octets. -/
def Cursor.Spans (c : Cursor) (bs : Bytes) (c' : Cursor) : Prop :=
  c.rest = bs ++ c'.rest ∧ c'.position = c.position + bs.length

namespace Cursor

variable {c c₁ c' : Cursor} {bs bs' : Bytes}

theorem Spans.nil (c : Cursor) : c.Spans [] c := ⟨rfl, rfl⟩

theorem Spans.append (h : c.Spans bs c₁) (h' : c₁.Spans bs' c') : c.Spans (bs ++ bs') c' := by
  obtain ⟨hrest, hposition⟩ := h
  obtain ⟨hrest', hposition'⟩ := h'
  constructor
  · rw [hrest, hrest', List.append_assoc]
  · rw [hposition', hposition, List.length_append, Nat.add_assoc]

/-- The octets that are taken are those of their number. -/
theorem spans_of_take {n : Nat} (h : take n c = .ok bs c') :
    c.Spans (Bytes.ofNat n bs.value) c' ∧ bs.value < Bytes.capacity n := by
  obtain ⟨hrest, rfl, hposition⟩ := take_ok_iff.mp h
  rw [Bytes.ofNat_value]
  exact ⟨⟨hrest, hposition⟩, bs.value_lt⟩

theorem spans_of_u16 {v : UInt16} (h : u16 c = .ok v c') : c.Spans (Bytes.ofNat 2 v.toNat) c' := by
  obtain ⟨bs, htake, rfl⟩ := Reader.map_ok_iff.mp h
  obtain ⟨hspans, hlt⟩ := spans_of_take htake
  have hfits : bs.value < 2 ^ 16 := hlt
  rwa [UInt16.toNat_ofNat', Nat.mod_eq_of_lt hfits]

theorem spans_of_u32 {v : UInt32} (h : u32 c = .ok v c') : c.Spans (Bytes.ofNat 4 v.toNat) c' := by
  obtain ⟨bs, htake, rfl⟩ := Reader.map_ok_iff.mp h
  obtain ⟨hspans, hlt⟩ := spans_of_take htake
  have hfits : bs.value < 2 ^ 32 := hlt
  rwa [UInt32.toNat_ofNat', Nat.mod_eq_of_lt hfits]

end Cursor

namespace TemplateRecord

variable {kind : TemplateKind} {elements : Registry} {c c' : Cursor}

/-- A field that is read has a description, which is what was read. -/
theorem spells_of_field {f : Field} (h : field elements c = .ok f c') :
    ∃ spec : FieldSpec, spec.id.toNat < 0x8000 ∧ f = spec.field elements ∧
      c.Spans spec.bytes c' := by
  obtain ⟨raw, c₁, hraw, h⟩ := Reader.bind_ok_iff.mp h
  obtain ⟨length, c₂, hlength, h⟩ := Reader.bind_ok_iff.mp h
  have hid := Cursor.spans_of_u16 (reading_ok_iff.mp hraw)
  have hsize := Cursor.spans_of_u16 (reading_ok_iff.mp hlength)
  split at h
  · rename_i hlow
    cases h
    exact ⟨⟨raw, none, length⟩, toNat_lt_of_and_eq_zero hlow, rfl, hid.append hsize⟩
  · rename_i hhigh
    obtain ⟨enterprise, c₃, henterprise, h⟩ := Reader.bind_ok_iff.mp h
    cases h
    have hnumber := Cursor.spans_of_u32 (reading_ok_iff.mp henterprise)
    refine ⟨⟨raw ^^^ enterpriseBit, some enterprise, length⟩,
      toNat_lt_of_and_eq_zero (xor_enterpriseBit_and hhigh), rfl, ?_⟩
    rw [FieldSpec.bytes, xor_or_enterpriseBit hhigh]
    exact (hid.append hsize).append hnumber

/-- **Fields that are read have descriptions**, which stand one after another. -/
theorem spells_of_fields {n : Nat} {read fs : List Field}
    (h : fields elements n read c = .ok fs c') :
    ∃ specs : List FieldSpec, specs.length = n ∧ (∀ f ∈ specs, f.id.toNat < 0x8000) ∧
      fs = read.reverse ++ specs.map (fun f => f.field elements) ∧
      c.Spans (specs.flatMap FieldSpec.bytes) c' := by
  induction n generalizing read c with
  | zero =>
    cases h
    exact ⟨[], rfl, List.forall_mem_nil _, (List.append_nil _).symm, .nil _⟩
  | succ n ih =>
    obtain ⟨f, c₁, hf, h⟩ := Reader.bind_ok_iff.mp h
    obtain ⟨spec, hid, rfl, hspec⟩ := spells_of_field hf
    obtain ⟨specs, hlength, hids, hfs, hspecs⟩ := ih h
    refine ⟨spec :: specs, congrArg Nat.succ hlength, ?_, ?_, ?_⟩
    · intro g hg
      rcases List.mem_cons.mp hg with rfl | hlater
      · exact hid
      · exact hids g hlater
    · rw [hfs, List.reverse_cons, List.append_assoc]
      rfl
    · rw [List.flatMap_cons]
      exact hspec.append hspecs

/-- A number of scope fields that is read is one that a layout may say, and stands in its place. -/
theorem spells_of_scopeCount {id count : UInt16} {n : Nat}
    (h : scopeCount kind id count c = .ok n c') :
    ∃ scopes : UInt16, (kind = .options → 1 ≤ scopes.toNat ∧ scopes.toNat ≤ count.toNat) ∧
      ∀ specs, n = (Layout.mk id kind scopes specs).scopeCount ∧
        c.Spans (Layout.mk id kind scopes specs).scopeBytes c' := by
  cases kind with
  | data =>
    cases h
    exact ⟨0, (nomatch ·), fun specs => ⟨rfl, .nil _⟩⟩
  | options =>
    obtain ⟨scopes, c₁, hscopes, h⟩ := Reader.bind_ok_iff.mp h
    split at h
    · cases h
    · rename_i hgood
      cases h
      rw [not_or, UInt16.not_lt] at hgood
      have hpos : scopes.toNat ≠ 0 := fun hzero => hgood.1 (UInt16.toNat_inj.mp hzero)
      have hspans := Cursor.spans_of_u16 (reading_ok_iff.mp hscopes)
      refine ⟨scopes, fun _ => ⟨Nat.pos_of_ne_zero hpos, ?_⟩, fun specs => ⟨rfl, hspans⟩⟩
      exact UInt16.le_iff_toNat_le.mp hgood.2

/-- **What is read is spelled** by the octets that were taken. -/
theorem spells_of_parse {r : TemplateRecord} (h : parse kind elements c = .ok r c') :
    ∃ bs, Spells kind elements r bs ∧ c.Spans bs c' := by
  obtain ⟨id, c₁, hid, h⟩ := Reader.bind_ok_iff.mp h
  obtain ⟨count, c₂, hcount, h⟩ := Reader.bind_ok_iff.mp h
  have hstart := (Cursor.spans_of_u16 (reading_ok_iff.mp hid)).append
    (Cursor.spans_of_u16 (reading_ok_iff.mp hcount))
  split at h
  · rename_i hzero
    split at h
    · cases h
    · rename_i hgood
      cases h
      rw [hzero] at hstart
      refine ⟨withdrawalBytes id, .withdrawal ?_, hstart⟩
      rw [not_and_or, not_not, UInt16.not_lt] at hgood
      exact hgood.symm
  · split at h
    · cases h
    · rename_i hlow
      obtain ⟨n, c₃, hscopes, h⟩ := Reader.bind_ok_iff.mp h
      obtain ⟨fs, c₄, hfields, h⟩ := Reader.bind_ok_iff.mp h
      dsimp only at h
      split at h
      · cases h
      · rename_i hleast
        cases h
        obtain ⟨scopes, hbounds, hscoped⟩ := spells_of_scopeCount hscopes
        obtain ⟨specs, hlength, hids, hfs, hspecs⟩ := spells_of_fields hfields
        obtain ⟨hn, hspans⟩ := hscoped specs
        rw [List.reverse_nil, List.nil_append] at hfs
        subst hn hfs
        have hlegal : (Layout.mk id kind scopes specs).Legal :=
          { id_ge := UInt16.not_lt.mp hlow
            specs_lt := hlength ▸ count.toNat_lt
            id_lt := hids
            length_ne := (Layout.minRecordLength_pos_iff elements _).mp (Nat.pos_of_ne_zero hleast)
            scopes_pos := fun hkind => (hbounds hkind).1
            scopes_le := fun hkind => hlength ▸ (hbounds hkind).2 }
        refine ⟨_, .definition hlegal rfl, ?_⟩
        rw [← hlength] at hstart
        exact (hstart.append hspans).append hspecs

end TemplateRecord

/-! ## 4. Announcing again -/

/-- The description of a field that is known: without an enterprise number when its element is
public. -/
def Field.spec (f : Field) : FieldSpec where
  id := f.element.id
  enterprise := if f.element.enterprise = Element.publicEnterprise then none
    else some f.element.enterprise
  length := f.length

/-- How a template that is known is announced. -/
def Template.layout (t : Template) : Layout where
  id := t.id
  kind := t.kind
  scopes := UInt16.ofNat t.scopeCount
  specs := t.fields.map Field.spec

namespace FieldSpec

variable (elements : Registry) {f : FieldSpec}

/-- The description of a field that was described: the enterprise number is left out where it is
that of the public elements. -/
theorem spec_field (f : FieldSpec) : (f.field elements).spec
    = ⟨f.id, if f.enterprise.getD Element.publicEnterprise = Element.publicEnterprise then none
        else some (f.enterprise.getD Element.publicEnterprise), f.length⟩ := by
  have hkey := elements.key_resolve (f.enterprise.getD Element.publicEnterprise) f.id
  obtain ⟨henterprise, hid⟩ := Prod.ext_iff.mp hkey
  simp only [Element.key] at henterprise hid
  simp only [Field.spec, field, henterprise, hid]

/-- A field that was described with the number of the public elements takes fewer octets to describe
again. -/
theorem length_spec_field_lt (h : f.enterprise = some Element.publicEnterprise) :
    (f.field elements).spec.bytes.length < f.bytes.length := by
  have hfour : (f.field elements).spec.bytes.length = 4 := by
    rw [spec_field, h, Option.getD_some, if_pos rfl]
    rfl
  have height : f.bytes.length = 8 := by
    rw [bytes, h]
    rfl
  rw [hfour, height]
  decide

/-- Every other field is described by the same octets. -/
theorem bytes_spec_field (h : f.enterprise ≠ some Element.publicEnterprise) :
    (f.field elements).spec.bytes = f.bytes := by
  obtain ⟨id, enterprise, length⟩ := f
  cases enterprise with
  | none => rw [spec_field, Option.getD_none, if_pos rfl]
  | some enterprise =>
    have hother : enterprise ≠ Element.publicEnterprise := fun heq => h (congrArg some heq)
    rw [spec_field, Option.getD_some, if_neg hother]

/-- **Fields are described again by the octets that described them** unless one was described with
the number of the public elements. -/
theorem bytes_spec_fields_iff (specs : List FieldSpec) :
    (specs.flatMap fun f => (f.field elements).spec.bytes) = specs.flatMap bytes
      ↔ ∀ f ∈ specs, f.enterprise ≠ some Element.publicEnterprise := by
  constructor
  · intro heq f hf hpublic
    have hle : ∀ g ∈ specs, (g.field elements).spec.bytes.length ≤ g.bytes.length := by
      intro g _
      by_cases hg : g.enterprise = some Element.publicEnterprise
      · exact Nat.le_of_lt (length_spec_field_lt elements hg)
      · rw [bytes_spec_field elements hg]
    have hlt := List.sum_lt_sum (fun g : FieldSpec => (g.field elements).spec.bytes.length)
      (fun g => g.bytes.length) hle ⟨f, hf, length_spec_field_lt elements hpublic⟩
    have hlength := congrArg List.length heq
    rw [List.length_flatMap, List.length_flatMap] at hlength
    omega
  · intro hnone
    exact List.flatMap_congr fun f hf => bytes_spec_field elements (hnone f hf)

end FieldSpec

namespace Layout

variable (elements : Registry)

/-- **A template that was read is announced by the octets that it was read from** unless a field was
described with the number of the public elements. -/
theorem bytes_layout_template_iff (l : Layout) : (l.template elements).layout.bytes = l.bytes
    ↔ ∀ f ∈ l.specs, f.enterprise ≠ some Element.publicEnterprise := by
  have hscopes : (l.template elements).layout.scopeBytes = l.scopeBytes := by
    obtain ⟨id, kind, scopes, specs⟩ := l
    cases kind with
    | data => rfl
    | options => simp [scopeBytes, template, Template.layout, scopeCount]
  have hlength : (l.template elements).layout.specs.length = l.specs.length := by
    simp [Template.layout, template]
  have hspecs : (l.template elements).layout.specs.flatMap FieldSpec.bytes
      = l.specs.flatMap fun f => (f.field elements).spec.bytes := by
    simp [Template.layout, template, List.flatMap_map]
  have hid : (l.template elements).layout.id = l.id := rfl
  rw [bytes, bytes, hid, hlength, hscopes, hspecs, List.append_cancel_left_eq,
    FieldSpec.bytes_spec_fields_iff]

/-- Announcing a template that was read makes the set that announced it, unless a field was described
with the number of the public elements. -/
theorem announce_layout_template_iff (l : Layout) (b : Builder) :
    (l.template elements).layout.announce b = l.announce b
      ↔ ∀ f ∈ l.specs, f.enterprise ≠ some Element.publicEnterprise := by
  have hkind : (l.template elements).layout.kind = l.kind := rfl
  rw [announce_eq, announce_eq, hkind, ← bytes_layout_template_iff elements]
  constructor
  · intro hsets
    have hlast := List.append_cancel_left (congrArg Builder.sets hsets)
    exact congrArg RawSet.body (List.singleton_inj.mp hlast)
  · intro hbytes
    rw [hbytes]

end Layout

/-! ## 5. The record -/

namespace TemplateRecord

variable {kind : TemplateKind} {elements : Registry} {c c' : Cursor}

/-- **A record is read exactly where one is spelled.** -/
theorem parse_ok_iff {r : TemplateRecord} :
    parse kind elements c = .ok r c' ↔ ∃ bs, Spells kind elements r bs ∧ c.Spans bs c' := by
  constructor
  · exact spells_of_parse
  · rintro ⟨bs, hspells, hrest, hposition⟩
    obtain ⟨p, octets⟩ := c
    obtain ⟨p', rest⟩ := c'
    simp only at hrest hposition
    rw [hrest, hposition]
    exact hspells.parse_append p rest

/-- A definition is read exactly where the octets of a legal layout stand. -/
theorem parse_definition_iff {t : Template} :
    parse kind elements c = .ok (.definition t) c' ↔
      ∃ l : Layout, l.Legal ∧ l.kind = kind ∧ t = l.template elements ∧ c.Spans l.bytes c' := by
  rw [parse_ok_iff]
  constructor
  · rintro ⟨bs, hspells, hspans⟩
    cases hspells with
    | definition hlegal hkind => exact ⟨_, hlegal, hkind, rfl, hspans⟩
  · rintro ⟨l, hlegal, hkind, rfl, hspans⟩
    exact ⟨l.bytes, .definition hlegal hkind, hspans⟩

/-- A withdrawal is read exactly where an identifier that can be withdrawn and no fields stand. -/
theorem parse_withdrawal_iff {id : UInt16} :
    parse kind elements c = .ok (.withdrawal id) c' ↔
      (minDataSetId ≤ id ∨ id = kind.setId) ∧ c.Spans (withdrawalBytes id) c' := by
  rw [parse_ok_iff]
  constructor
  · rintro ⟨bs, hspells, hspans⟩
    cases hspells with
    | withdrawal hid => exact ⟨hid, hspans⟩
  · rintro ⟨hid, hspans⟩
    exact ⟨withdrawalBytes id, .withdrawal hid, hspans⟩

/-- There is a failure exactly where no record is spelled. -/
theorem parse_error_iff :
    (∃ e c', parse kind elements c = .error e c') ↔
      ∀ r bs c', Spells kind elements r bs → ¬c.Spans bs c' := by
  constructor
  · rintro ⟨e, c₁, herror⟩ r bs c' hspells hspans
    have hread := parse_ok_iff.mpr ⟨bs, hspells, hspans⟩
    rw [herror] at hread
    cases hread
  · intro hnone
    cases hparse : parse kind elements c with
    | error e c₁ => exact ⟨e, c₁, rfl⟩
    | ok r c₁ =>
      obtain ⟨bs, hspells, hspans⟩ := spells_of_parse hparse
      exact absurd hspans (hnone r bs c₁ hspells)

/-- **Template records are read exactly.**  At any place, in a set of either kind and whatever the
elements are:

* a definition is read exactly where the octets of a legal layout of that kind stand, and it is the
  template of the layout;
* a withdrawal is read exactly where an identifier above those of sets, or that of the set itself,
  and no fields stand;
* the octets that were read are those, and the next place is right behind them;
* where neither stands, there is a failure.

And the set that announces a legal layout holds nothing but a record that is read as its template;
announcing that again makes the same set unless a field was described with the enterprise number of
the public elements. -/
theorem parse_exactly (kind : TemplateKind) (elements : Registry) (c : Cursor) :
    (∀ t c', parse kind elements c = .ok (.definition t) c' ↔
      ∃ l : Layout, l.Legal ∧ l.kind = kind ∧ t = l.template elements ∧ c.Spans l.bytes c') ∧
    (∀ id c', parse kind elements c = .ok (.withdrawal id) c' ↔
      (minDataSetId ≤ id ∨ id = kind.setId) ∧ c.Spans (withdrawalBytes id) c') ∧
    ((∃ e c', parse kind elements c = .error e c') ↔
      ∀ r bs c', Spells kind elements r bs → ¬c.Spans bs c') ∧
    ∀ (l : Layout) (b : Builder), l.Legal →
      (l.announce b).sets = b.sets ++ [⟨l.kind.setId, l.bytes⟩] ∧
      parse l.kind elements (Cursor.ofBytes l.bytes)
        = .ok (.definition (l.template elements)) ⟨l.bytes.length, []⟩ ∧
      ((l.template elements).layout.announce b = l.announce b ↔
        ∀ f ∈ l.specs, f.enterprise ≠ some Element.publicEnterprise) := by
  refine ⟨?_, ?_, parse_error_iff, ?_⟩
  · intro t c'
    exact parse_definition_iff
  · intro id c'
    exact parse_withdrawal_iff
  · intro l b hlegal
    have hread := Layout.parse_append (hlegal.announceable elements) hlegal.specs_lt 0 []
    rw [List.append_nil, Nat.zero_add] at hread
    refine ⟨?_, hread, Layout.announce_layout_template_iff elements l b⟩
    rw [Layout.announce_eq]
    rfl

/-- An options template with a public element, one of an enterprise, and a public one again that is
described with the number of the public elements: it is read as it stands before two other octets,
and announced again by fewer. -/
theorem public_number_is_left_out :
    let l : Layout := ⟨257, .options, 1,
      [⟨149, none, 4⟩, ⟨1, some 9, variableLength⟩, ⟨41, some 0, 8⟩]⟩
    let t := l.template .empty
    l.Legal ∧
      parse .options .empty ⟨4, l.bytes ++ [0, 0]⟩ = .ok (.definition t) ⟨30, [0, 0]⟩ ∧
      t.layout.announce {} ≠ l.announce {} := by
  intro l t
  have hlegal : l.Legal :=
    { id_ge := by decide
      specs_lt := by decide
      id_lt := by decide
      length_ne := ⟨⟨149, none, 4⟩, List.mem_cons_self, by decide⟩
      scopes_pos := by decide
      scopes_le := by decide }
  obtain ⟨hdefinition, -, -, hannounced⟩ := parse_exactly .options .empty ⟨4, l.bytes ++ [0, 0]⟩
  refine ⟨hlegal, (hdefinition t _).mpr ⟨l, hlegal, rfl, rfl, rfl, rfl⟩, ?_⟩
  obtain ⟨-, -, hagain⟩ := hannounced l {} hlegal
  intro hsame
  have hnone := hagain.mp hsame ⟨41, some 0, 8⟩ (by decide)
  exact hnone rfl

end TemplateRecord

end FlowIntake
