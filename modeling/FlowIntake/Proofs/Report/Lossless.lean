/-
# The line of a message says all there is to say

The line does not name the kind of any value and leaves out what the template knows.  Messages that
are decoded under the same elements still have the same line only when they are the same: the line
reads back as its members, the texts of the members have one meaning each, and the kinds of the
values are those of the elements.

* `Value.alike_of_elements`: values of the same elements are of the same kinds;
* `Message.DecodedUnder`, `Visit.decodedUnder_of_mem_report`: messages that are made of records of a
  template, as those of a data set are;
* `Message.SaysAs`, `Message.members_of_line`: what messages with the same line have in common;
* `Message.SaysAs.eq`, `Message.lines_lossless`: everything, once the kinds of their values are the
  same.
-/
import FlowIntake.Proofs.Calendar
import FlowIntake.Proofs.Field.Kinds
import FlowIntake.Proofs.Field.ValueText
import FlowIntake.Proofs.Packet.Contents
import FlowIntake.Proofs.Packet.Tiling

namespace FlowIntake

/-! ## 1. Values of a record -/

/-- Values of the same elements are of the same kinds. -/
theorem Value.alike_of_elements {elements : List Element} {values values' : List Value}
    (h : List.Forall₂ Element.Yields elements values)
    (h' : List.Forall₂ Element.Yields elements values') :
    List.Forall₂ Value.Alike values values' := by
  induction h generalizing values' with
  | nil =>
    cases h'
    exact .nil
  | cons hv _ ih =>
    cases h' with
    | cons hv' hvalues' =>
      obtain ⟨bs, hbs⟩ := hv
      obtain ⟨bs', hbs'⟩ := hv'
      exact .cons (DataType.alike_of_interpret hbs hbs') (ih hvalues')

/-- **Values under keys**: what their JSON says determines both, where kinds are known. -/
theorem Value.fields_eq_of_reading {fields fields' : List (String × Value)}
    (hkinds : List.Forall₂ Value.Alike (fields.map Prod.snd) (fields'.map Prod.snd))
    (hfloat : ∀ v ∈ fields.map Prod.snd, ∀ bits, v ≠ .float bits)
    (h : (fields.map fun (key, value) => (key, value.reading)) =
      fields'.map fun (key, value) => (key, value.reading)) : fields = fields' := by
  induction fields generalizing fields' with
  | nil => exact (List.map_eq_nil_iff.mp h.symm).symm
  | cons field fields ih =>
    cases fields' with
    | nil => cases h
    | cons field' fields' =>
      obtain ⟨key, v⟩ := field
      obtain ⟨key', v'⟩ := field'
      rw [List.map_cons, List.map_cons, List.cons.injEq, Prod.mk.injEq] at h
      obtain ⟨⟨hkey, hv⟩, hrest⟩ := h
      rw [List.map_cons, List.map_cons, List.forall₂_cons] at hkinds
      rw [List.map_cons, List.forall_mem_cons] at hfloat
      obtain rfl : key = key' := hkey
      obtain ⟨hkind, hkinds⟩ := hkinds
      obtain ⟨hfirst, hfloat⟩ := hfloat
      obtain rfl : v = v' := hkind.eq_of_reading hfirst hv
      rw [ih hkinds hfloat hrest]

/-! ## 2. Messages of records -/

namespace Message

/-- The message is made of a record of the template: of the values that the octets of one are read
as. -/
def DecodedUnder (m : Message) (t : Template) : Prop :=
  ∃ (c : MessageContext) (octets : Bytes) (values : List Value),
    t.IsRecord octets values ∧ m = c.message t values

end Message

theorem DataRun.isRecord_of_mem {t : Template} {least : Nat} {c : Cursor} {rs : List (List Value)}
    {stop : Option FieldError} (h : DataRun t.fields least c rs stop) {values : List Value}
    (hvalues : values ∈ rs) : ∃ octets, t.IsRecord octets values := by
  generalize hfields : t.fields = fields at h
  induction h with
  | padding _ => cases hvalues
  | fault _ _ => cases hvalues
  | record _ hread _ ih =>
    rcases List.mem_cons.mp hvalues with rfl | hlater
    · obtain ⟨octets, -, hrecord⟩ := Template.isRecord_of_readRecord (t := t) (hfields ▸ hread)
      exact ⟨octets, hrecord⟩
    · exact ih hlater

/-- The records that a template makes of the body of a data set. -/
theorem Template.isRecord_of_mem_records {t : Template} {body : Bytes} {values : List Value}
    (h : values ∈ (t.records body).records) : ∃ octets, t.IsRecord octets values := by
  rw [records] at h
  cases hrun : t.records? (body.length + 1) body with
  | none =>
    rw [hrun] at h
    cases h
  | some run =>
    rw [hrun] at h
    obtain ⟨rs, hrecords, hdata⟩ := dataRun_of_readRecords? hrun
    have hmem : values ∈ run.records := h
    rw [hrecords] at hmem
    exact hdata.isRecord_of_mem hmem

/-- **The messages of a set are made of records** of the template that its identifier is bound
to. -/
theorem Visit.decodedUnder_of_mem_report {elements : Registry} {c : MessageContext} {v : Visit}
    {m : Message} (hm : m ∈ (v.report elements c).1) :
    ∃ t, v.bindings v.set.id = some t ∧ m.DecodedUnder t := by
  rw [report] at hm
  split at hm
  · cases hm
  · split at hm
    · cases hm
    · rename_i t hbound
      simp only [MessageContext.messages_eq, List.mem_map] at hm
      obtain ⟨values, hvalues, rfl⟩ := hm
      obtain ⟨octets, hrecord⟩ := Template.isRecord_of_mem_records hvalues
      exact ⟨t, hbound, c, octets, values, hrecord, rfl⟩
  · cases hm

/-! ## 3. Members -/

namespace Message

variable {m m' : Message}

/-- Scopes are named when there are some. -/
def scopeMembers (m : Message) : List (String × Json.Reading) :=
  if m.scopes = [] then [] else [("scopes", .array (m.scopes.map .string))]

theorem scopes_of_scopeMembers (h : m.scopeMembers = m'.scopeMembers) : m.scopes = m'.scopes := by
  rw [scopeMembers, scopeMembers] at h
  split at h
  · rename_i hempty
    split at h
    · rename_i hempty'
      rw [hempty, hempty']
    · cases h
  · split at h
    · cases h
    · have hstrings := Json.Reading.array.inj (Prod.mk.inj (List.cons.inj h).1).2
      exact (List.map_inj_right fun _ _ => Json.Reading.string.inj).mp hstrings

/-- The texts of a message, its scopes, and what its fields say. -/
structure SaysAs (m m' : Message) : Prop where
  exporter : m.exporter.text = m'.exporter.text
  domain : toString m.domain.toNat = toString m'.domain.toNat
  exportTime : m.exportTimeText = m'.exportTimeText
  sequence : toString m.sequence.toNat = toString m'.sequence.toNat
  templateId : toString m.templateId.toNat = toString m'.templateId.toNat
  kind : m.kind.name = m'.kind.name
  scopes : m.scopes = m'.scopes
  fields : (m.fields.map fun (key, value) => (key, value.reading)) =
    m'.fields.map fun (key, value) => (key, value.reading)

/-- The members are told apart by their places, counted from both ends. -/
theorem saysAs_of_members (h : m.members = m'.members) : m.SaysAs m' := by
  rw [members, members] at h
  obtain ⟨hfront, hfields⟩ := List.append_inj' h (by simp only [List.length_singleton])
  obtain ⟨hhead, hscopes⟩ := List.append_inj hfront (by simp only [List.length_cons])
  simp only [List.cons.injEq, Prod.mk.injEq, true_and, and_true, Json.Reading.string.injEq,
    Json.Reading.number.injEq, Json.Reading.object.injEq] at hhead hfields
  obtain ⟨hexporter, hdomain, htime, hsequence, htemplate, hkind⟩ := hhead
  exact ⟨hexporter, hdomain, htime, hsequence, htemplate, hkind, scopes_of_scopeMembers hscopes,
    hfields⟩

/-- **Messages that say the same are the same**, where the kinds of their values are. -/
theorem SaysAs.eq (h : m.SaysAs m')
    (hkinds : List.Forall₂ Value.Alike (m.fields.map Prod.snd) (m'.fields.map Prod.snd))
    (hfloat : ∀ v ∈ m.fields.map Prod.snd, ∀ bits, v ≠ .float bits) : m = m' := by
  have hkind : m.kind = m'.kind := by
    have hnames : ∀ k k' : TemplateKind, k.name = k'.name → k = k' := by
      intro k k'
      cases k <;> cases k' <;> decide
    exact hnames _ _ h.kind
  have htime := Timestamp.text_injective m.exportTime.toNat_lt m'.exportTime.toNat_lt h.exportTime
  rw [Message.mk.injEq]
  exact ⟨Address.text_injective h.exporter,
    UInt32.toNat_inj.mp (Decimal.repr_injective h.domain),
    UInt32.toNat_inj.mp htime,
    UInt32.toNat_inj.mp (Decimal.repr_injective h.sequence),
    UInt16.toNat_inj.mp (Decimal.repr_injective h.templateId),
    hkind, h.scopes, Value.fields_eq_of_reading hkinds hfloat h.fields⟩

/-- What the line of a message says. -/
theorem members_of_line (h : m.line = m'.line) : m.members = m'.members := by
  have hbytes : Utf8.encode m.json.text = Utf8.encode m'.json.text := List.append_cancel_right h
  have htext : m.json.text = m'.json.text := by
    rw [← Utf8.decode_encode m.json.text, hbytes, Utf8.decode_encode]
  have hreading := Json.reading_eq_of_text htext
  rw [reading_json, reading_json] at hreading
  exact Json.Reading.object.inj hreading

/-- The values of messages that are decoded under the same elements are of the same kinds. -/
theorem DecodedUnder.alike {t t' : Template} (h : m.DecodedUnder t) (h' : m'.DecodedUnder t')
    (helements : t.fields.map Field.element = t'.fields.map Field.element) :
    List.Forall₂ Value.Alike (m.fields.map Prod.snd) (m'.fields.map Prod.snd) := by
  obtain ⟨c, octets, values, hrecord, rfl⟩ := h
  obtain ⟨c', octets', values', hrecord', rfl⟩ := h'
  rw [(c.reports_message (length_of_readRecord hrecord)).values,
    (c'.reports_message (length_of_readRecord hrecord')).values]
  have hkinds' := yields_of_readRecord hrecord'
  rw [← helements] at hkinds'
  exact Value.alike_of_elements (yields_of_readRecord hrecord) hkinds'

/-- **The lines of messages lose nothing.**  Every message of a packet is decoded under a template,
the one that the identifier of its set is bound to when the set is read; and of two messages
decoded under the same elements in the same order, with no doubles among their values, the lines
are the same only when the messages are. -/
theorem lines_lossless :
    (∀ (elements : Registry) (ss : SessionTable) (now : Nat) (exporter : Address) (packet : Bytes)
      (h : Header) (sets : List RawSet), Carries packet h sets →
      ∃ ss' p, ss.decode elements now exporter packet = (ss', .ok p) ∧
        ∀ m ∈ p.messages, ∃ v ∈ (ss.bindings ⟨exporter, h.domain⟩).visits elements sets,
          ∃ t, v.bindings v.set.id = some t ∧ m.DecodedUnder t) ∧
    ∀ (t t' : Template) (m m' : Message), m.DecodedUnder t → m'.DecodedUnder t' →
      t.fields.map Field.element = t'.fields.map Field.element →
      (∀ v ∈ m.fields.map Prod.snd, ∀ bits, v ≠ .float bits) →
      m.line = m'.line → m = m' := by
  refine ⟨fun elements ss now exporter packet h sets hcarries => ?_,
    fun t t' m m' hm hm' helements hfloat hline => ?_⟩
  · obtain ⟨ss', p, hdecode, hfollows, -⟩ := SessionTable.follows_decode elements ss now exporter
      hcarries
    refine ⟨ss', p, hdecode, fun m hm => ?_⟩
    rw [hfollows.messages, List.mem_flatMap] at hm
    obtain ⟨v, hv, hm⟩ := hm
    exact ⟨v, hv, Visit.decodedUnder_of_mem_report hm⟩
  · exact (saysAs_of_members (members_of_line hline)).eq (hm.alike hm' helements) hfloat

/-- A number in eight octets and in one, microseconds with undefined bits, a text that is not
UTF-8: two records of different octets that make one message.  And a packet with a template and a
record of it. -/
theorem different_octets_same_message :
    let fields (n : UInt16) : List Field := [⟨⟨0, 1, "octetDeltaCount", .unsigned64⟩, n⟩,
      ⟨⟨0, 154, "flowStartMicroseconds", .dateTimeMicroseconds⟩, 8⟩,
      ⟨⟨0, 82, "interfaceName", .string⟩, variableLength⟩]
    let t (n : UInt16) : Template := ⟨256, .data, 0, fields n⟩
    let c : MessageContext := ⟨.v4 ⟨[192, 0, 2, 1], rfl⟩, 7, 1600000000, 42⟩
    let values : List Value := [.unsigned 9, .microseconds 5 0x1800, .text "\uFFFD"]
    let packet : Builder := (({} : Builder).template 256 [⟨1, none, 1⟩]).data 256 [[9]]
    (t 8).IsRecord [0, 0, 0, 0, 0, 0, 0, 9, 0, 0, 0, 5, 0, 0, 0x18, 1, 1, 0xFF] values ∧
      (t 1).IsRecord [9, 0, 0, 0, 5, 0, 0, 0x1F, 0xFF, 1, 0xFE] values ∧
      c.message (t 8) values = c.message (t 1) values ∧
      ∃ ss p, SessionTable.decode .empty .empty 0 c.exporter packet.build = (ss, .ok p) ∧
        ∀ m ∈ p.messages, ∃ t, m.DecodedUnder t := by
  intro fields t c values packet
  have hwide : (t 8).IsRecord [0, 0, 0, 0, 0, 0, 0, 9, 0, 0, 0, 5, 0, 0, 0x18, 1, 1, 0xFF]
      values := rfl
  have hnarrow : (t 1).IsRecord [9, 0, 0, 0, 5, 0, 0, 0x1F, 0xFF, 1, 0xFE] values := rfl
  refine ⟨hwide, hnarrow, ?_, ?_⟩
  · refine lines_lossless.2 (t 8) (t 1) _ _ ⟨c, _, _, hwide, rfl⟩ ⟨c, _, _, hnarrow, rfl⟩ rfl ?_ rfl
    rw [(c.reports_message (length_of_readRecord hwide)).values]
    simp [values]
  · have hpacket : Carries packet.build packet.header packet.sets :=
      Builder.carries_build rfl (by decide)
    obtain ⟨ss, p, hdecode, hmessages⟩ :=
      lines_lossless.1 .empty .empty 0 c.exporter packet.build _ _ hpacket
    refine ⟨ss, p, hdecode, ?_⟩
    intro m hm
    obtain ⟨v, -, t, -, hdecoded⟩ := hmessages m hm
    exact ⟨t, hdecoded⟩

end Message

end FlowIntake
