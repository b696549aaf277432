/-
# Records arrive as they were sent

An exporter announces a template and sends records of it in one packet.  Whatever sessions the
collector already keeps, it takes the packet and makes one message of each record, in order, with
the values that were sent.

* `decodeSet_announcement`: the template set installs exactly the announced template;
* `dataRun_append`: the data set falls into the records that were written, by induction on them;
* `decode_sent_records`: the packet as a whole.
-/
import FlowIntake.Proofs.Field.RoundTrip
import FlowIntake.Proofs.Packet.Framing
import FlowIntake.Proofs.Packet.Records
import FlowIntake.Proofs.Packet.Sets
import FlowIntake.Proofs.Template.RoundTrip

namespace FlowIntake

/-! ## 1. Messages of records -/

theorem Template.length_keysFrom (taken : Std.HashSet String) (names : List String) :
    (keysFrom taken names).length = names.length := by
  induction names generalizing taken with
  | nil => rfl
  | cons name names ih => rw [keysFrom, List.length_cons, List.length_cons, ih]

/-- Every field has a key. -/
theorem Template.length_keys (t : Template) : t.keys.length = t.fields.length := by
  rw [keys, length_keysFrom, List.length_map]

/-- The message reports a record with these values: who sent it and when, and under the keys of
the template's fields the values in order, the first of them as scopes. -/
structure Message.Reports (m : Message) (c : MessageContext) (t : Template) (values : List Value) :
    Prop where
  exporter : m.exporter = c.exporter
  domain : m.domain = c.domain
  exportTime : m.exportTime = c.exportTime
  sequence : m.sequence = c.sequence
  templateId : m.templateId = t.id
  kind : m.kind = t.kind
  keys : m.fields.map Prod.fst = t.keys
  values : m.fields.map Prod.snd = values
  scopes : m.scopes = t.keys.take t.scopeCount

/-- The message of as many values as the template has fields reports them all. -/
theorem MessageContext.reports_message (c : MessageContext) {t : Template} {values : List Value}
    (h : values.length = t.fields.length) : (c.message t values).Reports c t values := by
  have hlen : t.keys.length = values.length := t.length_keys.trans h.symm
  have hkeys : (t.keys.zip values).map Prod.fst = t.keys :=
    List.map_fst_zip (Nat.le_of_eq hlen)
  have hvalues : (t.keys.zip values).map Prod.snd = values :=
    List.map_snd_zip (Nat.le_of_eq hlen.symm)
  exact ⟨rfl, rfl, rfl, rfl, rfl, rfl, hkeys, hvalues, congrArg (List.take t.scopeCount) hkeys⟩

/-! ## 2. The two sets -/

/-- **The set that announces a template installs it**, and nothing else. -/
theorem Session.decodeSet_announcement {elements : Registry} {l : Layout}
    (hl : l.Announceable elements) (hsize : l.specs.length < 65536) (h : Header) (s : Session) :
    s.decodeSet elements h ⟨l.kind.setId, l.bytes⟩
      = (s.install (l.template elements), ⟨[], ⟨1, 0⟩, none⟩) := by
  have hparse := Layout.parse_append hl hsize 0 []
  rw [List.append_nil] at hparse
  have hrun : TemplateRun l.kind elements (Cursor.ofBytes l.bytes)
      [.definition (l.template elements)] none :=
    .record l.minLength_le_bytes hparse (.padding (Nat.zero_lt_succ 3))
  rw [decodeSet, RawSet.kind, SetKind.ofId_setId]
  simp only [TemplateRecord.readAll_of_templateRun hrun]
  rfl

/-- **A data set falls into the records that were written**, followed by padding.  Each has a wire
form, and there are no more of them than octets. -/
theorem dataRun_append {t : Template} (hpos : 1 ≤ t.minRecordLength) {records : List (List Entry)}
    (hr : ∀ r ∈ records, List.Forall₂ (fun f e => e.Fills f) t.fields r) :
    ∃ bodies, records.mapM (encodeRecord? t.fields) = some bodies ∧
      records.length ≤ bodies.flatten.length ∧
      ∀ p padding, padding.length < t.minRecordLength →
        DataRun t.fields (max t.minRecordLength 1) ⟨p, bodies.flatten ++ padding⟩
          (records.map (List.map Entry.value)) none := by
  have hmax : max t.minRecordLength 1 = t.minRecordLength := Nat.max_eq_left hpos
  rw [hmax]
  induction records with
  | nil => exact ⟨[], rfl, Nat.le_refl 0, fun p padding hpad => .padding hpad⟩
  | cons r records ih =>
    obtain ⟨bs, henc, hlen, hread⟩ := readRecord_append (hr r List.mem_cons_self)
    obtain ⟨bodies, hbodies, hcount, hrun⟩ := ih fun r' hr' => hr r' (List.mem_cons_of_mem r hr')
    have hleast : t.minRecordLength ≤ bs.length := hlen
    refine ⟨bs :: bodies, ?_, ?_, ?_⟩
    · simp [List.mapM_cons, henc, hbodies]
    · rw [List.flatten_cons, List.length_append, List.length_cons]
      omega
    · intro p padding hpad
      rw [List.flatten_cons, List.append_assoc]
      refine .record ?_ (hread p _) (hrun (p + bs.length) padding hpad)
      simp only [Cursor.remaining, List.length_append]
      omega

/-- **A data set of written records yields their messages**, once the template is installed. -/
theorem Session.decodeSet_sent {elements : Registry} {h : Header} {s : Session} {t : Template}
    {body : Bytes} {rs : List (List Value)} (ht : s.template? t.id = some t)
    (hid : minDataSetId ≤ t.id) (hlen : rs.length ≤ body.length)
    (hrun : DataRun t.fields (max t.minRecordLength 1) (Cursor.ofBytes body) rs none) :
    s.decodeSet elements h ⟨t.id, body⟩
      = (s, ⟨rs.map ((s.context h).message t), .none, none⟩) := by
  rw [decodeSet, RawSet.kind, SetKind.ofId_of_ge hid]
  simp only [ht, Template.records_of_dataRun hrun hlen, MessageContext.messages_eq]
  rfl

/-! ## 3. The packet -/

namespace Layout

/-- The packet that announces the template and carries the given octets as its records. -/
def packet (l : Layout) (exportTime sequence domain : UInt32) (bodies : List Bytes) : Builder :=
  (l.announce ⟨Header.protocolVersion, exportTime, sequence, domain, []⟩).data l.id bodies

variable (l : Layout) (exportTime sequence domain : UInt32) (bodies : List Bytes)

theorem sets_packet :
    (l.packet exportTime sequence domain bodies).sets
      = [⟨l.kind.setId, l.bytes⟩, ⟨l.id, bodies.flatten⟩] := by
  rw [packet, announce_eq]
  rfl

theorem version_packet :
    (l.packet exportTime sequence domain bodies).version = Header.protocolVersion := by
  rw [packet, announce_eq]
  rfl

/-- The header carries the numbers the packet was given. -/
theorem header_packet :
    (l.packet exportTime sequence domain bodies).header.exportTime = exportTime ∧
      (l.packet exportTime sequence domain bodies).header.sequence = sequence ∧
      (l.packet exportTime sequence domain bodies).header.domain = domain := by
  rw [packet, announce_eq]
  exact ⟨rfl, rfl, rfl⟩

/-- A packet that fits its length does not announce more fields than can be counted. -/
theorem specs_lt_of_length_le
    (h : (l.packet exportTime sequence domain bodies).build.length ≤ 65535) :
    l.specs.length < 65536 := by
  have hmem : (⟨l.kind.setId, l.bytes⟩ : RawSet)
      ∈ (l.packet exportTime sequence domain bodies).sets := by
    rw [sets_packet]
    exact List.mem_cons_self
  have hset := (Builder.length_bytes_le hmem).trans h
  have hspecs := l.specs_le_bytes
  rw [RawSet.length_bytes] at hset
  dsimp only at hset
  omega

end Layout

/-- **Both sets of the packet in the session of its exporter**: the template is installed, one
message is made of each record, and no issue arises. -/
theorem Session.decodeSets_sent {elements : Registry} {l : Layout} (hl : l.Announceable elements)
    (hsize : l.specs.length < 65536) {body : Bytes} {rs : List (List Value)}
    (hlen : rs.length ≤ body.length)
    (hrun : DataRun (l.template elements).fields (max (l.template elements).minRecordLength 1)
      (Cursor.ofBytes body) rs none) (h : Header) (s : Session) :
    s.decodeSets elements h [⟨l.kind.setId, l.bytes⟩, ⟨l.id, body⟩]
      = (s.install (l.template elements),
          [⟨[], ⟨1, 0⟩, none⟩,
            ⟨rs.map ((s.context h).message (l.template elements)), .none, none⟩]) := by
  have hfirst := decodeSet_announcement hl hsize h s
  have hsecond : (s.install (l.template elements)).decodeSet elements h ⟨l.id, body⟩
      = (s.install (l.template elements),
          ⟨rs.map ((s.context h).message (l.template elements)), .none, none⟩) :=
    decodeSet_sent (template?_install s (l.template elements)) hl.id_ge hlen hrun
  rw [decodeSets_cons (not_aborts_of_issue_none (by rw [hfirst])), hfirst,
    decodeSets_cons (not_aborts_of_issue_none (by rw [hsecond])), hsecond, decodeSets]

/-- Both sets come to an end. -/
theorem Session.finishes_sent {elements : Registry} {l : Layout} (hl : l.Announceable elements)
    (hsize : l.specs.length < 65536) {body : Bytes} {rs : List (List Value)}
    (hlen : rs.length ≤ body.length)
    (hrun : DataRun (l.template elements).fields (max (l.template elements).minRecordLength 1)
      (Cursor.ofBytes body) rs none) (h : Header) (s : Session) :
    s.finishes elements h [⟨l.kind.setId, l.bytes⟩, ⟨l.id, body⟩] = true := by
  have hfirst := decodeSet_announcement hl hsize h s
  have hkind : s.finishesSet ⟨l.kind.setId, l.bytes⟩ = true := by
    rw [finishesSet, RawSet.kind, SetKind.ofId_setId]
  have hsecond : (s.install (l.template elements)).finishesSet ⟨l.id, body⟩ = true :=
    finishesSet_of_dataRun (template?_install s (l.template elements)) hrun hlen
  rw [finishes_cons (not_aborts_of_issue_none (by rw [hfirst])), hfirst, hkind,
    finishes_singleton, hsecond, Bool.and_self]

/-- **The packet in the session of its exporter.**  The template is kept, the sequence number
moves on by the number of records, and each record has its message. -/
theorem Session.receive_sent {elements : Registry} {l : Layout} (hl : l.Announceable elements)
    (hsize : l.specs.length < 65536) {body : Bytes} {rs : List (List Value)}
    (hlen : rs.length ≤ body.length)
    (hrun : DataRun (l.template elements).fields (max (l.template elements).minRecordLength 1)
      (Cursor.ofBytes body) rs none) (h : Header) (s : Session) :
    ∃ s' p, s.receive elements h [⟨l.kind.setId, l.bytes⟩, ⟨l.id, body⟩] = (s', p) ∧
      s'.template? l.id = some (l.template elements) ∧
      s'.expected = some (h.sequence + UInt32.ofNat rs.length) ∧
      p.messages = rs.map ((s.context h).message (l.template elements)) ∧
      p.issues = s.sequenceIssues h.sequence ∧ p.changes = ⟨1, 0⟩ := by
  have hsets := decodeSets_sent hl hsize hlen hrun h s
  have hproduced : s.produced elements h [⟨l.kind.setId, l.bytes⟩, ⟨l.id, body⟩]
      = ⟨h, rs.map ((s.context h).message (l.template elements)), s.sequenceIssues h.sequence,
          ⟨1, 0⟩⟩ := by
    rw [produced, hsets, DecodedPacket.ofYields]
    simp only [List.flatMap_cons, List.flatMap_nil, List.filterMap_cons, List.filterMap_nil,
      List.nil_append, List.append_nil]
    rfl
  have hkept : ¬((s.sequenceIssues h.sequence).any fun i => i.LosesRecords) = true := by
    rw [List.any_eq_true]
    rintro ⟨i, hi, hloses⟩
    exact not_losesRecords_of_gap hi (of_decide_eq_true hloses)
  refine ⟨_, _, receive_eq elements h s _, ?_⟩
  rw [hproduced, hsets, settle, if_neg hkept, advance, List.length_map]
  exact ⟨template?_install s (l.template elements), rfl, rfl, rfl, rfl⟩

/-- **Records arrive as they were sent.**  Whatever a collector has learned before, from a packet
of at most 65535 octets that announces a template and carries records of it, followed by less
padding than a record, it makes exactly one message of each record, in order, with the values that
were sent.  All values have a wire form.  The template is kept; the only issue there can be is a
gap before the packet. -/
theorem decode_sent_records {elements : Registry} {l : Layout} (hl : l.Announceable elements)
    {records : List (List Entry)}
    (hr : ∀ r ∈ records,
      List.Forall₂ (fun f e => e.Fills f) (l.template elements).fields r)
    {padding : Bytes} (hpad : padding.length < (l.template elements).minRecordLength)
    (exportTime sequence domain : UInt32) :
    ∃ bodies, records.mapM (encodeRecord? (l.template elements).fields) = some bodies ∧
      let packet := (l.packet exportTime sequence domain (bodies ++ [padding])).build
      (packet.length ≤ 65535 → ∀ (ss : SessionTable) (now : Nat) (exporter : Address),
        ∃ ss' p, ss.decode? elements now exporter packet = some (ss', .ok p) ∧
          List.Forall₂ (fun r m => m.Reports ⟨exporter, domain, exportTime, sequence⟩
            (l.template elements) (r.map Entry.value)) records p.messages ∧
          p.issues = (ss.session now ⟨exporter, domain⟩).sequenceIssues sequence ∧
          p.changes = ⟨1, 0⟩ ∧
          ss'.template? ⟨exporter, domain⟩ l.id = some (l.template elements) ∧
          (ss'.get? ⟨exporter, domain⟩).bind Session.expected
            = some (sequence + UInt32.ofNat records.length)) := by
  obtain ⟨bodies, hbodies, hcount, hrun⟩ := dataRun_append hl.least_pos hr
  refine ⟨bodies, hbodies, ?_⟩
  intro packet hsize ss now exporter
  have hparse := Builder.parse_build (l.version_packet exportTime sequence domain _) hsize
  have hsplit := Builder.splitSets_build hsize
  have hspecs := l.specs_lt_of_length_le exportTime sequence domain _ hsize
  obtain ⟨htime, hseq, hdomain⟩ := l.header_packet exportTime sequence domain (bodies ++ [padding])
  rw [l.sets_packet] at hsplit
  generalize (l.packet exportTime sequence domain (bodies ++ [padding])).header = h
    at hparse hsplit htime hseq hdomain
  subst htime hseq hdomain
  have hlen : (records.map (List.map Entry.value)).length
      ≤ (bodies ++ [padding]).flatten.length := by
    simp only [List.length_map, List.flatten_append, List.length_append]
    omega
  have hflat : (bodies ++ [padding]).flatten = bodies.flatten ++ padding := by simp
  have hdata := hrun 0 padding hpad
  rw [← hflat] at hdata
  -- the session the packet is read in, and what it becomes
  let s := (ss.session now ⟨exporter, h.domain⟩).touch now
  have hkey : s.key = ⟨exporter, h.domain⟩ := SessionTable.key_session ss now _
  obtain ⟨s', p, hreceive, htemplate, hexpected, hmessages, hissues, hchanges⟩ :=
    Session.receive_sent hl hspecs hlen hdata h s
  have hkey' : s'.key = ⟨exporter, h.domain⟩ := by
    have := Session.key_receive elements h s [⟨l.kind.setId, l.bytes⟩,
      ⟨l.id, (bodies ++ [padding]).flatten⟩]
    rw [hreceive] at this
    exact this.trans hkey
  have hfound : (ss.insert s').get? ⟨exporter, h.domain⟩ = some s' := by
    rw [Keyed.get?_insert, if_pos hkey']
  have hdecode := SessionTable.decode_of_framed elements ss now exporter hparse hsplit
  rw [hreceive] at hdecode
  have hends : ss.finishes elements now exporter packet = true := by
    rw [SessionTable.finishes_of_framed elements ss now exporter hparse hsplit]
    exact Session.finishes_sent hl hspecs hlen hdata h s
  refine ⟨ss.insert s', p, SessionTable.decode?_eq_some_iff.mpr ⟨hends, hdecode⟩, ?_, hissues,
    hchanges, ?_, ?_⟩
  · have hcontext : s.context h = ⟨exporter, h.domain, h.exportTime, h.sequence⟩ := by
      rw [Session.context, hkey]
    rw [hmessages, hcontext, List.map_map, List.forall₂_map_right_iff, List.forall₂_same]
    intro r hmem
    refine MessageContext.reports_message _ ?_
    rw [List.length_map]
    exact (hr r hmem).length_eq.symm
  · rw [SessionTable.template?, hfound]
    exact htemplate
  · rw [hfound, Option.bind_some, hexpected, List.length_map]

/-- The number of an interface, as scope, and its name. -/
def interfaceTable : Layout := ⟨256, .options, 1, [⟨10, none, 4⟩, ⟨82, none, variableLength⟩]⟩

/-- The elements of `interfaceTable`. -/
def interfaceElements : Registry :=
  .ofList [⟨0, 10, "ingressInterface", .unsigned32⟩, ⟨0, 82, "interfaceName", .string⟩]

/-- One record of an options template with a field of variable length, followed by one octet of
padding. -/
theorem interface_name_arrives :
    ∃ ss' p, SessionTable.decode? interfaceElements .empty 0 (.v4 ⟨[192, 0, 2, 1], rfl⟩)
        (interfaceTable.packet 0 0 0 [[0, 0, 0, 3, 4, 101, 116, 104, 48], [0]]).build
          = some (ss', .ok p) ∧
      p.messages.map (fun m => m.fields.map Prod.snd) = [[.unsigned 3, .text "eth0"]] := by
  have hl : interfaceTable.Announceable interfaceElements :=
    ⟨by decide, by decide, by decide, by decide, by decide, by decide⟩
  have hrecords : ∀ r ∈ [[⟨.unsigned 3, 4⟩, ⟨.text "eth0", 4⟩]],
      List.Forall₂ (fun f e => Entry.Fills f e)
        (interfaceTable.template interfaceElements).fields r := by
    intro r hr
    rw [List.mem_singleton.mp hr]
    exact .cons ⟨by decide, ⟨by decide, by decide⟩, by decide⟩
      (.cons ⟨by decide, ⟨rfl, by decide⟩, by decide⟩ .nil)
  have hpad : List.length [(0 : UInt8)]
      < (interfaceTable.template interfaceElements).minRecordLength := by decide
  obtain ⟨bodies, hbodies, hdecode⟩ := decode_sent_records hl hrecords hpad 0 0 0
  have hwire : some bodies = some [[0, 0, 0, 3, 4, 101, 116, 104, 48]] := by
    rw [← hbodies]
    decide
  cases hwire
  obtain ⟨ss', p, hp, hreports, -⟩ := hdecode (by decide) .empty 0 (.v4 ⟨[192, 0, 2, 1], rfl⟩)
  refine ⟨ss', p, hp, ?_⟩
  obtain ⟨m, ms, hfirst, hrest, hmessages⟩ := List.forall₂_cons_left_iff.mp hreports
  rw [hmessages, List.forall₂_nil_left_iff.mp hrest, List.map_cons, hfirst.values]
  rfl

end FlowIntake
