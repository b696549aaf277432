/-
# The records of a data set, octet by octet

Fields of variable length make records of different sizes, so that where a record begins is known
only when those before it have been read.  Still there is one way only to cut a data set into
records and a rest, and decoding the set takes it: each record becomes a message with its values,
and the rest is padding or the record that the issue of the set names.

* `Template.Cut`: a body that is records and a rest, said of its octets alone;
* `Template.Cut.parts`, `Template.Parts.cut`: the same with what is read from them;
* `Message.OfRecord`: a message with the values of the octets of one record;
* `Session.decodeSet_of_parts`: what a data set yields, once it is cut;
* `Session.decodeSet_partition`: every data set of a known template.
-/
import FlowIntake.Proofs.Field.Kinds
import FlowIntake.Proofs.Packet.RoundTrip
import FlowIntake.Proofs.Packet.Tiling

namespace FlowIntake

/-! ## 1. Octets -/

namespace Template

/-- The body is pieces laid end to end and a rest.  Each piece is not empty, has at least as many
octets as the smallest record, and is taken whole when the fields are read from it in order; the
rest is less than the smallest record, or the fields fail on it. -/
structure Cut (t : Template) (body : Bytes) (pieces : List Bytes) (rest : Bytes) : Prop where
  whole : body = pieces.flatten ++ rest
  ne_nil : ∀ piece ∈ pieces, piece ≠ []
  least : ∀ piece ∈ pieces, t.minRecordLength ≤ piece.length
  taken : ∀ piece ∈ pieces, ∃ values, t.IsRecord piece values
  ends : rest.length < t.minRecordLength ∨ t.minRecordLength ≤ rest.length ∧
    ∃ e c, readRecord t.fields (Cursor.ofBytes rest) = .error e c

variable {t : Template} {body rest : Bytes} {pieces : List Bytes}

/-- Pieces each of which is a record have their values in order. -/
theorem exists_records (h : ∀ piece ∈ pieces, ∃ values, t.IsRecord piece values) :
    ∃ records, List.Forall₂ t.IsRecord pieces records := by
  induction pieces with
  | nil => exact ⟨[], .nil⟩
  | cons piece pieces ih =>
    obtain ⟨values, hvalues⟩ := h piece List.mem_cons_self
    obtain ⟨records, hrecords⟩ := ih fun p hp => h p (List.mem_cons_of_mem piece hp)
    exact ⟨values :: records, .cons hvalues hrecords⟩

/-- A body that is cut has the pieces and the rest for its parts. -/
theorem Cut.parts (h : t.Cut body pieces rest) :
    ∃ records stop, t.Parts body pieces records rest stop := by
  obtain ⟨records, hrecords⟩ := exists_records h.taken
  rcases h.ends with hshort | ⟨hleast, e, c, hfails⟩
  · exact ⟨records, none, h.whole, hrecords, .padding hshort⟩
  · exact ⟨records, some e, h.whole, hrecords, .fault hleast hfails⟩

/-- The parts of a body cut it, where records take octets. -/
theorem Parts.cut (hpos : 0 < t.minRecordLength) {records : List (List Value)}
    {stop : Option FieldError} (h : t.Parts body pieces records rest stop) :
    t.Cut body pieces rest := by
  obtain ⟨hwhole, heach, hends⟩ := h
  have htaken : ∀ piece ∈ pieces, ∃ values, t.IsRecord piece values :=
    ((List.forall₂_and_left pieces records).mp
      (heach.imp fun piece values h => ⟨⟨values, h⟩, h⟩)).1
  have hleast : ∀ piece ∈ pieces, t.minRecordLength ≤ piece.length := by
    intro piece hpiece
    obtain ⟨values, hrecord⟩ := htaken piece hpiece
    exact hrecord.minRecordLength_le
  refine ⟨hwhole, ?_, hleast, htaken, ?_⟩
  · rintro piece hpiece rfl
    have hlength := hleast [] hpiece
    exact absurd hpos (Nat.not_lt.mpr hlength)
  · cases hends with
    | padding hshort => exact Or.inl hshort
    | fault hrest hfails => exact Or.inr ⟨hrest, _, _, hfails⟩

end Template

/-! ## 2. Messages -/

/-- The message carries the values of the octets of one record under the keys of the template's
fields and in their order, each of the kind that the data type of its element prescribes. -/
def Message.OfRecord (m : Message) (c : MessageContext) (t : Template) (octets : Bytes) : Prop :=
  ∃ values, t.IsRecord octets values ∧ m.Reports c t values ∧
    List.Forall₂ (fun f v => v.kind = f.element.type.kind) t.fields values

/-- The message of the values of a record carries them. -/
theorem MessageContext.ofRecord_message (c : MessageContext) {t : Template} {octets : Bytes}
    {values : List Value} (h : t.IsRecord octets values) :
    (c.message t values).OfRecord c t octets :=
  ⟨values, h, c.reports_message (length_of_readRecord h), kinds_of_readRecord h⟩

namespace Session

variable {h : Header} {s : Session} {set : RawSet} {t : Template}

/-- **What a data set yields, once it is cut**: the messages of its records, and the failure on its
rest as the issue. -/
theorem decodeSet_of_parts (elements : Registry) (h : Header) (hkind : set.kind = .data)
    (ht : s.template? set.id = some t) (hpos : 0 < t.minRecordLength) {pieces : List Bytes}
    {rest : Bytes} {records : List (List Value)} {stop : Option FieldError}
    (hparts : t.Parts set.body pieces records rest stop) :
    s.decodeSet elements h set
      = (s, ⟨records.map ((s.context h).message t), .none,
          stop.map (.ofRecord set.id pieces.length)⟩) := by
  have hrecords := hparts.records_eq hpos
  rw [decodeSet, hkind]
  simp only [ht, hrecords, MessageContext.messages_eq, hparts.each.length_eq]

/-- A set that changes no templates adds its messages and its issue to its packet, and leaves the
packet otherwise as it is. -/
theorem ofYields_concat {y : SetYield} (hchanges : y.changes = .none) (gaps : List SetIssue)
    (ys : List SetYield) :
    DecodedPacket.ofYields h gaps (ys ++ [y])
      = { DecodedPacket.ofYields h gaps ys with
          messages := (DecodedPacket.ofYields h gaps ys).messages ++ y.messages
          issues := (DecodedPacket.ofYields h gaps ys).issues ++ y.issue.toList } := by
  have hnone : ∀ n : TemplateChanges, n + TemplateChanges.none = n := fun n =>
    TemplateChanges.ext rfl rfl
  have hissue : [y].filterMap SetYield.issue = y.issue.toList := by
    cases hy : y.issue <;> simp [hy]
  simp only [DecodedPacket.ofYields, List.flatMap_append, List.flatMap_singleton,
    List.filterMap_append, hissue, List.map_append, List.map_cons, List.map_nil,
    List.foldl_append, List.foldl_cons, List.foldl_nil, hchanges, hnone, List.append_assoc]

/-- **A data set is cut into records in one way, and decoded so.**  The rest that is left is
padding, or the record of which the issue of the set says that it fails, and why.  The messages are
those of the pieces, one for each, and neither the session nor anything else of the packet changes.
-/
theorem decodeSet_partition (elements : Registry) (h : Header) {s : Session} {set : RawSet}
    {t : Template} (hkind : set.kind = .data) (ht : s.template? set.id = some t)
    (hpos : 1 ≤ t.minRecordLength) :
    let y := (s.decodeSet elements h set).2
    ∃ pieces rest,
      t.Cut set.body pieces rest ∧
      (∀ pieces' rest', t.Cut set.body pieces' rest' → pieces' = pieces ∧ rest' = rest) ∧
      (rest.length < t.minRecordLength ∧ y.issue = none ∨
        t.minRecordLength ≤ rest.length ∧ ∃ e c,
          readRecord t.fields (Cursor.ofBytes rest) = .error e c ∧
          (e.IsOverrun ∧ y.issue = some (.recordOverrun set.id pieces.length e) ∨
            ¬e.IsOverrun ∧ y.issue = some (.recordDecode set.id pieces.length e))) ∧
      List.Forall₂ (fun piece m => m.OfRecord (s.context h) t piece) pieces y.messages ∧
      (s.decodeSet elements h set).1 = s ∧
      ∀ gaps ys, DecodedPacket.ofYields h gaps (ys ++ [y])
        = { DecodedPacket.ofYields h gaps ys with
            messages := (DecodedPacket.ofYields h gaps ys).messages ++ y.messages
            issues := (DecodedPacket.ofYields h gaps ys).issues ++ y.issue.toList } := by
  obtain ⟨records, stop, hrun⟩ :=
    exists_dataRun (max t.minRecordLength 1) hpos (Cursor.ofBytes set.body)
  obtain ⟨pieces, rest, hparts⟩ := Template.parts_of_dataRun hpos hrun
  have hdecode := decodeSet_of_parts elements h hkind ht hpos hparts
  intro y
  have hy : y = (s.decodeSet elements h set).2 := rfl
  rw [hdecode] at hy
  refine ⟨pieces, rest, hparts.cut hpos, ?_, ?_, ?_, ?_, ?_⟩
  · intro pieces' rest' hcut
    obtain ⟨records', stop', hparts'⟩ := hcut.parts
    exact hparts'.unique hparts
  · have hissue : y.issue = stop.map (.ofRecord set.id pieces.length) := by rw [hy]
    cases hparts.ends with
    | padding hshort => exact Or.inl ⟨hshort, hissue⟩
    | @fault e c hleast hfails =>
      refine Or.inr ⟨hleast, e, c, hfails, ?_⟩
      by_cases hover : e.IsOverrun
      · exact Or.inl ⟨hover, hissue.trans (congrArg some (if_pos hover))⟩
      · exact Or.inr ⟨hover, hissue.trans (congrArg some (if_neg hover))⟩
  · rw [hy, List.forall₂_map_right_iff]
    exact hparts.each.imp fun piece values hrecord => (s.context h).ofRecord_message hrecord
  · rw [hdecode]
  · exact ofYields_concat (by rw [hy])

/-- Two records with names of one and of two octets, and a third whose name is longer than the set:
the set yields the two, and its issue names the third. -/
theorem third_name_is_cut_off :
    let t : Template := ⟨256, .data, 0, [⟨⟨0, 82, "interfaceName", .string⟩, variableLength⟩,
      ⟨⟨0, 7, "sourceTransportPort", .unsigned16⟩, 2⟩]⟩
    let s := (Session.new ⟨.v4 ⟨[192, 0, 2, 1], rfl⟩, 0⟩ 0).install t
    let h : Header := ⟨10, 32, 0, 0, 0⟩
    let pieces : List Bytes := [[1, 97, 0, 80], [2, 98, 99, 1, 187]]
    let set : RawSet := ⟨256, pieces.flatten ++ [5, 100, 101]⟩
    let y := (s.decodeSet .empty h set).2
    set.kind = .data ∧ s.template? set.id = some t ∧ 1 ≤ t.minRecordLength ∧
      t.Cut set.body pieces [5, 100, 101] ∧
      y.issue = some (.recordOverrun 256 2 (.read (.short 5 2))) ∧
      List.Forall₂ (fun piece m => m.OfRecord (s.context h) t piece) pieces y.messages ∧
      (s.decodeSet .empty h set).1 = s := by
  intro t s h pieces set y
  have hfails : readRecord t.fields (Cursor.ofBytes [5, 100, 101])
      = .error (.read (.short 5 2)) ⟨1, [100, 101]⟩ := rfl
  have hfirst : t.IsRecord [1, 97, 0, 80] [.text "a", .unsigned 80] := rfl
  have hsecond : t.IsRecord [2, 98, 99, 1, 187] [.text "bc", .unsigned 443] := rfl
  have hcut : t.Cut set.body pieces [5, 100, 101] :=
    Template.Parts.cut (by decide)
      ⟨rfl, .cons hfirst (.cons hsecond .nil), .fault (by decide) hfails⟩
  have hkind : set.kind = .data := rfl
  have ht : s.template? set.id = some t := rfl
  obtain ⟨pieces', rest', -, hunique, hends, hmessages, hsession, -⟩ :=
    decodeSet_partition .empty h hkind ht (by decide)
  obtain ⟨rfl, rfl⟩ := hunique pieces [5, 100, 101] hcut
  refine ⟨hkind, ht, by decide, hcut, ?_, hmessages, hsession⟩
  rcases hends with ⟨hshort, -⟩ | ⟨-, e, c, he, hissue⟩
  · exact absurd hshort (by decide)
  · rw [hfails] at he
    cases he
    rcases hissue with ⟨-, hissue⟩ | ⟨hno, -⟩
    · exact hissue
    · exact absurd trivial hno

end Session

end FlowIntake
