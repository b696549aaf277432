/-
# Templates of fixed layout

Where no field announces its own length, all records of a template have one length, the sum of what
the fields declare.  The octets that many decide a record, and none of its failures is an overrun:
before each field there is still room for it and for those after it.  Such a set therefore costs its
packet at most its own records, and which octets a record has is known without reading any before.

* `Field.sized_decode`, `sized_readRecord`: what fields of fixed length and records of them look at;
* `Template.IsFixed`, `Template.recordLength`, `Template.slice`: the layout, and where a record is;
* `Template.Parts.isRecord_slice`, `Template.Parts.ends_of_fixed`: the records in their slices, and
  what ends them;
* `Session.decodeSet_fixed`: what a set of a fixed layout yields.
-/
import FlowIntake.Proofs.Packet.Partition
import FlowIntake.Proofs.Packet.Sets

namespace FlowIntake

open Reader

/-! ## 1. Fields and records -/

namespace Field

/-- How many octets the fields declare together. -/
def lengths (fields : List Field) : Nat := (fields.map fun f => f.length.toNat).sum

theorem lengths_cons (f : Field) (fields : List Field) :
    lengths (f :: fields) = f.length.toNat + lengths fields := by
  rw [lengths, List.map_cons, List.sum_cons, lengths]

theorem sized_decode {f : Field} (hfixed : f.isVariable = false) :
    Sized f.length.toNat f.decode := by
  have hdecode : f.decode = f.decodeSized f.length.toNat := by
    funext c
    rw [decode, hfixed, if_neg Bool.false_ne_true]
  rw [hdecode]
  exact DataType.sized_decode _ _ _

/-- Fields of fixed length take what they declare. -/
theorem minWireLengths_of_fixed {fields : List Field}
    (hfixed : ∀ f ∈ fields, f.isVariable = false) : minWireLengths fields = lengths fields := by
  induction fields with
  | nil => rfl
  | cons f fields ih =>
    rw [List.forall_mem_cons] at hfixed
    rw [minWireLengths, lengths_cons, ih hfixed.2, minWireLength, hfixed.1,
      if_neg Bool.false_ne_true]

end Field

/-- **A record of fields of fixed length looks at as many octets as they declare**, by induction on
the fields: what is left before each of them is enough for it and the later ones. -/
theorem sized_readRecord {fields : List Field} (hfixed : ∀ f ∈ fields, f.isVariable = false) :
    Sized (Field.lengths fields) (readRecord fields) := by
  induction fields with
  | nil => exact sized_pure []
  | cons f fields ih =>
    rw [List.forall_mem_cons] at hfixed
    rw [Field.lengths_cons]
    refine sized_bind (Field.sized_decode hfixed.1) fun v => ?_
    exact sized_bind (ih hfixed.2) fun vs => sized_pure (v :: vs)

/-! ## 2. Slices of a body -/

namespace Template

/-- No field announces its own length. -/
def IsFixed (t : Template) : Prop := ∀ f ∈ t.fields, f.isVariable = false

instance (t : Template) : Decidable t.IsFixed := by unfold IsFixed; infer_instance

/-- How many octets the fields of a template declare together. -/
def recordLength (t : Template) : Nat := Field.lengths t.fields

/-- Where the `k`-th record of a body is to be found, counted from 0. -/
def slice (t : Template) (body : Bytes) (k : Nat) : Bytes :=
  (body.drop (k * t.recordLength)).take t.recordLength

variable {t : Template}

theorem slice_append_zero {octets : Bytes} (h : octets.length = t.recordLength) (later : Bytes) :
    t.slice (octets ++ later) 0 = octets := by
  rw [slice, Nat.zero_mul, List.drop_zero, List.take_left' h]

theorem slice_append_succ {octets : Bytes} (h : octets.length = t.recordLength) (later : Bytes)
    (k : Nat) : t.slice (octets ++ later) (k + 1) = t.slice later k := by
  rw [slice, Nat.succ_mul, Nat.add_comm, ← List.drop_drop, List.drop_left' h, slice]

theorem length_flatten_of_forall {n : Nat} {pieces : List Bytes}
    (h : ∀ piece ∈ pieces, piece.length = n) : pieces.flatten.length = pieces.length * n := by
  have hall : pieces.map List.length = List.replicate pieces.length n :=
    List.map_eq_replicate_iff.mpr h
  rw [List.length_flatten, hall, List.sum_replicate_nat]

/-- After pieces of that length stands what follows them. -/
theorem slice_flatten_append {pieces : List Bytes}
    (h : ∀ piece ∈ pieces, piece.length = t.recordLength) (rest : Bytes) :
    t.slice (pieces.flatten ++ rest) pieces.length = rest.take t.recordLength := by
  rw [slice, List.drop_left' (length_flatten_of_forall h)]

namespace IsFixed

variable (hfixed : t.IsFixed)

include hfixed

theorem minRecordLength_eq : t.minRecordLength = t.recordLength :=
  Field.minWireLengths_of_fixed hfixed

/-- From as many octets as the fields declare a record is read, or it fails inside the set. -/
theorem takes_or_refuses {rest : Bytes} (hleast : t.recordLength ≤ rest.length) :
    (∃ values, (readRecord t.fields).Takes (rest.take t.recordLength) values) ∨
      ∃ e, ¬e.IsOverrun ∧ (readRecord t.fields).Refuses (rest.take t.recordLength) e :=
  sized_readRecord hfixed _ (List.length_take_of_le hleast)

/-- **All records have one length.** -/
theorem length_of_isRecord {octets : Bytes} {values : List Value}
    (h : t.IsRecord octets values) : octets.length = t.recordLength := by
  have hleast : t.recordLength ≤ octets.length := hfixed.minRecordLength_eq ▸ h.minRecordLength_le
  have hlength : (octets.take t.recordLength).length = t.recordLength :=
    List.length_take_of_le hleast
  have hread : readRecord t.fields
      ⟨0, octets.take t.recordLength ++ octets.drop t.recordLength⟩
        = .ok values ⟨octets.length, []⟩ := by
    rw [List.take_append_drop]
    exact h
  rcases hfixed.takes_or_refuses hleast with ⟨values', htakes⟩ | ⟨e, -, hrefuses⟩
  · rw [htakes] at hread
    injection hread with _ hplace
    injection hplace with hend _
    omega
  · obtain ⟨c, hc⟩ := hrefuses 0 (octets.drop t.recordLength)
    rw [hc] at hread
    cases hread

/-- **A record that fails does not overrun**, and the octets that it would have taken decide it. -/
theorem refuses_of_fault {rest : Bytes} {e : FieldError} {c : Cursor}
    (hleast : t.recordLength ≤ rest.length)
    (h : readRecord t.fields (Cursor.ofBytes rest) = .error e c) :
    ¬e.IsOverrun ∧ (readRecord t.fields).Refuses (rest.take t.recordLength) e := by
  rw [Cursor.ofBytes, ← List.take_append_drop t.recordLength rest] at h
  rcases hfixed.takes_or_refuses hleast with ⟨values, htakes⟩ | ⟨e', hinside, hrefuses⟩
  · rw [htakes] at h
    cases h
  · obtain ⟨c', hc⟩ := hrefuses 0 (rest.drop t.recordLength)
    rw [hc] at h
    cases h
    exact ⟨hinside, hrefuses⟩

end IsFixed

namespace Parts

variable {body rest : Bytes} {octets : List Bytes} {records : List (List Value)}
  {stop : Option FieldError}

/-- The records of a body have the length that is declared. -/
theorem length_of_fixed (hfixed : t.IsFixed) (h : t.Parts body octets records rest stop) :
    ∀ piece ∈ octets, piece.length = t.recordLength := by
  exact ((List.forall₂_and_left octets records).mp (h.each.imp fun _ _ hrecord =>
    ⟨hfixed.length_of_isRecord hrecord, hrecord⟩)).1

/-- **Each record is in its slice**, by induction on the records. -/
theorem isRecord_slice (hfixed : t.IsFixed) (h : t.Parts body octets records rest stop) (k : Nat)
    {values : List Value} (hk : records[k]? = some values) :
    t.IsRecord (t.slice body k) values := by
  obtain ⟨rfl, heach, -⟩ := h
  induction heach generalizing k with
  | nil => cases hk
  | @cons piece first octets records hrecord _ ih =>
    have hlength := hfixed.length_of_isRecord hrecord
    rw [List.flatten_cons, List.append_assoc]
    cases k with
    | zero =>
      cases hk
      rw [slice_append_zero hlength]
      exact hrecord
    | succ k =>
      rw [slice_append_succ hlength]
      exact ih k hk

/-- How many records a body has room for: those that are read, and those that the rest has room
for. -/
theorem length_div (hfixed : t.IsFixed) (hpos : 1 ≤ t.recordLength)
    (h : t.Parts body octets records rest stop) :
    body.length / t.recordLength = records.length + rest.length / t.recordLength := by
  rw [h.whole, List.length_append, length_flatten_of_forall (h.length_of_fixed hfixed),
    h.each.length_eq, Nat.mul_comm, Nat.mul_add_div hpos]

/-- **What ends the records.**  Either there is no room for more, or the record after them fails
inside the body, as the octets of its slice do. -/
theorem ends_of_fixed (hfixed : t.IsFixed) (hpos : 1 ≤ t.recordLength)
    (h : t.Parts body octets records rest stop) :
    stop = none ∧ records.length = body.length / t.recordLength ∨
      ∃ e, stop = some e ∧ ¬e.IsOverrun ∧ records.length < body.length / t.recordLength ∧
        (readRecord t.fields).Refuses (t.slice body records.length) e := by
  have hleast : t.minRecordLength = t.recordLength := hfixed.minRecordLength_eq
  rw [h.length_div hfixed hpos]
  cases h.ends with
  | padding hshort =>
    rw [hleast] at hshort
    exact Or.inl ⟨rfl, by rw [Nat.div_eq_of_lt hshort, Nat.add_zero]⟩
  | @fault e c hrest hfails =>
    rw [hleast] at hrest
    obtain ⟨hinside, hrefuses⟩ := hfixed.refuses_of_fault hrest hfails
    refine Or.inr ⟨e, rfl, hinside, Nat.lt_add_of_pos_right (Nat.div_pos hrest hpos), ?_⟩
    rw [h.whole, ← h.each.length_eq, slice_flatten_append (h.length_of_fixed hfixed)]
    exact hrefuses

end Parts

end Template

/-! ## 3. Sets -/

namespace Session

/-- **A set of a fixed layout never overruns.**  Its packet goes on with the set after it, in the
same session.  Each message is that of the record in its slice.  Either there are as many messages
as the set has room for and no issue, or one record fails, as its own octets do: then there are as
many messages as records before it, and it is among those that the set has room for. -/
theorem decodeSet_fixed (elements : Registry) (h : Header) {s : Session} {set : RawSet}
    {t : Template} (hkind : set.kind = .data) (ht : s.template? set.id = some t)
    (hfixed : t.IsFixed) (hpos : 1 ≤ t.recordLength) :
    let y := (s.decodeSet elements h set).2
    (∀ i, y.issue = some i → ¬i.AbortsPacket) ∧
      (∀ later, s.decodeSets elements h (set :: later)
        = ((s.decodeSets elements h later).1, y :: (s.decodeSets elements h later).2)) ∧
      (∀ k m, y.messages[k]? = some m → ∃ values,
        t.IsRecord (t.slice set.body k) values ∧ m = (s.context h).message t values) ∧
      (y.issue = none ∧ y.messages.length = set.body.length / t.recordLength ∨
        ∃ k e, y.issue = some (.recordDecode set.id k e) ∧ y.messages.length = k ∧
          k < set.body.length / t.recordLength ∧
          (readRecord t.fields).Refuses (t.slice set.body k) e) := by
  have hmin : 0 < t.minRecordLength := hfixed.minRecordLength_eq ▸ hpos
  obtain ⟨records, stop, hrun⟩ :=
    exists_dataRun (max t.minRecordLength 1) hmin (Cursor.ofBytes set.body)
  obtain ⟨pieces, rest, hparts⟩ := Template.parts_of_dataRun hmin hrun
  have hdecode := decodeSet_of_parts elements h hkind ht hmin hparts
  rw [hparts.each.length_eq] at hdecode
  intro y
  have hsession : (s.decodeSet elements h set).1 = s := by rw [hdecode]
  have hmessages : y.messages = records.map ((s.context h).message t) := by simp only [y, hdecode]
  have hissue : y.issue = stop.map (.ofRecord set.id records.length) := by simp only [y, hdecode]
  have hlength : y.messages.length = records.length := by rw [hmessages, List.length_map]
  have hends : y.issue = none ∧ y.messages.length = set.body.length / t.recordLength ∨
      ∃ k e, y.issue = some (.recordDecode set.id k e) ∧ y.messages.length = k ∧
        k < set.body.length / t.recordLength ∧
        (readRecord t.fields).Refuses (t.slice set.body k) e := by
    rcases hparts.ends_of_fixed hfixed hpos with ⟨rfl, hall⟩ | ⟨e, rfl, hinside, hroom, hrefuses⟩
    · exact Or.inl ⟨hissue, hlength.trans hall⟩
    · exact Or.inr ⟨records.length, e, hissue.trans (congrArg some (if_neg hinside)), hlength,
        hroom, hrefuses⟩
  have hgo : ∀ i, y.issue = some i → ¬i.AbortsPacket := by
    intro i hi
    rcases hends with ⟨hnone, -⟩ | ⟨k, e, hsome, -⟩
    · exact not_aborts_of_issue_none hnone i hi
    · rw [hsome] at hi
      cases hi
      exact id
  refine ⟨hgo, ?_, ?_, hends⟩
  · intro later
    rw [decodeSets_cons hgo, hsession]
  · intro k m hm
    rw [hmessages, List.getElem?_map, Option.map_eq_some_iff] at hm
    obtain ⟨values, hvalues, rfl⟩ := hm
    exact ⟨values, hparts.isRecord_slice hfixed k hvalues, rfl⟩

/-- Room for three records of a name without octets, a port and a truth value, and one octet more.
The second truth value is 3: there is one message, and the set ends there. -/
theorem second_truth_value_fails :
    let t : Template := ⟨256, .data, 0, [⟨⟨0, 82, "interfaceName", .string⟩, 0⟩,
      ⟨⟨0, 7, "sourceTransportPort", .unsigned16⟩, 2⟩,
      ⟨⟨0, 276, "dataRecordsReliability", .boolean⟩, 1⟩]⟩
    let s := (Session.new ⟨.v4 ⟨[192, 0, 2, 1], rfl⟩, 0⟩ 0).install t
    let h : Header := ⟨10, 30, 0, 0, 0⟩
    let set : RawSet := ⟨256, [0, 80, 1, 1, 187, 3, 0, 53, 2, 0]⟩
    let y := (s.decodeSet .empty h set).2
    set.kind = .data ∧ s.template? set.id = some t ∧ t.IsFixed ∧ 1 ≤ t.recordLength ∧
      set.body.length / t.recordLength = 3 ∧ y.messages.length = 1 ∧
      y.issue = some (.recordDecode 256 1 (.invalidBoolean "dataRecordsReliability" 3)) := by
  intro t s h set y
  have hfails : readRecord t.fields (Cursor.ofBytes [1, 187, 3])
      = .error (.invalidBoolean "dataRecordsReliability" 3) ⟨3, []⟩ := rfl
  have hfirst : readRecord t.fields (Cursor.ofBytes [0, 80, 1])
      = .ok [.text "", .unsigned 80, .boolean true] ⟨3, []⟩ := rfl
  have hkind : set.kind = .data := rfl
  have ht : s.template? set.id = some t := rfl
  obtain ⟨-, -, hslices, hends⟩ := decodeSet_fixed .empty h hkind ht (by decide) (by decide)
  have hsecond : ¬1 < y.messages.length := by
    intro hmore
    obtain ⟨values, hrecord, -⟩ := hslices 1 _ (List.getElem?_eq_getElem hmore)
    cases hfails.symm.trans hrecord
  refine ⟨hkind, ht, by decide, by decide, by decide, ?_⟩
  rcases hends with ⟨-, hall⟩ | ⟨k, e, hissue, hk, -, hrefuses⟩
  · exact absurd (hall ▸ (by decide : 1 < set.body.length / t.recordLength)) hsecond
  · obtain ⟨c, hc⟩ := hrefuses 0 []
    rw [List.append_nil] at hc
    have hlast : ¬1 < k := fun hmore => hsecond (Nat.lt_of_lt_of_eq hmore hk.symm)
    obtain rfl | rfl : k = 0 ∨ k = 1 := by omega
    · cases hfirst.symm.trans hc
    · cases hfails.symm.trans hc
      exact ⟨hk, hissue⟩

end Session

end FlowIntake
