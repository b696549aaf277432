/-
# Records as octets of their set

A data set is records laid end to end, and a rest that is no record: less than the smallest one, or
octets on which the fields fail.  Each record can be cut out and is the same record on its own.

* `Template.IsRecord`: octets that are one record of a template;
* `Template.Parts`, `Template.parts_of_dataRun`, `Template.Parts.dataRun`: a body that is records
  and a rest, and how it is read;
* `Template.Parts.unique`: no body is so in two ways;
* `Template.Tiles`: a body that is records and padding;
* `Template.tiles_of_dataRun`, `Template.Tiles.records_eq`: what is read to its end is tiled by what
  is read, and what is tiled is read to its end.
-/
import FlowIntake.Proofs.Packet.Records
import FlowIntake.Proofs.Wire.Locality
import Mathlib.Data.List.Forall2

namespace FlowIntake

namespace Template

/-! ## 1. One record -/

/-- The octets are one record of the template, with these values: its fields, read one after
another, take all of them. -/
def IsRecord (t : Template) (octets : Bytes) (values : List Value) : Prop :=
  readRecord t.fields (Cursor.ofBytes octets) = .ok values ⟨octets.length, []⟩

variable {t : Template}

/-- What is read in full is a record, and the first of the octets that are left. -/
theorem isRecord_of_readRecord {c c' : Cursor} {values : List Value}
    (h : readRecord t.fields c = .ok values c') :
    ∃ octets, c.rest = octets ++ c'.rest ∧ t.IsRecord octets values := by
  obtain ⟨octets, hrest, hread⟩ := local_readRecord t.fields c values c' h
  have halone := hread 0 []
  rw [List.append_nil, Nat.zero_add] at halone
  exact ⟨octets, hrest, halone⟩

namespace IsRecord

variable {octets : Bytes} {values : List Value}

/-- **A record is read at any place**, whatever follows it. -/
theorem readRecord_append (h : t.IsRecord octets values) (p : Nat) (rest : Bytes) :
    readRecord t.fields ⟨p, octets ++ rest⟩ = .ok values ⟨p + octets.length, rest⟩ := by
  obtain ⟨octets', hwhole, hread⟩ := local_readRecord _ _ _ _ h
  rw [List.append_nil] at hwhole
  have heq : octets = octets' := hwhole
  rw [heq]
  exact hread p rest

theorem minRecordLength_le (h : t.IsRecord octets values) : t.minRecordLength ≤ octets.length := by
  have htaken := (advances_readRecord t.fields).remaining_le h
  have hall : (Cursor.ofBytes octets).remaining = octets.length := rfl
  have hleast : Field.minWireLengths t.fields = t.minRecordLength := rfl
  omega

/-- **No record begins with another one**: of two records at the front of the same octets, neither
is longer. -/
theorem eq_of_append_eq {octets' : Bytes} {values' : List Value} {later later' : Bytes}
    (h : t.IsRecord octets values) (h' : t.IsRecord octets' values')
    (heq : octets ++ later = octets' ++ later') :
    octets = octets' ∧ later = later' := by
  have hread := h.readRecord_append 0 later
  rw [heq, h'.readRecord_append 0 later'] at hread
  injection hread with _ hplace
  injection hplace with _ hlater
  rw [hlater] at heq
  exact ⟨List.append_cancel_right heq, hlater.symm⟩

end IsRecord

/-! ## 2. A body -/

/-- Why the records end before a rest: it is less than the smallest record, or the fields fail
on it. -/
inductive Ends (t : Template) (rest : Bytes) : Option FieldError → Prop where
  | padding : rest.length < t.minRecordLength → t.Ends rest none
  | fault {e : FieldError} {c : Cursor} : t.minRecordLength ≤ rest.length →
      readRecord t.fields (Cursor.ofBytes rest) = .error e c → t.Ends rest (some e)

/-- The body is records of the template laid end to end, and a rest that ends them. -/
structure Parts (t : Template) (body : Bytes) (octets : List Bytes) (records : List (List Value))
    (rest : Bytes) (stop : Option FieldError) : Prop where
  whole : body = octets.flatten ++ rest
  each : List.Forall₂ t.IsRecord octets records
  ends : t.Ends rest stop

/-- **What is read from a body are its parts**, by induction on the records. -/
theorem parts_of_dataRun (hpos : 0 < t.minRecordLength) {c : Cursor} {records : List (List Value)}
    {stop : Option FieldError}
    (h : DataRun t.fields (max t.minRecordLength 1) c records stop) :
    ∃ octets rest, t.Parts c.rest octets records rest stop := by
  have hmax : max t.minRecordLength 1 = t.minRecordLength := Nat.max_eq_left hpos
  rw [hmax] at h
  induction h with
  | @padding c hshort => exact ⟨[], c.rest, rfl, .nil, .padding hshort⟩
  | @fault c c' e hleast hread =>
    obtain ⟨c'', halone⟩ := placeless_readRecord t.fields c.position 0 c.rest e c' hread
    exact ⟨[], c.rest, rfl, .nil, .fault hleast halone⟩
  | @record c c' values records stop _ hread _ ih =>
    obtain ⟨octets, hrest, hrecord⟩ := isRecord_of_readRecord hread
    obtain ⟨later, rest, hwhole, heach, hends⟩ := ih
    refine ⟨octets :: later, rest, ?_, .cons hrecord heach, hends⟩
    rw [hrest, hwhole, List.flatten_cons, List.append_assoc]

namespace Parts

variable {body rest : Bytes} {octets : List Bytes} {records : List (List Value)}
  {stop : Option FieldError}

/-- **The parts of a body are what is read from it**, by induction on the records. -/
theorem dataRun (hpos : 0 < t.minRecordLength) (h : t.Parts body octets records rest stop) :
    DataRun t.fields (max t.minRecordLength 1) (Cursor.ofBytes body) records stop := by
  obtain ⟨rfl, heach, hends⟩ := h
  have hmax : max t.minRecordLength 1 = t.minRecordLength := Nat.max_eq_left hpos
  rw [hmax, Cursor.ofBytes]
  generalize 0 = p
  induction heach generalizing p with
  | nil =>
    cases hends with
    | padding hshort => exact .padding hshort
    | @fault e c hleast hread =>
      obtain ⟨c', hmoved⟩ := placeless_readRecord t.fields 0 p rest e c hread
      exact .fault hleast hmoved
  | @cons first values octets records hrecord _ ih =>
    have hleast := hrecord.minRecordLength_le
    rw [List.flatten_cons, List.append_assoc]
    refine .record ?_ (hrecord.readRecord_append p _) (ih (p + first.length))
    rw [Cursor.remaining, List.length_append]
    omega

/-- **The parts of a body are read from it**, and nothing else. -/
theorem records_eq (hpos : 0 < t.minRecordLength)
    (h : t.Parts body octets records rest stop) : t.records body = ⟨records, stop⟩ :=
  records_of_dataRun (h.dataRun hpos) ((h.dataRun hpos).length_le hpos)

end Parts

/-- Octets that begin with a record are no rest. -/
theorem Ends.not_of_isRecord {octets later : Bytes} {values : List Value} {stop : Option FieldError}
    (h : t.IsRecord octets values) : ¬t.Ends (octets ++ later) stop := by
  intro hends
  cases hends with
  | padding hshort =>
    have hleast := h.minRecordLength_le
    rw [List.length_append] at hshort
    omega
  | fault _ hread =>
    have hrecord := h.readRecord_append 0 later
    rw [Cursor.ofBytes, hrecord] at hread
    cases hread

/-- **A body has parts in one way only**, by induction on the records: at each place there is one
record or none. -/
theorem Parts.unique {body rest rest' : Bytes} {octets octets' : List Bytes}
    {records records' : List (List Value)} {stop stop' : Option FieldError}
    (h : t.Parts body octets records rest stop) (h' : t.Parts body octets' records' rest' stop') :
    octets = octets' ∧ rest = rest' := by
  obtain ⟨hwhole, heach, hends⟩ := h
  obtain ⟨hwhole', heach', hends'⟩ := h'
  induction heach generalizing body octets' records' with
  | nil =>
    cases heach' with
    | nil => exact ⟨rfl, hwhole.symm.trans hwhole'⟩
    | cons hrecord _ =>
      rw [hwhole, List.flatten_nil, List.nil_append] at hwhole'
      rw [hwhole', List.flatten_cons, List.append_assoc] at hends
      exact absurd hends (Ends.not_of_isRecord hrecord)
  | cons hrecord _ ih =>
    cases heach' with
    | nil =>
      rw [hwhole', List.flatten_nil, List.nil_append] at hwhole
      rw [hwhole, List.flatten_cons, List.append_assoc] at hends'
      exact absurd hends' (Ends.not_of_isRecord hrecord)
    | cons hrecord' hlater' =>
      rw [hwhole, List.flatten_cons, List.flatten_cons, List.append_assoc, List.append_assoc]
        at hwhole'
      obtain ⟨rfl, hlater⟩ := hrecord.eq_of_append_eq hrecord' hwhole'
      obtain ⟨rfl, rfl⟩ := ih rfl hlater hlater'
      exact ⟨rfl, rfl⟩

/-! ## 3. A body that is read to its end -/

/-- The body is records of the template laid end to end, and after them less than the smallest
record. -/
structure Tiles (t : Template) (body : Bytes) (octets : List Bytes) (records : List (List Value))
    (padding : Bytes) : Prop where
  whole : body = octets.flatten ++ padding
  each : List.Forall₂ t.IsRecord octets records
  short : padding.length < t.minRecordLength

/-- **What is read to its end is tiled by what is read.** -/
theorem tiles_of_dataRun (hpos : 0 < t.minRecordLength) {c : Cursor} {records : List (List Value)}
    (h : DataRun t.fields (max t.minRecordLength 1) c records none) :
    ∃ octets padding, t.Tiles c.rest octets records padding := by
  obtain ⟨octets, padding, hwhole, heach, hends⟩ := parts_of_dataRun hpos h
  cases hends with
  | padding hshort => exact ⟨octets, padding, hwhole, heach, hshort⟩

namespace Tiles

variable {body padding : Bytes} {octets : List Bytes} {records : List (List Value)}

/-- What is tiled has padding for its rest. -/
theorem parts (h : t.Tiles body octets records padding) :
    t.Parts body octets records padding none :=
  ⟨h.whole, h.each, .padding h.short⟩

/-- **What is tiled is read to its end**, as the records that tile it. -/
theorem records_eq (h : t.Tiles body octets records padding) :
    t.records body = ⟨records, none⟩ := by
  have hpos : 0 < t.minRecordLength := Nat.lt_of_le_of_lt (Nat.zero_le _) h.short
  exact h.parts.records_eq hpos

end Tiles

/-- A body is read to its end exactly when records of the template tile it. -/
theorem stop_eq_none_iff (hpos : 0 < t.minRecordLength) {body : Bytes} :
    (t.records body).stop = none ↔
      ∃ octets padding, t.Tiles body octets (t.records body).records padding := by
  constructor
  · intro hstop
    have hrun := dataRun_records hpos body
    rw [hstop] at hrun
    exact tiles_of_dataRun hpos hrun
  · rintro ⟨octets, padding, htiles⟩
    rw [htiles.records_eq]

end Template

end FlowIntake
