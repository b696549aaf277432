/-
# The values that a data type makes

A field is read in three steps: its length is accepted, that many octets are there, and they have a
value.  The value is of the kind that the data type prescribes, and so are the values of a record
those of the elements of its fields.

* `DataType.decode_eq_ok_iff`: when a field is read, and as what;
* `Value.Kind`, `DataType.kind`, `DataType.kind_of_interpret`: the kinds of values;
* `Element.Yields`, `yields_of_readRecord`, `kinds_of_readRecord`: the values of a record.
-/
import FlowIntake.Packet.Sets
import FlowIntake.Proofs.Wire.Reads
import Mathlib.Data.List.Forall2

namespace FlowIntake

/-! ## 1. Fields -/

/-- A field is read when its length is accepted, its octets are there and they have a value. -/
theorem DataType.decode_eq_ok_iff {t : DataType} {name : String} {n : Nat} {c c' : Cursor}
    {v : Value} :
    t.decode name n c = .ok v c' ↔
      t.Accepts n ∧ ∃ bs, Cursor.take n c = .ok bs c' ∧ t.interpret bs = some v := by
  unfold DataType.decode
  constructor
  · intro h
    split at h
    · rename_i haccepts
      split at h
      · cases h
      · rename_i bs c₁ htake
        split at h
        · rename_i w hw
          cases h
          exact ⟨haccepts, bs, htake, hw⟩
        · cases h
    · cases h
  · rintro ⟨haccepts, bs, htake, hv⟩
    rw [if_pos haccepts, htake]
    simp only [hv]

/-! ## 2. Kinds -/

/-- The kinds of values. -/
inductive Value.Kind where
  | unsigned | signed | float | boolean | mac | octets | text | ipv4 | ipv6
  | seconds | milliseconds | microseconds | nanoseconds
deriving DecidableEq

/-- The kind of a value. -/
def Value.kind : Value → Kind
  | unsigned _ => .unsigned
  | signed _ => .signed
  | float _ => .float
  | boolean _ => .boolean
  | mac _ => .mac
  | octets _ => .octets
  | text _ => .text
  | ipv4 _ => .ipv4
  | ipv6 _ => .ipv6
  | seconds _ => .seconds
  | milliseconds _ => .milliseconds
  | microseconds _ _ => .microseconds
  | nanoseconds _ _ => .nanoseconds

/-- The kind of value that a data type prescribes.  Lists are not taken apart, so that their octets
are kept. -/
def DataType.kind : DataType → Value.Kind
  | unsigned8 | unsigned16 | unsigned32 | unsigned64 => .unsigned
  | signed8 | signed16 | signed32 | signed64 => .signed
  | float32 | float64 => .float
  | boolean => .boolean
  | macAddress => .mac
  | octetArray | basicList | subTemplateList | subTemplateMultiList => .octets
  | string => .text
  | dateTimeSeconds => .seconds
  | dateTimeMilliseconds => .milliseconds
  | dateTimeMicroseconds => .microseconds
  | dateTimeNanoseconds => .nanoseconds
  | ipv4Address => .ipv4
  | ipv6Address => .ipv6

/-- **Octets have a value of the kind that their data type prescribes.** -/
theorem DataType.kind_of_interpret {t : DataType} {bs : Bytes} {v : Value}
    (h : t.interpret bs = some v) : v.kind = t.kind := by
  cases t with
  | boolean =>
    simp only [interpret] at h
    split at h <;> cases h <;> rfl
  | _ =>
    cases h
    rfl

/-! ## 3. Records -/

/-- The value is what the data type of the element makes of some octets. -/
def Element.Yields (e : Element) (v : Value) : Prop := ∃ bs, e.type.interpret bs = some v

/-- What a field holds is a value of its element. -/
theorem Field.yields_of_decode {f : Field} {c c' : Cursor} {v : Value}
    (h : f.decode c = .ok v c') : f.element.Yields v := by
  have hsized {n : Nat} {c : Cursor} (h : f.decodeSized n c = .ok v c') : f.element.Yields v := by
    obtain ⟨-, bs, -, hv⟩ := DataType.decode_eq_ok_iff.mp h
    exact ⟨bs, hv⟩
  rw [decode] at h
  split at h
  · split at h
    · exact hsized h
    · cases h
  · exact hsized h

/-- The values of a record are those of the elements of its fields. -/
theorem yields_of_readRecord {fields : List Field} {c c' : Cursor} {values : List Value}
    (h : readRecord fields c = .ok values c') :
    List.Forall₂ Element.Yields (fields.map Field.element) values := by
  induction fields generalizing c values with
  | nil =>
    cases h
    exact .nil
  | cons f fields ih =>
    obtain ⟨v, c₁, hv, h⟩ := Reader.bind_ok_iff.mp h
    obtain ⟨values', c₂, hvalues, h⟩ := Reader.bind_ok_iff.mp h
    cases h
    exact .cons (Field.yields_of_decode hv) (ih hvalues)

/-- **The values of a record are of the kinds that the data types of its elements prescribe**, in
the order of its fields. -/
theorem kinds_of_readRecord {fields : List Field} {c c' : Cursor} {values : List Value}
    (h : readRecord fields c = .ok values c') :
    List.Forall₂ (fun f v => v.kind = f.element.type.kind) fields values := by
  have hyields := yields_of_readRecord h
  rw [List.forall₂_map_left_iff] at hyields
  refine hyields.imp ?_
  rintro f v ⟨bs, hv⟩
  exact DataType.kind_of_interpret hv

end FlowIntake
