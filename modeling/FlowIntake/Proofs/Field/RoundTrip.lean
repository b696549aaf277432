/-
# Fields are read back as they were written

An exporter writes a record field by field: each value in its wire form, and before a field of
variable length how many octets follow.  `Value.Suits` says which values the octets of a field can
hold, and `Entry.Fills` when a value stands in a field of a template.

* `Value.exists_encode`: a value that suits its field has a wire form, which has the field's
  length and is understood as that value;
* `DataType.decode_append`, `Entry.decode_append`: the field is read back, whatever follows it;
* `readRecord_append`: so is a record, by induction on its fields.

Doubles are left out: their narrow form loses digits.
-/
import FlowIntake.Packet.Sets
import FlowIntake.Proofs.Text.Utf8
import FlowIntake.Proofs.Wire.Reads
import Mathlib.Data.List.Forall2

namespace FlowIntake

/-! ## 1. Values that a field can hold -/

namespace DataType

/-- The types of whole numbers without a sign. -/
def unsignedTypes : List DataType := [unsigned8, unsigned16, unsigned32, unsigned64]

/-- The types of whole numbers with a sign. -/
def signedTypes : List DataType := [signed8, signed16, signed32, signed64]

/-- The types whose octets are kept as they are. -/
def octetTypes : List DataType := [octetArray, basicList, subTemplateList, subTemplateMultiList]

theorem maxLength_le_of_unsigned : ∀ t ∈ unsignedTypes, t.maxLength ≤ 8 := by decide

theorem maxLength_le_of_signed : ∀ t ∈ signedTypes, t.maxLength ≤ 8 := by decide

theorem interpret_unsigned {t : DataType} (ht : t ∈ unsignedTypes) (bs : Bytes) :
    t.interpret bs = some (.unsigned (UInt64.ofNat bs.value)) := by
  simp only [unsignedTypes, List.mem_cons, List.not_mem_nil, or_false] at ht
  rcases ht with rfl | rfl | rfl | rfl <;> rfl

theorem interpret_signed {t : DataType} (ht : t ∈ signedTypes) (bs : Bytes) :
    t.interpret bs = some (.signed (Int64.ofInt bs.signedValue)) := by
  simp only [signedTypes, List.mem_cons, List.not_mem_nil, or_false] at ht
  rcases ht with rfl | rfl | rfl | rfl <;> rfl

theorem interpret_octets {t : DataType} (ht : t ∈ octetTypes) (bs : Bytes) :
    t.interpret bs = some (.octets bs) := by
  simp only [octetTypes, List.mem_cons, List.not_mem_nil, or_false] at ht
  rcases ht with rfl | rfl | rfl | rfl <;> rfl

end DataType

namespace Value

/-- The value is one of data type `t` that `n` octets can hold: a number in the range of so many
octets, text and octets of exactly that length, a microsecond fraction without undefined bits. -/
def Suits (t : DataType) (n : Nat) : Value → Prop
  | unsigned v => t ∈ DataType.unsignedTypes ∧ v.toNat < Bytes.capacity n
  | signed v =>
    t ∈ DataType.signedTypes ∧
      -(Bytes.capacity n : Int) ≤ 2 * v.toInt ∧ 2 * v.toInt < Bytes.capacity n
  | float _ => False
  | boolean _ => t = .boolean
  | mac _ => t = .macAddress
  | octets bs => t ∈ DataType.octetTypes ∧ bs.length = n
  | text s => t = .string ∧ (Utf8.encode s).length = n
  | ipv4 _ => t = .ipv4Address
  | ipv6 _ => t = .ipv6Address
  | seconds _ => t = .dateTimeSeconds
  | milliseconds _ => t = .dateTimeMilliseconds
  | microseconds _ fraction => t = .dateTimeMicroseconds ∧ fraction.toNat % 2048 = 0
  | nanoseconds _ _ => t = .dateTimeNanoseconds

/-- The mask of a microsecond fraction clears its eleven lowest bits. -/
theorem toNat_and_microsecondMask (f : UInt32) :
    (f &&& DataType.microsecondMask).toNat = f.toNat - f.toNat % 2048 := by
  have hmask : DataType.microsecondMask.toNat = (2 ^ 21 - 1) <<< 11 := by decide
  have hcleared : f.toNat - f.toNat % 2048 = (f.toNat >>> 11) <<< 11 := by
    rw [Nat.shiftRight_eq_div_pow, Nat.shiftLeft_eq]
    omega
  have hlt := f.toNat_lt
  rw [UInt32.toNat_and, hmask, hcleared]
  refine Nat.eq_of_testBit_eq fun i => ?_
  rw [Nat.testBit_and, Nat.testBit_shiftLeft, Nat.testBit_two_pow_sub_one, Nat.testBit_shiftLeft,
    Nat.testBit_shiftRight]
  by_cases hlow : 11 ≤ i
  · by_cases hhigh : i < 32
    · have hin : i - 11 < 21 := by omega
      simp [hlow, hin]
    · have hzero : f.toNat.testBit i = false := by
        refine Nat.testBit_lt_two_pow (hlt.trans_le ?_)
        exact Nat.pow_le_pow_right (by decide) (by omega)
      simp [hlow, hzero]
  · simp [hlow]

/-- It changes nothing where the undefined bits are zero. -/
theorem and_microsecondMask {f : UInt32} (h : f.toNat % 2048 = 0) :
    f &&& DataType.microsecondMask = f := by
  rw [← UInt32.toNat_inj, toNat_and_microsecondMask, h, Nat.sub_zero]

/-! ### Numbers of fixed width -/

theorem ofNat_value_u32 (v : UInt32) : UInt32.ofNat (Bytes.value (Bytes.ofNat 4 v.toNat)) = v := by
  rw [Bytes.value_ofNat_of_lt v.toNat_lt, UInt32.ofNat_toNat]

theorem ofNat_value_u64 (v : UInt64) {n : Nat} (h : v.toNat < Bytes.capacity n) :
    UInt64.ofNat (Bytes.value (Bytes.ofNat n v.toNat)) = v := by
  rw [Bytes.value_ofNat_of_lt h, UInt64.ofNat_toNat]

theorem toInt_emod (v : Int64) :
    v.toInt % (Bytes.capacity 8 : Int) = (v.toUInt64.toNat : Int) % Bytes.capacity 8 := by
  rw [← Int64.toNat_toBitVec, ← Int64.toInt_toBitVec, BitVec.toInt_eq_toNat_bmod]
  exact Int.bmod_emod

/-- Two numbers of four octets, one after the other, are told apart again. -/
theorem take_drop_ofNat (a b : UInt32) :
    (Bytes.ofNat 4 a.toNat ++ Bytes.ofNat 4 b.toNat).take 4 = Bytes.ofNat 4 a.toNat ∧
      (Bytes.ofNat 4 a.toNat ++ Bytes.ofNat 4 b.toNat).drop 4 = Bytes.ofNat 4 b.toNat :=
  ⟨List.take_left' (Bytes.length_ofNat 4 _), List.drop_left' (Bytes.length_ofNat 4 _)⟩

/-! ### The wire form -/

/-- **A value that suits its field is understood from its wire form.**  It has one, of exactly the
field's length. -/
theorem exists_encode {t : DataType} {n : Nat} {v : Value} (ha : t.Accepts n) (h : v.Suits t n) :
    ∃ bs, v.encode? n = some bs ∧ bs.length = n ∧ t.interpret bs = some v := by
  obtain ⟨hmin, hmax, -⟩ := ha
  cases v with
  | unsigned v =>
    obtain ⟨ht, hv⟩ := h
    have hn : n ≤ 8 := hmax.trans (DataType.maxLength_le_of_unsigned t ht)
    refine ⟨Bytes.ofNat n v.toNat, by simp [encode?, hn], Bytes.length_ofNat _ _, ?_⟩
    rw [DataType.interpret_unsigned ht, ofNat_value_u64 v hv]
  | signed v =>
    obtain ⟨ht, hv⟩ := h
    have hn : n ≤ 8 := hmax.trans (DataType.maxLength_le_of_signed t ht)
    refine ⟨Bytes.ofNat n v.toUInt64.toNat, by simp [encode?, hn], Bytes.length_ofNat _ _, ?_⟩
    rw [DataType.interpret_signed ht, Bytes.signedValue_ofNat (toInt_emod v) hn hv,
      Int64.ofInt_toInt]
  | float bits => exact h.elim
  | boolean b =>
    cases h
    have hn : n = 1 := Nat.le_antisymm hmax hmin
    refine ⟨[if b then 1 else 2], rfl, hn.symm, ?_⟩
    cases b <;> rfl
  | mac o =>
    cases h
    have hn : n = 6 := Nat.le_antisymm hmax hmin
    refine ⟨o.toBytes, rfl, o.size.trans hn.symm, ?_⟩
    rw [DataType.interpret, Octets.ofBytes_toBytes]
  | octets bs =>
    obtain ⟨ht, hn⟩ := h
    exact ⟨bs, rfl, hn, DataType.interpret_octets ht bs⟩
  | text s =>
    obtain ⟨rfl, hn⟩ := h
    refine ⟨Utf8.encode s, rfl, hn, ?_⟩
    rw [DataType.interpret, Utf8.decode_encode]
  | ipv4 o =>
    cases h
    have hn : n = 4 := Nat.le_antisymm hmax hmin
    refine ⟨o.toBytes, rfl, o.size.trans hn.symm, ?_⟩
    rw [DataType.interpret, Octets.ofBytes_toBytes]
  | ipv6 o =>
    cases h
    have hn : n = 16 := Nat.le_antisymm hmax hmin
    refine ⟨o.toBytes, rfl, o.size.trans hn.symm, ?_⟩
    rw [DataType.interpret, Octets.ofBytes_toBytes]
  | seconds s =>
    cases h
    have hn : n = 4 := Nat.le_antisymm hmax hmin
    refine ⟨Bytes.ofNat 4 s.toNat, rfl, (Bytes.length_ofNat _ _).trans hn.symm, ?_⟩
    rw [DataType.interpret, ofNat_value_u32]
  | milliseconds ms =>
    cases h
    have hn : n = 8 := Nat.le_antisymm hmax hmin
    refine ⟨Bytes.ofNat 8 ms.toNat, rfl, (Bytes.length_ofNat _ _).trans hn.symm, ?_⟩
    rw [DataType.interpret, ofNat_value_u64 (n := 8) ms ms.toNat_lt]
  | microseconds s f =>
    obtain ⟨rfl, hf⟩ := h
    have hn : n = 8 := Nat.le_antisymm hmax hmin
    refine ⟨Bytes.ofNat 4 s.toNat ++ Bytes.ofNat 4 f.toNat, rfl, by simp [hn], ?_⟩
    rw [DataType.interpret, (take_drop_ofNat s f).1, (take_drop_ofNat s f).2, ofNat_value_u32,
      ofNat_value_u32, and_microsecondMask hf]
  | nanoseconds s f =>
    cases h
    have hn : n = 8 := Nat.le_antisymm hmax hmin
    refine ⟨Bytes.ofNat 4 s.toNat ++ Bytes.ofNat 4 f.toNat, rfl, by simp [hn], ?_⟩
    rw [DataType.interpret, (take_drop_ofNat s f).1, (take_drop_ofNat s f).2, ofNat_value_u32,
      ofNat_value_u32]

end Value

/-! ## 2. Fields and records

An `Entry` is a value with the length it is written in.  A field of fixed length leaves no choice
of it; a field of variable length announces it. -/

/-- A value to be written, and in how many octets. -/
structure Entry where
  value : Value
  length : Nat
deriving DecidableEq

namespace Entry

/-- The entry may stand in field `f`: the data type accepts the length, the value suits it, and a
fixed length is the field's own. -/
structure Fills (f : Field) (e : Entry) : Prop where
  accepts : f.element.type.Accepts e.length
  suits : e.value.Suits f.element.type e.length
  fixed : f.isVariable = false → e.length = f.length.toNat

/-- The octets of an entry in field `f`, with its length before them when that varies. -/
def encode? (f : Field) (e : Entry) : Option Bytes :=
  (e.value.encode? e.length).map fun bs => if f.isVariable then variableField bs else bs

end Entry

/-- The octets of a record: one entry for each field, one after another. -/
def encodeRecord? : List Field → List Entry → Option Bytes
  | f :: fs, e :: es => do
    let first ← e.encode? f
    let rest ← encodeRecord? fs es
    return first ++ rest
  | [], [] => some []
  | _, _ => none

theorem DataType.maxLength_le (t : DataType) : t.maxLength ≤ maxFieldLength := by
  cases t <;> decide

/-- A field whose octets have a value is read as that value, whatever follows. -/
theorem DataType.decode_append {t : DataType} {bs : Bytes} {v : Value} (name : String) (p : Nat)
    (rest : Bytes) (ha : t.Accepts bs.length) (hv : t.interpret bs = some v) :
    t.decode name bs.length ⟨p, bs ++ rest⟩ = .ok v ⟨p + bs.length, rest⟩ := by
  rw [DataType.decode, if_pos ha, Cursor.take_append]
  simp only [hv]

/-- **An entry is read back from its field**, whatever follows.  It takes at least as many octets
as the smallest occurrence of the field. -/
theorem Entry.decode_append {f : Field} {e : Entry} (h : e.Fills f) :
    ∃ bs, e.encode? f = some bs ∧ f.minWireLength ≤ bs.length ∧
      ∀ p rest, f.decode ⟨p, bs ++ rest⟩ = .ok e.value ⟨p + bs.length, rest⟩ := by
  obtain ⟨body, henc, hlen, hint⟩ := Value.exists_encode h.accepts h.suits
  have ha : f.element.type.Accepts body.length := hlen ▸ h.accepts
  cases hvar : f.isVariable with
  | true =>
    have hmax : body.length ≤ maxFieldLength := ha.2.1.trans f.element.type.maxLength_le
    refine ⟨variableField body, by simp [encode?, henc, hvar], ?_, ?_⟩
    · rw [Cursor.length_variableField, Field.minWireLength, hvar, if_pos rfl]
      unfold Cursor.lengthSize
      split <;> omega
    · intro p rest
      rw [Field.decode, hvar, if_pos rfl, Cursor.variableLength_variableField p rest hmax]
      simp only [Field.decodeSized]
      rw [DataType.decode_append _ _ _ ha hint, Cursor.length_variableField, Nat.add_assoc]
  | false =>
    have hfix : f.length.toNat = body.length := (h.fixed hvar).symm.trans hlen.symm
    refine ⟨body, by simp [encode?, henc, hvar], ?_, ?_⟩
    · simp [Field.minWireLength, hvar, hfix]
    · intro p rest
      rw [Field.decode, hvar, hfix, Field.decodeSized]
      exact DataType.decode_append _ _ _ ha hint

/-- **A record is read back from its octets**, whatever follows. -/
theorem readRecord_append {fs : List Field} {es : List Entry}
    (h : List.Forall₂ (fun f e => e.Fills f) fs es) :
    ∃ bs, encodeRecord? fs es = some bs ∧ Field.minWireLengths fs ≤ bs.length ∧
      ∀ p rest, readRecord fs ⟨p, bs ++ rest⟩ = .ok (es.map Entry.value) ⟨p + bs.length, rest⟩ := by
  induction h with
  | nil => exact ⟨[], rfl, Nat.le_refl 0, fun _ _ => rfl⟩
  | @cons f e fs es hfirst _ ih =>
    obtain ⟨first, hencf, hlenf, hdecf⟩ := Entry.decode_append hfirst
    obtain ⟨later, hencl, hlenl, hdecl⟩ := ih
    refine ⟨first ++ later, by simp [encodeRecord?, hencf, hencl], ?_, ?_⟩
    · rw [Field.minWireLengths, List.length_append]
      exact Nat.add_le_add hlenf hlenl
    · intro p rest
      rw [List.append_assoc, readRecord, Reader.bind_ok (hdecf p _), Reader.bind_ok (hdecl _ _),
        List.length_append, ← Nat.add_assoc]
      rfl

end FlowIntake
