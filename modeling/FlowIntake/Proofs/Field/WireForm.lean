/-
# Values survive the wire

A value that was read from a field is written again by the octets that it was read from, but for the
bits that mean nothing: the eleven lowest of a microsecond fraction, and octets of a text that are
not UTF-8.  What is written is read as the same value.  The other way round a number that is written
in fewer octets than its own loses its high ones, and comes back when it did not need them.

* `DataType.rewritten`: what is written for the octets of a field that was read;
* `DataType.encode?_of_interpret`, `DataType.interpret_rewritten`: it is written, and means the
  same;
* `Bytes.capacity_eq_two_pow`, `Bytes.ofNat_eq_of_mod_eq`: numbers modulo a width;
* `Value.survives_wire`: fields of all types, and numbers of all widths.
-/
import FlowIntake.Proofs.Field.Kinds
import FlowIntake.Proofs.Field.RoundTrip

namespace FlowIntake

/-! ## 1. Numbers modulo a width -/

/-- A signed number and its bits leave the same remainder in up to eight octets. -/
theorem Value.toNat_toUInt64_mod (v : Int64) {n : Nat} (h : n ≤ 8) :
    ((v.toUInt64.toNat % Bytes.capacity n : Nat) : Int) = v.toInt % Bytes.capacity n := by
  have hdvd : (Bytes.capacity n : Int) ∣ Bytes.capacity 8 := by exact_mod_cast Bytes.capacity_dvd h
  rw [Int.natCast_mod, ← Int.emod_emod_of_dvd v.toInt hdvd, toInt_emod,
    Int.emod_emod_of_dvd _ hdvd]

namespace Bytes

theorem capacity_eq_two_pow (n : Nat) : capacity n = 2 ^ (8 * n) := by
  induction n with
  | zero => rfl
  | succ n ih =>
    calc capacity (n + 1) = capacity n * 2 ^ 8 := rfl
      _ = 2 ^ (8 * n) * 2 ^ 8 := by rw [ih]
      _ = 2 ^ (8 * (n + 1)) := (pow_add 2 (8 * n) 8).symm

/-- Octets are those of every number that leaves their value for its remainder. -/
theorem ofNat_eq_of_mod_eq {bs : Bytes} {k : Nat} (h : k % capacity bs.length = value bs) :
    ofNat bs.length k = bs := by
  have hvalue : value (ofNat bs.length k) = value bs := (value_ofNat _ _).trans h
  have hback := ofNat_value (ofNat bs.length k)
  rw [length_ofNat, hvalue, ofNat_value] at hback
  exact hback.symm

theorem capacity_le {m n : Nat} (h : n ≤ m) : capacity n ≤ capacity m :=
  Nat.le_of_dvd (capacity_pos m) (capacity_dvd h)

/-- Up to eight octets hold a number of 64 bits. -/
theorem toNat_u64 {bs : Bytes} (h : bs.length ≤ 8) :
    (UInt64.ofNat bs.value).toNat = bs.value := by
  have hlt : bs.value < capacity 8 := bs.value_lt.trans_le (capacity_le h)
  exact UInt64.toNat_ofNat_of_lt' hlt

theorem toInt_i64 {bs : Bytes} (h : bs.length ≤ 8) :
    (Int64.ofInt bs.signedValue).toInt = bs.signedValue := by
  have hcapacity : capacity bs.length ≤ 2 ^ 64 := capacity_le h
  obtain ⟨hlow, hhigh⟩ := bs.signedValue_bounds
  refine Int64.toInt_ofInt_of_le ?_ ?_ <;> omega

theorem toNat_u32 {bs : Bytes} (h : bs.length = 4) :
    (UInt32.ofNat bs.value).toNat = bs.value := by
  have hlt := bs.value_lt
  rw [h] at hlt
  exact Nat.mod_eq_of_lt hlt

theorem ofNat_u32 {bs : Bytes} (h : bs.length = 4) :
    ofNat 4 (UInt32.ofNat bs.value).toNat = bs := by
  have hback := bs.ofNat_value
  rwa [h, ← toNat_u32 h] at hback

theorem ofNat_u64 {bs : Bytes} (h : bs.length ≤ 8) :
    ofNat bs.length (UInt64.ofNat bs.value).toNat = bs := by
  rw [toNat_u64 h, ofNat_value]

theorem ofNat_i64 {bs : Bytes} (h : bs.length ≤ 8) :
    ofNat bs.length (Int64.ofInt bs.signedValue).toUInt64.toNat = bs := by
  refine ofNat_eq_of_mod_eq ?_
  have hmod := Value.toNat_toUInt64_mod (Int64.ofInt bs.signedValue) h
  rw [toInt_i64 h, signedValue_emod] at hmod
  exact Int.ofNat_inj.mp hmod

/-- A time of eight octets is two numbers of four. -/
theorem length_halves {bs : Bytes} (h : bs.length = 8) :
    (bs.take 4).length = 4 ∧ (bs.drop 4).length = 4 := by
  rw [List.length_take, List.length_drop, h]
  decide

end Bytes

/-! ## 2. Octets that were read -/

namespace DataType

/-- What is written for the octets of a field that was read. -/
def rewritten (t : DataType) (bs : Bytes) : Bytes :=
  match t with
  | dateTimeMicroseconds =>
    -- without the eleven lowest bits of the fraction
    let fraction := Bytes.value (bs.drop 4)
    bs.take 4 ++ Bytes.ofNat 4 (fraction - fraction % 2048)
  | string => Utf8.encode (Utf8.decode bs)
  | _ => bs

variable {t : DataType} {bs : Bytes} {v : Value}

/-- **A value is written again by the octets it was read from**, but for the bits that mean
nothing. -/
theorem encode?_of_interpret (hsingle : t ≠ .float32) (hdouble : t ≠ .float64)
    (ha : t.Accepts bs.length) (h : t.interpret bs = some v) :
    v.encode? bs.length = some (t.rewritten bs) := by
  obtain ⟨hmin, hmax, -⟩ := ha
  cases t with
  | float32 => exact absurd rfl hsingle
  | float64 => exact absurd rfl hdouble
  | unsigned8 | unsigned16 | unsigned32 | unsigned64 =>
    cases h
    have hlength : bs.length ≤ 8 := hmax.trans (by decide)
    rw [Value.encode?, if_pos hlength, Bytes.ofNat_u64 hlength]
    rfl
  | signed8 | signed16 | signed32 | signed64 =>
    cases h
    have hlength : bs.length ≤ 8 := hmax.trans (by decide)
    rw [Value.encode?, if_pos hlength, Bytes.ofNat_i64 hlength]
    rfl
  | boolean =>
    have hlength : bs.length = 1 := Nat.le_antisymm hmax hmin
    have hback := bs.ofNat_value
    rw [hlength] at hback
    simp only [interpret] at h
    split at h
    · rename_i hvalue
      cases h
      rw [hvalue] at hback
      rw [← hback]
      rfl
    · rename_i hvalue
      cases h
      rw [hvalue] at hback
      rw [← hback]
      rfl
    · cases h
  | octetArray | basicList | subTemplateList | subTemplateMultiList | string =>
    cases h
    rfl
  | macAddress | ipv4Address | ipv6Address =>
    cases h
    exact congrArg some (Octets.toBytes_ofBytes (Nat.le_antisymm hmax hmin))
  | dateTimeSeconds =>
    cases h
    rw [Value.encode?, Bytes.ofNat_u32 (Nat.le_antisymm hmax hmin)]
    rfl
  | dateTimeMilliseconds =>
    cases h
    have hlength : bs.length = 8 := Nat.le_antisymm hmax hmin
    have hback := Bytes.ofNat_u64 (Nat.le_of_eq hlength)
    rw [hlength] at hback
    rw [Value.encode?, hback]
    rfl
  | dateTimeMicroseconds =>
    cases h
    have hlength : bs.length = 8 := Nat.le_antisymm hmax hmin
    obtain ⟨hseconds, hfraction⟩ := Bytes.length_halves hlength
    rw [Value.encode?, Bytes.ofNat_u32 hseconds, Value.toNat_and_microsecondMask, Bytes.toNat_u32 hfraction]
    rfl
  | dateTimeNanoseconds =>
    cases h
    have hlength : bs.length = 8 := Nat.le_antisymm hmax hmin
    obtain ⟨hseconds, hfraction⟩ := Bytes.length_halves hlength
    rw [Value.encode?, Bytes.ofNat_u32 hseconds, Bytes.ofNat_u32 hfraction, List.take_append_drop]
    rfl

/-- **What is written is understood as the value that it was written for.** -/
theorem interpret_rewritten (ha : t.Accepts bs.length) (h : t.interpret bs = some v) :
    t.interpret (t.rewritten bs) = some v := by
  cases t with
  | string =>
    cases h
    rw [rewritten, interpret, Utf8.decode_encode]
  | dateTimeMicroseconds =>
    cases h
    obtain ⟨hmin, hmax, -⟩ := ha
    obtain ⟨hseconds, hfraction⟩ := Bytes.length_halves (Nat.le_antisymm hmax hmin)
    have hmasked := Value.toNat_and_microsecondMask (UInt32.ofNat (Bytes.value (bs.drop 4)))
    rw [Bytes.toNat_u32 hfraction] at hmasked
    have hform : rewritten .dateTimeMicroseconds bs
        = Bytes.ofNat 4 (UInt32.ofNat (Bytes.value (bs.take 4))).toNat ++ Bytes.ofNat 4
          (UInt32.ofNat (Bytes.value (bs.drop 4)) &&& microsecondMask).toNat := by
      rw [hmasked, Bytes.ofNat_u32 hseconds]
      rfl
    rw [hform, interpret, (Value.take_drop_ofNat _ _).1, (Value.take_drop_ofNat _ _).2,
      Value.ofNat_value_u32, Value.ofNat_value_u32, UInt32.and_assoc, UInt32.and_self]
  | _ => exact h

theorem length_rewritten (ha : t.Accepts bs.length) (ht : t ≠ .string) :
    (t.rewritten bs).length = bs.length := by
  cases t with
  | string => exact absurd rfl ht
  | dateTimeMicroseconds =>
    obtain ⟨hmin, hmax, -⟩ := ha
    have hlength : bs.length = 8 := Nat.le_antisymm hmax hmin
    obtain ⟨hseconds, -⟩ := Bytes.length_halves hlength
    rw [rewritten, List.length_append, hseconds, Bytes.length_ofNat, hlength]
  | _ => rfl

/-- Octets of an accepted length that have a value are read as that value. -/
theorem decode_ofBytes (name : String) (ha : t.Accepts bs.length) (h : t.interpret bs = some v) :
    t.decode name bs.length (Cursor.ofBytes bs) = .ok v ⟨bs.length, []⟩ := by
  have hread := decode_append name 0 [] ha h
  rwa [List.append_nil, Nat.zero_add] at hread

/-- **What is written is read as the value that it was written for**, if it fits a field. -/
theorem decode_rewritten (name : String) (ha : t.Accepts bs.length) (h : t.interpret bs = some v)
    (hfits : (t.rewritten bs).length ≤ maxFieldLength) :
    t.decode name (t.rewritten bs).length (Cursor.ofBytes (t.rewritten bs))
      = .ok v ⟨(t.rewritten bs).length, []⟩ := by
  have haccepts : t.Accepts (t.rewritten bs).length := by
    by_cases ht : t = .string
    · rw [ht] at hfits ⊢
      exact ⟨Nat.zero_le _, hfits, (nomatch ·)⟩
    · rw [length_rewritten ha ht]
      exact ha
  exact decode_ofBytes name haccepts (interpret_rewritten ha h)

end DataType

/-! ## 3. Numbers that are written -/

namespace Bytes

/-- The numbers of `n` octets with a sign, by the place of the sign. -/
theorem signed_range_iff {n : Nat} (hn : 1 ≤ n) {z : Int} :
    -(capacity n : Int) ≤ 2 * z ∧ 2 * z < capacity n
      ↔ -(2 : Int) ^ (8 * n - 1) ≤ z ∧ z < 2 ^ (8 * n - 1) := by
  have hhalf : (capacity n : Int) = 2 * 2 ^ (8 * n - 1) := by
    have hbits : 8 * n = (8 * n - 1) + 1 := by omega
    rw [capacity_eq_two_pow, hbits, pow_succ, Nat.add_sub_cancel, mul_comm]
    push_cast
    rfl
  rw [hhalf]
  constructor <;> rintro ⟨hlow, hhigh⟩ <;> constructor <;> linarith

end Bytes

namespace Value

/-- **A number without a sign comes back from `n` octets modulo what they can hold**, and as it was
when they can hold it. -/
theorem decode_encode_unsigned (name : String) (w : UInt64) {n : Nat} (hpos : 1 ≤ n) (hn : n ≤ 8) :
    ∃ bs w', (unsigned w).encode? n = some bs ∧ bs.length = n ∧
      DataType.unsigned64.decode name n (Cursor.ofBytes bs) = .ok (.unsigned w') ⟨n, []⟩ ∧
      w'.toNat = w.toNat % 2 ^ (8 * n) ∧ (w' = w ↔ w.toNat < 2 ^ (8 * n)) := by
  have hlength : (Bytes.ofNat n w.toNat).length = n := Bytes.length_ofNat _ _
  have hvalue : (UInt64.ofNat (Bytes.value (Bytes.ofNat n w.toNat))).toNat
      = w.toNat % 2 ^ (8 * n) := by
    rw [Bytes.toNat_u64 (hlength.trans_le hn), Bytes.value_ofNat,
      Bytes.capacity_eq_two_pow]
  have haccepts : DataType.unsigned64.Accepts (Bytes.ofNat n w.toNat).length := by
    rw [hlength]
    exact ⟨hpos, hn, (nomatch ·)⟩
  have hread := DataType.decode_ofBytes name haccepts (DataType.interpret_unsigned (by decide) _)
  rw [hlength] at hread
  refine ⟨Bytes.ofNat n w.toNat, _, if_pos hn, hlength, hread, hvalue, ?_⟩
  rw [← UInt64.toNat_inj, hvalue]
  constructor
  · intro hsame
    rw [← hsame]
    exact Nat.mod_lt _ (Nat.two_pow_pos _)
  · exact Nat.mod_eq_of_lt

/-- **A number with a sign comes back from `n` octets as the number in their range that leaves the
same remainder**, and as it was when it is in their range. -/
theorem decode_encode_signed (name : String) (z : Int64) {n : Nat} (hpos : 1 ≤ n) (hn : n ≤ 8) :
    ∃ bs z', (signed z).encode? n = some bs ∧ bs.length = n ∧
      DataType.signed64.decode name n (Cursor.ofBytes bs) = .ok (.signed z') ⟨n, []⟩ ∧
      z'.toInt % 2 ^ (8 * n) = z.toInt % 2 ^ (8 * n) ∧
      (-(2 : Int) ^ (8 * n - 1) ≤ z'.toInt ∧ z'.toInt < 2 ^ (8 * n - 1)) ∧
      (z' = z ↔ -(2 : Int) ^ (8 * n - 1) ≤ z.toInt ∧ z.toInt < 2 ^ (8 * n - 1)) := by
  have hlength : (Bytes.ofNat n z.toUInt64.toNat).length = n := Bytes.length_ofNat _ _
  have hvalue := Bytes.toInt_i64 (hlength.trans_le hn)
  have hbounds := Bytes.signedValue_bounds (Bytes.ofNat n z.toUInt64.toNat)
  have hmod := Bytes.signedValue_emod (Bytes.ofNat n z.toUInt64.toNat)
  have hcapacity : (Bytes.capacity n : Int) = 2 ^ (8 * n) := by
    rw [Bytes.capacity_eq_two_pow]
    push_cast
    rfl
  rw [hlength, ← hvalue] at hbounds hmod
  rw [Bytes.value_ofNat, toNat_toUInt64_mod z hn] at hmod
  have haccepts : DataType.signed64.Accepts (Bytes.ofNat n z.toUInt64.toNat).length := by
    rw [hlength]
    exact ⟨hpos, hn, (nomatch ·)⟩
  have hread := DataType.decode_ofBytes name haccepts (DataType.interpret_signed (by decide) _)
  rw [hlength] at hread
  refine ⟨Bytes.ofNat n z.toUInt64.toNat, _, if_pos hn, hlength, hread, ?_, ?_, ?_⟩
  · rwa [hcapacity] at hmod
  · exact (Bytes.signed_range_iff hpos).mp hbounds
  · rw [← Bytes.signed_range_iff hpos]
    constructor
    · intro hsame
      rwa [hsame] at hbounds
    · intro hfits
      exact Int64.toInt_inj.mp (eq_of_emod_eq hbounds hfits hmod)

/-- **Values survive the wire in both directions.**  What a field of any type but the two of doubles
was read as is written again by its own octets, but for the bits of a microsecond fraction that mean
nothing and for a text whose octets are not UTF-8; and what is written is read as the same value.  A
number that is written in one to eight octets and read from them is the number in their range that
leaves the same remainder, and so the same number when that is in their range. -/
theorem survives_wire (name : String) :
    (∀ (t : DataType) (bs : Bytes) (v : Value) (c : Cursor), t ≠ .float32 → t ≠ .float64 →
      t.decode name bs.length (Cursor.ofBytes bs) = .ok v c →
      v.encode? bs.length = some (t.rewritten bs) ∧
      (t = .string → (t.rewritten bs = bs ↔ Utf8.Valid bs)) ∧
      ((t.rewritten bs).length ≤ maxFieldLength →
        t.decode name (t.rewritten bs).length (Cursor.ofBytes (t.rewritten bs))
          = .ok v ⟨(t.rewritten bs).length, []⟩)) ∧
    (∀ (w : UInt64) (n : Nat), 1 ≤ n → n ≤ 8 →
      ∃ bs w', (unsigned w).encode? n = some bs ∧ bs.length = n ∧
        DataType.unsigned64.decode name n (Cursor.ofBytes bs) = .ok (.unsigned w') ⟨n, []⟩ ∧
        w'.toNat = w.toNat % 2 ^ (8 * n) ∧ (w' = w ↔ w.toNat < 2 ^ (8 * n))) ∧
    ∀ (z : Int64) (n : Nat), 1 ≤ n → n ≤ 8 →
      ∃ bs z', (signed z).encode? n = some bs ∧ bs.length = n ∧
        DataType.signed64.decode name n (Cursor.ofBytes bs) = .ok (.signed z') ⟨n, []⟩ ∧
        z'.toInt % 2 ^ (8 * n) = z.toInt % 2 ^ (8 * n) ∧
        (-(2 : Int) ^ (8 * n - 1) ≤ z'.toInt ∧ z'.toInt < 2 ^ (8 * n - 1)) ∧
        (z' = z ↔ -(2 : Int) ^ (8 * n - 1) ≤ z.toInt ∧ z.toInt < 2 ^ (8 * n - 1)) := by
  refine ⟨?_, ?_, ?_⟩
  · intro t bs v c hsingle hdouble hread
    obtain ⟨haccepts, bs', htake, hv⟩ := DataType.decode_eq_ok_iff.mp hread
    obtain ⟨hwhole, hlength, -⟩ := Cursor.take_ok_iff.mp htake
    have hall : bs' ++ c.rest = bs ++ [] := hwhole.symm.trans (List.append_nil bs).symm
    obtain ⟨rfl, -⟩ := List.append_inj hall hlength
    refine ⟨DataType.encode?_of_interpret hsingle hdouble haccepts hv, ?_, ?_⟩
    · rintro rfl
      exact Utf8.encode_decode_iff
    · exact DataType.decode_rewritten name haccepts hv
  · intro w n hpos hn
    exact decode_encode_unsigned name w hpos hn
  · intro z n hpos hn
    exact decode_encode_signed name z hpos hn

/-- A text that is cut within a character is written with the replacement, and read as the same
text; 200 is too large for one octet with a sign. -/
theorem cut_text_survives :
    let bs : Bytes := [97, 0xC3]
    let written : Bytes := [97, 0xEF, 0xBF, 0xBD]
    ∃ v, DataType.string.decode "interfaceName" 2 (Cursor.ofBytes bs) = .ok v ⟨2, []⟩ ∧
      v.encode? 2 = some written ∧ ¬Utf8.Valid bs ∧
      DataType.string.decode "interfaceName" 4 (Cursor.ofBytes written) = .ok v ⟨4, []⟩ ∧
      ∃ octet z', (signed 200).encode? 1 = some octet ∧
        DataType.signed64.decode "interfaceName" 1 (Cursor.ofBytes octet)
          = .ok (.signed z') ⟨1, []⟩ ∧ z' ≠ 200 := by
  intro bs written
  obtain ⟨hfields, -, hsigned⟩ := survives_wire "interfaceName"
  have hread : DataType.string.decode "interfaceName" 2 (Cursor.ofBytes bs)
      = .ok (.text (Utf8.decode bs)) ⟨2, []⟩ := rfl
  have hwritten : DataType.string.rewritten bs = written := by decide
  obtain ⟨hencode, hvalid, hagain⟩ := hfields .string bs _ _ (by decide) (by decide) hread
  rw [hwritten] at hencode hvalid hagain
  have hother : ¬Utf8.Valid bs := fun h => absurd ((hvalid rfl).mpr h) (by decide)
  refine ⟨_, hread, hencode, hother, hagain (by decide), ?_⟩
  obtain ⟨octet, z', hoctet, -, hnumber, -, -, hsame⟩ := hsigned 200 1 (by decide) (by decide)
  refine ⟨octet, z', hoctet, hnumber, fun heq => ?_⟩
  exact absurd (hsame.mp heq).2 (by decide)

end Value

end FlowIntake
