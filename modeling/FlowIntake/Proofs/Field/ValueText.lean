/-
# What the JSON of a value says of it

The JSON of a value does not say which kind of value it is.  Once the data type of its field is
known it says everything: base 64, hexadecimal, addresses and decimals have one value for each text.
Doubles are left out, for those that are not numbers are all written in the same way.

* `Base64.encode_injective`, `Value.macText_injective`: octets as text;
* `Value.Alike`, `DataType.alike_of_interpret`: values of the same kind, as a data type makes them;
* `Value.Alike.eq_of_reading`: what the JSON says determines a value of a known kind.
-/
import FlowIntake.Proofs.Decimal.Digits
import FlowIntake.Proofs.Net.AddressText
import FlowIntake.Proofs.Report.Lines

namespace FlowIntake

/-! ## 1. Base 64 -/

namespace Base64

/-- The value of a character of the alphabet. -/
def value (c : Char) : Nat := (List.range 64).findIdx fun n => digit n == c

theorem value_digit : ∀ n < 64, value (digit n) = n := by
  decide +kernel

theorem digit_ne_pad : ∀ n < 64, digit n ≠ '=' := by
  decide

/-- The octets of four characters. -/
def octets (w x y z : Char) : Bytes :=
  [UInt8.ofNat (value w * 4 + value x / 16), UInt8.ofNat (value x % 16 * 16 + value y / 4),
    UInt8.ofNat (value y % 4 * 64 + value z)]

/-- The octets of a text: of the last four characters as many as padding leaves. -/
def decode : List Char → Bytes
  | w :: x :: y :: z :: cs =>
    if y = '=' then (octets w x y z).take 1
    else if z = '=' then (octets w x y z).take 2
    else octets w x y z ++ decode cs
  | _ => []

/-- **Octets in base 64 read back.** -/
theorem decode_encode (bs : Bytes) : decode (encode bs) = bs := by
  have hoctet {n : Nat} {b : UInt8} (h : n = b.toNat) : UInt8.ofNat n = b := by
    rw [h, UInt8.ofNat_toNat]
  fun_induction encode bs with
  | case1 => rfl
  | case2 a =>
    have ha : a.toNat < 256 := a.toNat_lt
    simp only [decode, octets, ↓reduceIte, List.take_succ_cons, List.take_zero]
    rw [value_digit _ (by omega), value_digit _ (by omega), hoctet (b := a) (by omega)]
  | case3 a b =>
    have ha : a.toNat < 256 := a.toNat_lt
    have hb : b.toNat < 256 := b.toNat_lt
    have hfull := digit_ne_pad (b.toNat % 16 * 4) (by omega)
    simp only [decode, octets, hfull, ↓reduceIte, List.take_succ_cons, List.take_zero]
    rw [value_digit _ (by omega), value_digit _ (by omega), value_digit _ (by omega),
      hoctet (b := a) (by omega), hoctet (b := b) (by omega)]
  | case4 a b c bs ih =>
    have ha : a.toNat < 256 := a.toNat_lt
    have hb : b.toNat < 256 := b.toNat_lt
    have hc : c.toNat < 256 := c.toNat_lt
    have hthird := digit_ne_pad (b.toNat % 16 * 4 + c.toNat / 64) (by omega)
    have hfourth := digit_ne_pad (c.toNat % 64) (by omega)
    simp only [decode, octets, hthird, hfourth, ↓reduceIte, ih]
    rw [value_digit _ (by omega), value_digit _ (by omega), value_digit _ (by omega),
      value_digit _ (by omega), hoctet (b := a) (by omega), hoctet (b := b) (by omega),
      hoctet (b := c) (by omega)]
    rfl

theorem encode_injective {bs cs : Bytes} (h : encode bs = encode cs) : bs = cs := by
  rw [← decode_encode bs, h, decode_encode cs]

end Base64

/-! ## 2. Hexadecimal -/

theorem Hex.digit_injective : ∀ m < 16, ∀ n < 16, digit m = digit n → m = n := by
  decide

theorem Hex.ofByte_injective {a b : UInt8} (h : ofByte a = ofByte b) : a = b := by
  have ha : a.toNat < 256 := a.toNat_lt
  have hb : b.toNat < 256 := b.toNat_lt
  obtain ⟨hhigh, hlow⟩ : digit (a.toNat / 16) = digit (b.toNat / 16) ∧
      digit (a.toNat % 16) = digit (b.toNat % 16) := by
    simpa only [ofByte, List.cons.injEq, and_true] using h
  have hquotient := digit_injective _ (by omega) _ (by omega) hhigh
  have hremainder := digit_injective _ (by omega) _ (by omega) hlow
  exact UInt8.toNat_inj.mp (by omega)

/-- Octets in hexadecimal with a mark between them, two digits to each. -/
theorem Hex.intercalate_injective {c : Char} {as bs : Bytes} (hsize : as.length = bs.length)
    (h : [c].intercalate (as.map ofByte) = [c].intercalate (bs.map ofByte)) : as = bs := by
  induction as generalizing bs with
  | nil => exact (List.eq_nil_of_length_eq_zero hsize.symm).symm
  | cons a as ih =>
    match as, bs with
    | [], [b] =>
      rw [List.map_singleton, List.map_singleton, List.intercalate_singleton,
        List.intercalate_singleton] at h
      rw [ofByte_injective h]
    | a' :: as, b :: b' :: bs =>
      simp only [List.map_cons, List.intercalate_cons_cons, List.append_assoc] at h
      obtain ⟨hfirst, hrest⟩ := List.append_inj h rfl
      rw [ofByte_injective hfirst, ih (Nat.succ.inj hsize) (List.cons.inj hrest).2]

theorem Value.macText_injective {o o' : Octets 6} (h : macText o = macText o') : o = o' := by
  have hdigits : (String.toList ∘ fun b => String.ofList (Hex.ofByte b)) = Hex.ofByte :=
    funext fun _ => String.toList_ofList
  have hchars := congrArg String.toList h
  simp only [macText, String.toList_intercalate, List.map_map, hdigits] at hchars
  have hbytes := Hex.intercalate_injective (o.size.trans o'.size.symm) hchars
  exact Octets.mk.injEq .. ▸ hbytes

/-! ## 3. Values of one kind -/

namespace Value

/-- Two values of the same kind. -/
inductive Alike : Value → Value → Prop where
  | unsigned (v w : UInt64) : Alike (.unsigned v) (.unsigned w)
  | signed (v w : Int64) : Alike (.signed v) (.signed w)
  | float (v w : UInt64) : Alike (.float v) (.float w)
  | boolean (v w : Bool) : Alike (.boolean v) (.boolean w)
  | mac (v w : Octets 6) : Alike (.mac v) (.mac w)
  | octets (v w : Bytes) : Alike (.octets v) (.octets w)
  | text (v w : String) : Alike (.text v) (.text w)
  | ipv4 (v w : Octets 4) : Alike (.ipv4 v) (.ipv4 w)
  | ipv6 (v w : Octets 16) : Alike (.ipv6 v) (.ipv6 w)
  | seconds (v w : UInt32) : Alike (.seconds v) (.seconds w)
  | milliseconds (v w : UInt64) : Alike (.milliseconds v) (.milliseconds w)
  | microseconds (s s' f f' : UInt32) : Alike (.microseconds s f) (.microseconds s' f')
  | nanoseconds (s s' f f' : UInt32) : Alike (.nanoseconds s f) (.nanoseconds s' f')

/-- Seconds and a fraction are told apart by their names. -/
theorem parts_of_reading {s s' f f' : UInt32}
    (h : (microseconds s f).reading = (microseconds s' f').reading) : s = s' ∧ f = f' := by
  simp only [reading, Json.Reading.object.injEq, List.cons.injEq, Prod.mk.injEq, true_and,
    and_true, Json.Reading.number.injEq] at h
  obtain ⟨hs, hf⟩ := h
  exact ⟨UInt32.toNat_inj.mp (Decimal.repr_injective hs),
    UInt32.toNat_inj.mp (Decimal.repr_injective hf)⟩

end Value

/-- **A data type makes values of one kind.** -/
theorem DataType.alike_of_interpret {t : DataType} {bs cs : Bytes} {v w : Value}
    (hv : t.interpret bs = some v) (hw : t.interpret cs = some w) : v.Alike w := by
  cases t with
  | boolean =>
    simp only [interpret] at hv hw
    split at hv <;> split at hw <;> cases hv <;> cases hw <;> constructor
  | _ =>
    cases hv
    cases hw
    constructor

/-- **What the JSON says of a value of a known kind determines the value**, unless it is a
double. -/
theorem Value.Alike.eq_of_reading {v w : Value} (h : v.Alike w) (hv : ∀ bits, v ≠ .float bits)
    (heq : v.reading = w.reading) : v = w := by
  cases h with
  | unsigned v w =>
    have htext := Decimal.repr_injective (Json.Reading.number.inj heq)
    rw [UInt64.toNat_inj.mp htext]
  | signed v w =>
    have htext := Decimal.toString_injective (Json.Reading.number.inj heq)
    rw [Int64.toInt_inj.mp htext]
  | float v w => exact absurd rfl (hv v)
  | boolean v w => rw [Json.Reading.bool.inj heq]
  | mac v w => rw [macText_injective (Json.Reading.string.inj heq)]
  | octets v w =>
    have htext := String.ofList_injective (Json.Reading.string.inj heq)
    rw [Base64.encode_injective htext]
  | text v w => rw [Json.Reading.string.inj heq]
  | ipv4 v w =>
    have haddress : Address.v4 v = .v4 w :=
      Address.text_injective (Json.Reading.string.inj heq)
    rw [Address.v4.inj haddress]
  | ipv6 v w =>
    have haddress : Address.v6 v = .v6 w :=
      Address.text_injective (Json.Reading.string.inj heq)
    rw [Address.v6.inj haddress]
  | seconds v w =>
    have htext := Decimal.repr_injective (Json.Reading.number.inj heq)
    rw [UInt32.toNat_inj.mp htext]
  | milliseconds v w =>
    have htext := Decimal.repr_injective (Json.Reading.number.inj heq)
    rw [UInt64.toNat_inj.mp htext]
  | microseconds s s' f f' =>
    obtain ⟨hs, hf⟩ := Value.parts_of_reading heq
    rw [hs, hf]
  | nanoseconds s s' f f' =>
    obtain ⟨hs, hf⟩ := Value.parts_of_reading heq
    rw [hs, hf]

end FlowIntake
