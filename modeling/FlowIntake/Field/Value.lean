/-
# Field values

A `Value` is what one field of a record holds.  `DataType.interpret` makes it of the field's
octets and `Value.encode?` writes it back.

* `DataType.interpret`: the value of octets of an accepted length;
* `Value.encode?`: the octets of a value in a field of a given length;
* `Value.timestamp?`: the point in time of a date and time.
-/
import FlowIntake.Decimal.Binary64
import FlowIntake.Field.DataType
import FlowIntake.Net.Address
import FlowIntake.Text.Utf8
import FlowIntake.Timestamp

namespace FlowIntake

/-- What one field of a record holds. -/
inductive Value where
  | unsigned (v : UInt64)
  | signed (v : Int64)
  /-- A double, by its bits. -/
  | float (bits : UInt64)
  | boolean (b : Bool)
  | mac (octets : Octets 6)
  | octets (bs : Bytes)
  | text (s : String)
  | ipv4 (octets : Octets 4)
  | ipv6 (octets : Octets 16)
  /-- Seconds since 1970. -/
  | seconds (s : UInt32)
  /-- Milliseconds since 1970. -/
  | milliseconds (ms : UInt64)
  /-- Seconds since 1900 and a binary fraction whose low eleven bits are undefined. -/
  | microseconds (s fraction : UInt32)
  /-- Seconds since 1900 and a binary fraction. -/
  | nanoseconds (s fraction : UInt32)
deriving DecidableEq

/-! ## 1. From octets -/

namespace DataType

/-- The bits of a microsecond fraction that carry time. -/
def microsecondMask : UInt32 := 0xFFFFF800

/-- The value of a field's octets, of which there is an accepted number.  The one thing that has
no value is a truth value other than 1 and 2. -/
def interpret (t : DataType) (bs : Bytes) : Option Value :=
  match t with
  | unsigned8 | unsigned16 | unsigned32 | unsigned64 => some (.unsigned (UInt64.ofNat bs.value))
  | signed8 | signed16 | signed32 | signed64 => some (.signed (Int64.ofInt bs.signedValue))
  | float32 => some (.float (Binary32.widen (UInt32.ofNat bs.value)))
  | float64 =>
    some (.float (if bs.length = 4 then Binary32.widen (UInt32.ofNat bs.value)
      else UInt64.ofNat bs.value))
  | boolean =>
    match bs.value with
    | 1 => some (.boolean true)
    | 2 => some (.boolean false)
    | _ => none
  | macAddress => some (.mac (Octets.ofBytes 6 bs))
  | octetArray | basicList | subTemplateList | subTemplateMultiList => some (.octets bs)
  | string => some (.text (Utf8.decode bs))
  | dateTimeSeconds => some (.seconds (UInt32.ofNat bs.value))
  | dateTimeMilliseconds => some (.milliseconds (UInt64.ofNat bs.value))
  | dateTimeMicroseconds =>
    some (.microseconds (UInt32.ofNat (Bytes.value (bs.take 4)))
      (UInt32.ofNat (Bytes.value (bs.drop 4)) &&& microsecondMask))
  | dateTimeNanoseconds =>
    some (.nanoseconds (UInt32.ofNat (Bytes.value (bs.take 4)))
      (UInt32.ofNat (Bytes.value (bs.drop 4))))
  | ipv4Address => some (.ipv4 (Octets.ofBytes 4 bs))
  | ipv6Address => some (.ipv6 (Octets.ofBytes 16 bs))

end DataType

namespace Value

/-! ## 2. To octets -/

/-- The octets of a value in a field of `length` octets.  Numbers keep their low octets and have
no form of more than eight; text and octets are written whole whatever the length. -/
def encode? (length : Nat) : Value → Option Bytes
  | unsigned v => if length ≤ 8 then some (Bytes.ofNat length v.toNat) else none
  | signed v => if length ≤ 8 then some (Bytes.ofNat length v.toUInt64.toNat) else none
  | float bits =>
    some (if length = 4 then Bytes.ofNat 4 (Binary64.narrow bits).toNat
      else Bytes.ofNat 8 bits.toNat)
  | boolean b => some [if b then 1 else 2]
  | mac o => some o.toBytes
  | octets bs => some bs
  | text s => some (Utf8.encode s)
  | ipv4 o => some o.toBytes
  | ipv6 o => some o.toBytes
  | seconds s => some (Bytes.ofNat 4 s.toNat)
  | milliseconds ms => some (Bytes.ofNat 8 ms.toNat)
  | microseconds s f => some (Bytes.ofNat 4 s.toNat ++ Bytes.ofNat 4 f.toNat)
  | nanoseconds s f => some (Bytes.ofNat 4 s.toNat ++ Bytes.ofNat 4 f.toNat)

/-! ## 3. Time -/

/-- Seconds from 1900-01-01 to 1970-01-01. -/
def epochOffset : Int64 := 2208988800

/-- Seconds since 1970, before it or after, of seconds since 1900. -/
def unixSeconds (s : UInt32) : Int64 := s.toUInt64.toInt64 - epochOffset

/-- The nanoseconds of a binary fraction of a second, rounded down. -/
def fractionNanos (fraction : UInt32) : UInt32 :=
  ((fraction.toUInt64 * 1000000000) >>> 32).toUInt32

/-- No second is out of the range of the difference. -/
theorem toInt_unixSeconds (s : UInt32) : (unixSeconds s).toInt = (s.toNat : Int) - 2208988800 := by
  have hs : s.toNat < 4294967296 := s.toNat_lt
  have hnat : s.toUInt64.toBitVec.toNat = s.toNat := UInt32.toNat_toUInt64 s
  have hword : s.toUInt64.toInt64.toInt = s.toNat := by
    rw [← Int64.toInt_toBitVec, UInt64.toBitVec_toInt64, BitVec.toInt_eq_toNat_of_lt, hnat]
    omega
  have hoffset : epochOffset.toInt = 2208988800 := by decide
  rw [unixSeconds, Int64.toInt_sub, hword, hoffset]
  exact Int.bmod_eq_of_le (by omega) (by omega)

/-- The product has room in 64 bits. -/
theorem toNat_mul_nanos (fraction : UInt32) :
    (fraction.toUInt64 * 1000000000).toNat = fraction.toNat * 1000000000 := by
  have hlt : fraction.toNat < 4294967296 := fraction.toNat_lt
  have hfactor : (1000000000 : UInt64).toNat = 1000000000 := rfl
  rw [UInt64.toNat_mul, UInt32.toNat_toUInt64, hfactor]
  exact Nat.mod_eq_of_lt (by omega)

theorem toNat_mul_nanos_shiftRight (fraction : UInt32) :
    ((fraction.toUInt64 * 1000000000) >>> 32).toNat
      = fraction.toNat * 1000000000 / 4294967296 := by
  have hplaces : (32 : UInt64).toNat % 64 = 32 := rfl
  rw [UInt64.toNat_shiftRight, toNat_mul_nanos, hplaces, Nat.shiftRight_eq_div_pow]

/-- Its upper half has room in 32. -/
theorem toNat_fractionNanos (fraction : UInt32) :
    (fractionNanos fraction).toNat = fraction.toNat * 1000000000 / 4294967296 := by
  have hlt : fraction.toNat < 4294967296 := fraction.toNat_lt
  rw [fractionNanos, UInt64.toNat_toUInt32, toNat_mul_nanos_shiftRight]
  exact Nat.mod_eq_of_lt (by omega)

/-- The point in time that a date and time stands for. -/
def timestamp? : Value → Option Timestamp
  | seconds s => Timestamp.ofUnix? s.toNat 0
  | milliseconds ms => Timestamp.ofUnix? (ms.toNat / 1000 : Nat) (ms.toNat % 1000 * 1000000)
  | microseconds s f | nanoseconds s f =>
    Timestamp.ofUnix? (unixSeconds s).toInt (fractionNanos f).toNat
  | _ => none

end Value

end FlowIntake
