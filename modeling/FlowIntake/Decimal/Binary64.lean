/-
# Binary floating point as bit patterns

A double is kept as its 64 bits, so that every one of them, each NaN included, has one value.

* `Binary64.Class`: what a pattern stands for: a NaN, an infinity, or `± mantissa · 2 ^ exponent`;
* `Binary32.widen`: the double of a single, exactly;
* `Binary64.narrow`: the single nearest to a double, a tie going to the even one;
* `Binary64.ofNat`: the double nearest to a number.
-/

namespace FlowIntake

namespace Binary64

/-- What a pattern stands for. -/
inductive Class where
  | nan
  | infinite (negative : Bool)
  /-- `± mantissa · 2 ^ exponent`.  The gap to the next smaller double is half as wide as the one
  to the next larger when `lowEdge`. -/
  | finite (negative : Bool) (mantissa : Nat) (exponent : Int) (lowEdge : Bool)
deriving DecidableEq

/-- How many fractions there are: they have 52 bits. -/
def fractions : Nat := 0x10000000000000

/-- What bit 63 is worth. -/
def signBit : Nat := 0x8000000000000000

/-- Bit 63: the sign. -/
def negative (bits : UInt64) : Bool := bits.toNat / signBit = 1

/-- Bits 52 to 62: the biased exponent. -/
def biased (bits : UInt64) : Nat := bits.toNat / fractions % 2048

/-- Bits 0 to 51: the fraction. -/
def fraction (bits : UInt64) : Nat := bits.toNat % fractions

/-- The class of a pattern. -/
def classify (bits : UInt64) : Class :=
  let e := biased bits
  let f := fraction bits
  if e = 2047 then
    if f = 0 then .infinite (negative bits) else .nan
  else if e = 0 then .finite (negative bits) f (-1074) false
  else .finite (negative bits) (fractions + f) ((e : Int) - 1075) (f = 0 ∧ e > 1)

/-- Whether a pattern is a NaN. -/
def isNan (bits : UInt64) : Bool := biased bits = 2047 ∧ fraction bits ≠ 0

end Binary64

namespace Binary32

/-- How many fractions there are: they have 23 bits. -/
def fractions : Nat := 0x800000

/-- What bit 31 is worth. -/
def signBit : Nat := 0x80000000

/-- How many fractions of a double lie between two of a single. -/
def spacing : Nat := 0x20000000

/-- The bit of the fraction that tells a quiet NaN. -/
def quietBit : Nat := 0x400000

/-- The infinity. -/
def infinity : Nat := 0x7F800000

/-- The pattern of the double that equals a single.  A NaN becomes a quiet one. -/
def widen (bits : UInt32) : UInt64 :=
  let n := bits.toNat
  let e := n / fractions % 256
  let f := n % fractions
  let magnitude :=
    if e = 255 then
      if f = 0 then 2047 * Binary64.fractions
      else 2047 * Binary64.fractions + (quietBit + f % quietBit) * spacing
    else if e = 0 then
      if f = 0 then 0
      else
        -- The highest bit of a subnormal becomes the leading one.
        let top := f.log2
        (top + 874) * Binary64.fractions + ((f - (1 <<< top)) <<< (52 - top))
    else (e + 896) * Binary64.fractions + f * spacing
  UInt64.ofNat (n / signBit * Binary64.signBit + magnitude)

end Binary32

namespace Binary64

/-- `v`, divided by two `s` times, to the nearest whole number, a tie going to the even one. -/
def roundShift (v s : Nat) : Nat :=
  let unit := 1 <<< s
  let q := v / unit
  let r := 2 * (v % unit)
  if unit < r ∨ (r = unit ∧ q % 2 = 1) then q + 1 else q

/-- The pattern of the single nearest to a double: beyond the largest, an infinity. -/
def narrow (bits : UInt64) : UInt32 :=
  let sign := if negative bits then Binary32.signBit else 0
  let e := biased bits
  let f := fraction bits
  let magnitude :=
    if e = 2047 then
      if f = 0 then Binary32.infinity
      else Binary32.infinity + Binary32.quietBit + f / Binary32.spacing % Binary32.quietBit
    else
      let m := if e = 0 then f else fractions + f
      -- In units of the double's last place; the single's last place lies `shift` bits higher.
      let e := max e 1
      let shift := if e ≤ 896 then 926 - e else 29
      min Binary32.infinity ((e - 897) * Binary32.fractions + roundShift m shift)
  UInt32.ofNat (sign + magnitude)

/-- The pattern of the double nearest to a number, a tie going to the even one. -/
def ofNat (n : Nat) : UInt64 :=
  if n = 0 then 0
  else
    let top := n.log2
    let m := if top ≤ 52 then n <<< (52 - top) else roundShift n (top - 52)
    UInt64.ofNat (min (2047 * fractions) ((top + 1022) * fractions + m))

end Binary64

end FlowIntake
