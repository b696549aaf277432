/-
# Hexadecimal digits

Lower-case digits, two to an octet.

* `digit`, `digitValue?`: one digit and its value;
* `ofByte`, `ofBytes`: the text of octets;
* `padded`, `ofNat`: a number with a fixed count of digits, and without leading zeros.
-/
import FlowIntake.Wire.Bytes

namespace FlowIntake.Hex

/-- The digit of a value below 16. -/
def digit (n : Nat) : Char :=
  if n < 10 then Char.ofNat ('0'.toNat + n) else Char.ofNat ('a'.toNat + (n - 10))

/-- The value of a digit, in either case. -/
def digitValue? (c : Char) : Option Nat :=
  if '0' ≤ c ∧ c ≤ '9' then some (c.toNat - '0'.toNat)
  else if 'a' ≤ c ∧ c ≤ 'f' then some (c.toNat - 'a'.toNat + 10)
  else if 'A' ≤ c ∧ c ≤ 'F' then some (c.toNat - 'A'.toNat + 10)
  else none

/-- The two digits of an octet. -/
def ofByte (b : UInt8) : List Char := [digit (b.toNat / 16), digit (b.toNat % 16)]

/-- Two digits for each octet. -/
def ofBytes (bs : Bytes) : List Char := bs.flatMap ofByte

/-- The last `n` digits of `v`. -/
def padded : Nat → Nat → List Char
  | 0, _ => []
  | n + 1, v => padded n (v / 16) ++ [digit (v % 16)]

/-- The digits of a number of 64 bits, without leading zeros. -/
def ofNat (v : Nat) : List Char :=
  match (padded 16 v).dropWhile (· == '0') with
  | [] => ['0']
  | ds => ds

end FlowIntake.Hex
