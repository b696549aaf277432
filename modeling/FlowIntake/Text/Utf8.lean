/-
# UTF-8, with a replacement for what is not UTF-8

`decode` never fails: each maximal run of octets that begins a character and does not finish
it, and each octet that begins none, becomes one U+FFFD.

* `encode`: the octets of a text;
* `Decoder`: one octet at a time, with the number of octets still owed and the range of the next;
* `decode`: the text of any byte string.
-/
import FlowIntake.Wire.Bytes

namespace FlowIntake.Utf8

/-! ## 1. Writing -/

/-- The octets of one character. -/
def encodeChar (c : Char) : Bytes :=
  let n := c.toNat
  if n < 0x80 then [UInt8.ofNat n]
  else if n < 0x800 then [UInt8.ofNat (0xC0 + n / 0x40), UInt8.ofNat (0x80 + n % 0x40)]
  else if n < 0x10000 then
    [UInt8.ofNat (0xE0 + n / 0x1000), UInt8.ofNat (0x80 + n / 0x40 % 0x40),
      UInt8.ofNat (0x80 + n % 0x40)]
  else
    [UInt8.ofNat (0xF0 + n / 0x40000), UInt8.ofNat (0x80 + n / 0x1000 % 0x40),
      UInt8.ofNat (0x80 + n / 0x40 % 0x40), UInt8.ofNat (0x80 + n % 0x40)]

/-- The octets of a text. -/
def encode (s : String) : Bytes := s.toList.flatMap encodeChar

/-! ## 2. Reading -/

/-- The character that stands for octets that are no character. -/
def replacement : Char := '\uFFFD'

/-- A character that has begun: how many octets it still needs, the range of the next of them,
and the bits read so far. -/
structure Pending where
  owed : Nat
  low : UInt8
  high : UInt8
  code : Nat
deriving DecidableEq

/-- What has been read: the characters so far, last one first, and the one that has begun. -/
structure Decoder where
  text : List Char
  pending : Option Pending
deriving DecidableEq

/-- What a first octet of more than one begins. -/
def begins (b : UInt8) : Option Pending :=
  if b < 0xC2 then none
  else if b < 0xE0 then some ⟨1, 0x80, 0xBF, b.toNat - 0xC0⟩
  else if b < 0xF0 then
    some ⟨2, if b = 0xE0 then 0xA0 else 0x80, if b = 0xED then 0x9F else 0xBF, b.toNat - 0xE0⟩
  else if b < 0xF5 then
    some ⟨3, if b = 0xF0 then 0x90 else 0x80, if b = 0xF4 then 0x8F else 0xBF, b.toNat - 0xF0⟩
  else none

/-- Reads an octet where a character may begin. -/
def Decoder.first (text : List Char) (b : UInt8) : Decoder :=
  if b < 0x80 then ⟨Char.ofNat b.toNat :: text, none⟩
  else
    match begins b with
    | some p => ⟨text, some p⟩
    | none => ⟨replacement :: text, none⟩

/-- Reads the next octet.  One that does not continue what has begun ends it and begins anew. -/
def Decoder.step (d : Decoder) (b : UInt8) : Decoder :=
  match d.pending with
  | none => first d.text b
  | some p =>
    if p.low ≤ b ∧ b ≤ p.high then
      let code := p.code * 0x40 + (b.toNat - 0x80)
      if p.owed = 1 then ⟨Char.ofNat code :: d.text, none⟩
      else ⟨d.text, some ⟨p.owed - 1, 0x80, 0xBF, code⟩⟩
    else first (replacement :: d.text) b

/-- The text at the end of the octets. -/
def Decoder.finish (d : Decoder) : List Char :=
  match d.pending with
  | none => d.text.reverse
  | some _ => (replacement :: d.text).reverse

/-- The text of a byte string. -/
def decode (bs : Bytes) : String := String.ofList (bs.foldl Decoder.step ⟨[], none⟩).finish

end FlowIntake.Utf8
