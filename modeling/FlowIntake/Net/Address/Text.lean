/-
# The text of addresses

IPv4 addresses are four decimal numbers.  IPv6 addresses are eight hexadecimal groups, the
longest run of at least two zero groups written `::` (the first of several), and an address
that maps an IPv4 address ends in the dotted form.

* `Address.text`, `SocketAddress.text`: writing;
* `Address.read?`, `SocketAddress.read?`: reading any accepted form.
-/
import FlowIntake.Net.Address
import FlowIntake.Text.Hex

namespace FlowIntake

/-! ## 1. Writing -/

namespace Address

/-- Four numbers with points between them. -/
def dotted (o : Octets 4) : String := ".".intercalate (o.toBytes.map fun b => toString b.toNat)

/-- The numbers of two octets each. -/
def groups : Bytes → List Nat
  | hi :: lo :: bs => Bytes.value [hi, lo] :: groups bs
  | _ => []

/-- Groups in hexadecimal with colons between them. -/
def colons (gs : List Nat) : String := ":".intercalate (gs.map fun g => String.ofList (Hex.ofNat g))

/-- How many zeros a list begins with. -/
def leadingZeros (gs : List Nat) : Nat := (gs.takeWhile (· = 0)).length

/-- Where the longest run of zeros begins and how long it is, the first of several. -/
def longestZeros : List Nat → Nat × Nat
  | [] => (0, 0)
  | g :: gs =>
    let here := leadingZeros (g :: gs)
    let (start, length) := longestZeros gs
    if 0 < here ∧ length ≤ here then (0, here) else (start + 1, length)

/-- The text of an IPv6 address. -/
def compressed (o : Octets 16) : String :=
  match mapped? o with
  | some q => "::ffff:" ++ dotted q
  | none =>
    let gs := groups o.toBytes
    let (start, length) := longestZeros gs
    if length < 2 then colons gs
    else colons (gs.take start) ++ "::" ++ colons (gs.drop (start + length))

/-- The text of an address. -/
def text : Address → String
  | v4 o => dotted o
  | v6 o => compressed o

end Address

/-- The text of an address and a port: an IPv6 address stands in brackets. -/
def SocketAddress.text (s : SocketAddress) : String :=
  match s.address with
  | .v4 o => s!"{Address.dotted o}:{s.port.toNat}"
  | .v6 o =>
    let zone := if s.zone = 0 then "" else s!"%{s.zone.toNat}"
    s!"[{Address.compressed o}{zone}]:{s.port.toNat}"

/-! ## 2. Reading -/

namespace Address

/-- A number of at most `most` digits that is no larger than `limit`, and what follows it.  A zero
may stand before other digits only when `padding`. -/
def number? (radix : Nat) (most : Option Nat) (limit : Nat) (padding : Bool) (cs : List Char) :
    Option (Nat × List Char) :=
  let value? (c : Char) : Option Nat := (Hex.digitValue? c).filter (· < radix)
  let ds := cs.takeWhile fun c => (value? c).isSome
  let n := ds.foldl (fun n c => n * radix + (value? c).getD 0) 0
  let fits := most.all (ds.length ≤ ·)
  let padded := ds.head? = some '0' ∧ 1 < ds.length
  if ds = [] ∨ ¬fits ∨ limit < n ∨ (¬padding ∧ padded) then none
  else some (n, cs.drop ds.length)

/-- The given character, and what follows it. -/
def mark? (c : Char) : List Char → Option (List Char)
  | d :: cs => if c = d then some cs else none
  | [] => none

/-- The four numbers of an IPv4 address. -/
def quad? (cs : List Char) : Option (List Nat × List Char) := do
  let (a, cs) ← number? 10 (some 3) 255 false cs
  let (b, cs) ← number? 10 (some 3) 255 false (← mark? '.' cs)
  let (c, cs) ← number? 10 (some 3) 255 false (← mark? '.' cs)
  let (d, cs) ← number? 10 (some 3) 255 false (← mark? '.' cs)
  return ([a, b, c, d], cs)

/-- What one run of groups was: the groups, whether a dotted form ended it, and what follows. -/
structure Groups where
  groups : List Nat
  dotted : Bool
  rest : List Char

/-- Reads up to `most` groups with colons between them.  Where two groups still fit, a dotted
form may stand for them and ends the run. -/
def readGroups : (most : Nat) → (first : Bool) → List Char → Groups
  | 0, _, cs => ⟨[], false, cs⟩
  | most + 1, first, cs =>
    match if first then some cs else mark? ':' cs with
    | none => ⟨[], false, cs⟩
    | some after =>
      match if 1 ≤ most then quad? after else none with
      | some (q, rest) => ⟨groups (q.map UInt8.ofNat), true, rest⟩
      | none =>
        match number? 16 (some 4) 0xFFFF true after with
        | none => ⟨[], false, cs⟩
        | some (g, rest) =>
          let more := readGroups most false rest
          ⟨g :: more.groups, more.dotted, more.rest⟩

/-- The octets of eight groups. -/
def ofGroups (gs : List Nat) : Octets 16 := Octets.ofBytes 16 (gs.flatMap (Bytes.ofNat 2))

/-- An IPv6 address, and what follows it. -/
def readV6? (cs : List Char) : Option (Octets 16 × List Char) :=
  let front := readGroups 8 true cs
  if front.groups.length = 8 then some (ofGroups front.groups, front.rest)
  else if front.dotted then none
  else do
    let cs ← mark? ':' (← mark? ':' front.rest)
    let back := readGroups (7 - front.groups.length) true cs
    let gap := List.replicate (8 - front.groups.length - back.groups.length) 0
    return (ofGroups (front.groups ++ gap ++ back.groups), back.rest)

/-- An IPv4 address, and what follows it. -/
def readV4? (cs : List Char) : Option (Octets 4 × List Char) :=
  (quad? cs).map fun (q, rest) => (Octets.ofBytes 4 (q.map UInt8.ofNat), rest)

/-- The address a text writes. -/
def read? (s : String) : Option Address :=
  match readV4? s.toList with
  | some (o, []) => some (.v4 o)
  | some _ => none
  | none =>
    match readV6? s.toList with
    | some (o, []) => some (.v6 o)
    | _ => none

end Address

/-- Why a text is no address. -/
inductive AddressError where
  | notAnAddress
deriving DecidableEq

/-- The text of the failure. -/
def AddressError.message : AddressError → String
  | .notAnAddress => "invalid IP address syntax"

namespace SocketAddress

/-- A colon and a port that ends the text. -/
def readPort? (cs : List Char) : Option UInt16 := do
  let (n, rest) ← Address.number? 10 none 65535 true (← Address.mark? ':' cs)
  if rest = [] then some (UInt16.ofNat n) else none

/-- An address in brackets, with its zone, and a port. -/
def readV6? (cs : List Char) : Option SocketAddress := do
  let (o, cs) ← Address.readV6? (← Address.mark? '[' cs)
  let (zone, cs) ←
    match Address.mark? '%' cs with
    | some cs => Address.number? 10 none 0xFFFFFFFF true cs
    | none => some (0, cs)
  return ⟨.v6 o, ← readPort? (← Address.mark? ']' cs), UInt32.ofNat zone⟩

/-- The address and port a text writes. -/
def read? (s : String) : Option SocketAddress :=
  match Address.readV4? s.toList with
  | some (o, rest) => (readPort? rest).map fun p => ⟨.v4 o, p, 0⟩
  | none => readV6? s.toList

end SocketAddress

/-! ## 3. Examples -/

example : (Address.read? "2001:db8::8:800:200c:417a").map Address.text
    = some "2001:db8::8:800:200c:417a" := by decide +kernel

example : (Address.read? "::ffff:192.0.2.1").map Address.canonical = Address.read? "192.0.2.1" := by
  decide +kernel

example : Address.read? "192.0.02.1" = none := by decide +kernel

end FlowIntake
