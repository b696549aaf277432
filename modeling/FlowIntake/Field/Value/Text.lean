/-
# How values are written

* `Value.json`: the value in a line of output;
* `Value.display`: the value for people to read: dates in full, numbers without an exponent.
-/
import FlowIntake.Field.Value
import FlowIntake.Net.Address.Text
import FlowIntake.Text.Base64
import FlowIntake.Text.Json

namespace FlowIntake.Value

/-- Six octets in hexadecimal with colons between them. -/
def macText (o : Octets 6) : String :=
  ":".intercalate (o.toBytes.map fun b => String.ofList (Hex.ofByte b))

/-- The JSON value of a field value.  Octets are in base 64; a date and time is its numbers. -/
def json : Value → Json
  | unsigned v => .int v.toNat
  | signed v => .int v.toInt
  | float bits => .double bits
  | boolean b => .bool b
  | mac o => .string (macText o)
  | octets bs => .string (String.ofList (Base64.encode bs))
  | text s => .string s
  | ipv4 o => .string (Address.dotted o)
  | ipv6 o => .string (Address.compressed o)
  | seconds s => .int s.toNat
  | milliseconds ms => .int ms.toNat
  | microseconds s f | nanoseconds s f =>
    .object [("seconds", .int s.toNat), ("fraction", .int f.toNat)]

/-- Doubles are written out in full, without a point when they are whole. -/
def numberStyle : Decimal.Style where
  plain := none
  pointZero := false
  tieToEven := false
  nan := "NaN"
  infinite := fun negative => if negative then "-inf" else "inf"

/-- The text of a value for people to read. -/
def display (v : Value) : String :=
  match v with
  | unsigned v => toString v.toNat
  | signed v => toString v.toInt
  | float bits => numberStyle.text bits
  | boolean b => if b then "true" else "false"
  | mac o => macText o
  | octets bs => String.ofList (Base64.encode bs)
  | text s => s
  | ipv4 o => Address.dotted o
  | ipv6 o => Address.compressed o
  | seconds _ | milliseconds _ | microseconds _ _ | nanoseconds _ _ =>
    match v.timestamp? with
    | some t => t.text "+00:00"
    | none => "invalid timestamp"

end FlowIntake.Value
