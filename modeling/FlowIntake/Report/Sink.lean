/-
# Writing to a sink

A sink takes octets in as many pieces as its medium likes, and any call may fail.  Writing a byte
string goes on until all of it is taken or a call fails; what was taken before stays.

* `Medium`: how each call ends;
* `Sink.writeAll`: writes a byte string;
* `Sink.bytes`: everything that was taken.
-/
import FlowIntake.Wire.Bytes

namespace FlowIntake

/-- How the calls on a sink end; they are counted from one. -/
structure Medium where
  /-- How many of the octets offered are taken, or why the call fails. -/
  write : (call offered : Nat) → Except String Nat
  /-- Why a flush fails, if it does. -/
  flush : (call : Nat) → Option String

/-- A medium that takes everything. -/
def Medium.perfect : Medium := ⟨fun _ offered => .ok offered, fun _ => none⟩

/-- What has reached a sink. -/
structure Sink where
  /-- The pieces taken, the latest first. -/
  pieces : List Bytes := []
  writes : Nat := 0
  flushes : Nat := 0
deriving DecidableEq

namespace Sink

/-- Everything that was taken. -/
def bytes (s : Sink) : Bytes := s.pieces.reverse.flatten

/-- The failure of a call that takes nothing. -/
def nothingTaken : String := "write zero"

/-- Writes what is left of a byte string.  Each call that goes on takes an octet, so that as much
fuel as octets is enough. -/
def writeFrom (m : Medium) : (fuel : Nat) → Bytes → Sink → Sink × Except String Unit
  | _, [], s => (s, .ok ())
  | 0, _, s => (s, .ok ())
  | fuel + 1, bs, s =>
    let s := { s with writes := s.writes + 1 }
    match m.write s.writes bs.length with
    | .error e => (s, .error e)
    | .ok 0 => (s, .error nothingTaken)
    | .ok n => writeFrom m fuel (bs.drop n) { s with pieces := bs.take n :: s.pieces }

/-- Writes a byte string. -/
def writeAll (m : Medium) (bs : Bytes) (s : Sink) : Sink × Except String Unit :=
  writeFrom m bs.length bs s

/-- Flushes the sink. -/
def flush (m : Medium) (s : Sink) : Sink × Except String Unit :=
  let s := { s with flushes := s.flushes + 1 }
  match m.flush s.flushes with
  | none => (s, .ok ())
  | some e => (s, .error e)

end Sink

end FlowIntake
