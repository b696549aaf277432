/-
# Reading a byte string from front to back

A `Cursor` is a place in a byte string: how many octets lie before it, and the octets after it.
Every read either takes the octets it returns or fails and stays where it was.

* `Cursor.take`: the one primitive read, of a given number of octets;
* `Cursor.uint`, `Cursor.int`: numbers of up to eight octets, and the fixed widths on top;
* `Cursor.variableLength`: the length that stands before a field of variable length;
* `Cursor.Command`: reads as data, so that a whole sequence of them can be run (`Cursor.run`);
* `take_eq`, `take_ok_iff`: when a read succeeds, and what it takes.
-/
import FlowIntake.Wire.Bytes

namespace FlowIntake

/-! ## 1. Failures and readers -/

/-- Why octets could not be read. -/
inductive ReadError where
  /-- The read needs more octets than are left. -/
  | short (needed remaining : Nat)
  /-- A long length was announced, and the data end within its two octets. -/
  | lengthCut (remaining : Nat)
deriving DecidableEq

namespace ReadError

/-- The text of the failure. -/
def message : ReadError → String
  | short needed remaining => s!"Need {needed} bytes but only {remaining} remain"
  | lengthCut remaining =>
    s!"Variable length prefix announces an extended length but only {remaining} bytes remain"

end ReadError

/-- A place in a byte string. -/
structure Cursor where
  position : Nat
  rest : Bytes
deriving DecidableEq

/-- A computation that reads on from a cursor.  The cursor it leaves is known also when it
fails. -/
abbrev Reader (ε α : Type) := EStateM ε Cursor α

namespace Cursor

/-- The start of a byte string. -/
def ofBytes (bs : Bytes) : Cursor := ⟨0, bs⟩

/-- How many octets are left. -/
def remaining (c : Cursor) : Nat := c.rest.length

/-- `c` is a place in `bs`. -/
def In (bs : Bytes) (c : Cursor) : Prop := c.position ≤ bs.length ∧ c.rest = bs.drop c.position

theorem in_ofBytes (bs : Bytes) : In bs (ofBytes bs) := by simp [In, ofBytes]

/-! ## 2. Reads -/

/-- Takes the next `n` octets. -/
def take (n : Nat) : Reader ReadError Bytes := fun c =>
  if c.rest.atLeast n then .ok (c.rest.take n) ⟨c.position + n, c.rest.drop n⟩
  else .error (.short n c.remaining) c

/-- Passes over the next `n` octets. -/
def skip (n : Nat) : Reader ReadError Unit := (fun _ => ()) <$> take n

/-- Takes the next `n` octets as a byte string of their own. -/
def split (n : Nat) : Reader ReadError Cursor := ofBytes <$> take n

/-- Reads an unsigned number of `n` octets. -/
def uint (n : Nat) : Reader ReadError UInt64 := (fun bs => UInt64.ofNat bs.value) <$> take n

/-- Reads a two's complement number of `n` octets. -/
def int (n : Nat) : Reader ReadError Int64 := (fun bs => Int64.ofInt bs.signedValue) <$> take n

/-- Reads one octet. -/
def u8 : Reader ReadError UInt8 := (fun bs => UInt8.ofNat bs.value) <$> take 1

/-- Reads a number of two octets. -/
def u16 : Reader ReadError UInt16 := (fun bs => UInt16.ofNat bs.value) <$> take 2

/-- Reads a number of four octets. -/
def u32 : Reader ReadError UInt32 := (fun bs => UInt32.ofNat bs.value) <$> take 4

/-- Reads exactly `n` octets into a string of fixed length. -/
def octets (n : Nat) : Reader ReadError (Octets n) := Octets.ofBytes n <$> take n

/-- Reads the length that stands before a field of variable length: one octet below 255, or
255 and then two octets. -/
def variableLength : Reader ReadError Nat := fun c =>
  match c.rest with
  | [] => .error (.short 1 0) c
  | b :: rest =>
    if b < 255 then .ok b.toNat ⟨c.position + 1, rest⟩
    else
      match rest with
      | hi :: lo :: rest => .ok (Bytes.value [hi, lo]) ⟨c.position + 3, rest⟩
      | cut => .error (.lengthCut cut.length) c

theorem take_eq (n : Nat) (c : Cursor) :
    take n c = if n ≤ c.remaining then .ok (c.rest.take n) ⟨c.position + n, c.rest.drop n⟩
      else .error (.short n c.remaining) c := by
  by_cases h : n ≤ c.rest.length <;> simp [take, remaining, h]

/-- A read of `n` octets succeeds when so many are left, and takes exactly them. -/
theorem take_ok_iff {n : Nat} {c c' : Cursor} {bs : Bytes} :
    take n c = .ok bs c' ↔
      c.rest = bs ++ c'.rest ∧ bs.length = n ∧ c'.position = c.position + n := by
  rw [take_eq]
  constructor
  · intro h
    split at h
    · rename_i hn
      cases h
      simp only [remaining] at hn
      simp [hn]
    · cases h
  · rintro ⟨hrest, hlen, hpos⟩
    obtain ⟨p, r⟩ := c'
    simp only at hrest hpos
    simp [remaining, hrest, hpos, ← hlen]

/-! ## 3. Sequences of reads -/

/-- A read as data.  `split` runs commands of its own on the octets it takes. -/
inductive Command where
  | u8 | u16 | u32
  | uint (n : Nat)
  | int (n : Nat)
  | take (n : Nat)
  | skip (n : Nat)
  | octets (n : Nat)
  | variableLength
  | split (n : Nat) (inner : List Command)

/-- What one command answers. -/
inductive Answer where
  | number (v : Nat)
  | unsigned (v : UInt64)
  | signed (v : Int64)
  | bytes (bs : Bytes)
  | passed
  /-- The octets the inner cursor left, and each inner answer with the cursor after it. -/
  | inner (left : Bytes) (trail : List (Except ReadError Answer × Cursor))

/-- An answer, and the cursor it leaves. -/
abbrev Outcome := Except ReadError Answer × Cursor

/-- The answer of a read that makes `f a` of its result. -/
def outcome {α : Type} (f : α → Answer) (r : Reader ReadError α) (c : Cursor) : Outcome :=
  match r c with
  | .ok a c' => (.ok (f a), c')
  | .error e c' => (.error e, c')

mutual

/-- Runs one command. -/
def Command.run : Command → Cursor → Outcome
  | .u8, c => outcome (fun v => .number v.toNat) Cursor.u8 c
  | .u16, c => outcome (fun v => .number v.toNat) Cursor.u16 c
  | .u32, c => outcome (fun v => .number v.toNat) Cursor.u32 c
  | .uint n, c => outcome .unsigned (Cursor.uint n) c
  | .int n, c => outcome .signed (Cursor.int n) c
  | .take n, c => outcome .bytes (Cursor.take n) c
  | .skip n, c => outcome (fun _ => .passed) (Cursor.skip n) c
  | .octets n, c => outcome (fun o => .bytes o.toBytes) (Cursor.octets n) c
  | .variableLength, c => outcome .number Cursor.variableLength c
  | .split n inner, c =>
    match Cursor.split n c with
    | .ok part c' =>
      let (trail, last) := runAll inner part
      (.ok (.inner last.rest trail), c')
    | .error e c' => (.error e, c')

/-- Runs commands one after another, a failed one leaving the cursor for the next.  Gives each
outcome, and the cursor at the end. -/
def runAll : List Command → Cursor → List Outcome × Cursor
  | [], c => ([], c)
  | cmd :: cmds, c =>
    let first := cmd.run c
    let (later, last) := runAll cmds first.2
    (first :: later, last)

end

/-- The outcomes of a sequence of commands from the start of `bs`. -/
def run (cmds : List Command) (bs : Bytes) : List Outcome := (runAll cmds (ofBytes bs)).1

end Cursor

end FlowIntake
