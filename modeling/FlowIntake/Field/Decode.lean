/-
# Reading one field

* `FieldError`: why a field has no value;
* `DataType.decode`: reads a field of a given length.

A length that the data type does not accept is refused before any octet is looked at.
-/
import FlowIntake.Field.Value
import FlowIntake.Wire.Cursor

namespace FlowIntake

/-- Why a field could not be read. -/
inductive FieldError where
  | read (e : ReadError)
  /-- The data type `name` is declared with does not accept the length. -/
  | invalidLength (name : String) (length least greatest : Nat)
  /-- A truth value that is neither 1 nor 2. -/
  | invalidBoolean (name : String) (value : UInt8)
deriving DecidableEq

namespace FieldError

/-- The text of the failure. -/
def message : FieldError → String
  | read e => e.message
  | invalidLength name length least greatest =>
    s!"Field {name} has length {length} outside of the allowed range {least}..={greatest}"
  | invalidBoolean name value => s!"Field {name} carries invalid boolean value {value.toNat}"

/-- Whether the field ran past the end of what encloses it. -/
def IsOverrun : FieldError → Prop
  | read _ => True
  | _ => False

instance (e : FieldError) : Decidable e.IsOverrun := by
  cases e <;> simp only [IsOverrun] <;> infer_instance

end FieldError

/-- Reads a field of `length` octets, named `name` in failures. -/
def DataType.decode (t : DataType) (name : String) (length : Nat) : Reader FieldError Value :=
  fun c =>
    if t.Accepts length then
      match Cursor.take length c with
      | .error e c => .error (.read e) c
      | .ok bs c =>
        match t.interpret bs with
        | some v => .ok v c
        | none => .error (.invalidBoolean name (UInt8.ofNat bs.value)) c
    else .error (.invalidLength name length t.minLength t.maxLength) c

end FlowIntake
