/-
# Templates

A `Template` lays out the records of every data set that carries its identifier: which elements
follow one another, and in how many octets.  An options template begins with its scope fields.

* `Field.decode`: reads one field of a record, its length first when that varies;
* `Template.minRecordLength`: the size of the smallest record; less than that is padding;
* `Template.keys`: the names under which the fields of a record are kept, no two alike.
-/
import FlowIntake.Element.Basic
import FlowIntake.Field.Decode
import Std.Data.HashSet

namespace FlowIntake

/-! ## 1. Fields -/

/-- The declared length of a field whose length stands before each occurrence. -/
def variableLength : UInt16 := 65535

/-- One field of a template. -/
structure Field where
  element : Element
  length : UInt16
deriving DecidableEq

namespace Field

/-- The name of the field's element. -/
def name (f : Field) : String := f.element.name

/-- Whether each occurrence carries its own length. -/
def isVariable (f : Field) : Bool := f.length = variableLength

/-- The fewest octets one occurrence takes in a record. -/
def minWireLength (f : Field) : Nat := if f.isVariable then 1 else f.length.toNat

/-- The fewest octets that one occurrence each of several fields takes. -/
def minWireLengths : List Field → Nat
  | [] => 0
  | f :: fs => f.minWireLength + minWireLengths fs

/-- Reads a field of a given length. -/
def decodeSized (f : Field) (length : Nat) : Reader FieldError Value :=
  f.element.type.decode f.element.name length

/-- Reads one occurrence of the field. -/
def decode (f : Field) : Reader FieldError Value := fun c =>
  if f.isVariable then
    match Cursor.variableLength c with
    | .ok length c => f.decodeSized length c
    | .error e c => .error (.read e) c
  else f.decodeSized f.length.toNat c

end Field

/-! ## 2. Templates -/

/-- What the records of a template are for. -/
inductive TemplateKind where
  | data
  | options
deriving DecidableEq

namespace TemplateKind

/-- The identifier of the sets that carry templates of this kind. -/
def setId : TemplateKind → UInt16
  | data => 2
  | options => 3

/-- The name of the kind. -/
def name : TemplateKind → String
  | data => "data"
  | options => "options"

end TemplateKind

/-- The least identifier of a template, and of the data sets that use it. -/
def minDataSetId : UInt16 := 256

/-- The layout of a record. -/
structure Template where
  id : UInt16
  kind : TemplateKind
  /-- How many of the first fields are scope fields. -/
  scopeCount : Nat
  fields : List Field
deriving DecidableEq

namespace Template

/-- The size of the smallest record. -/
def minRecordLength (t : Template) : Nat := Field.minWireLengths t.fields

/-- The scope fields. -/
def scopeFields (t : Template) : List Field := t.fields.take t.scopeCount

/-- What the least record length says about a template that may be installed. -/
structure WellFormed (t : Template) : Prop where
  id_ge : minDataSetId ≤ t.id
  fields_ne : t.fields ≠ []
  minRecordLength_pos : 0 < t.minRecordLength
  scope_data : t.kind = .data → t.scopeCount = 0
  scope_options : t.kind = .options → 1 ≤ t.scopeCount ∧ t.scopeCount ≤ t.fields.length

/-! ## 3. Keys of fields -/

/-- The `n`-th name for a repeated field. -/
def suffixed (name : String) (n : Nat) : String := s!"{name}_{n}"

/-- The first of `name_n`, `name_(n+1)`, … that is not taken, among as many as `fuel`. -/
def firstFree (taken : Std.HashSet String) (name : String) : (fuel n : Nat) → String
  | 0, n => suffixed name n
  | fuel + 1, n =>
    let candidate := suffixed name n
    if taken.contains candidate then firstFree taken name fuel (n + 1) else candidate

/-- The key of the next field of this name: the name itself, or the first free one of `name_2`,
`name_3`, …, one of which must be free when there are fewer taken. -/
def nextKey (taken : Std.HashSet String) (name : String) : String :=
  if taken.contains name then firstFree taken name taken.size 2 else name

/-- The keys of fields with the given names, when some keys are taken already. -/
def keysFrom (taken : Std.HashSet String) : List String → List String
  | [] => []
  | name :: names =>
    let key := nextKey taken name
    key :: keysFrom (taken.insert key) names

/-- The keys of the fields, in order. -/
def keys (t : Template) : List String := keysFrom ∅ (t.fields.map Field.name)

end Template

end FlowIntake
