/-
# Template records

The records of a template set define templates or withdraw them.

* `TemplateRecord.parse`: reads one record;
* `TemplateError`: why it cannot be read.
-/
import FlowIntake.Template.Basic

namespace FlowIntake

/-- One record of a template set. -/
inductive TemplateRecord where
  | definition (template : Template)
  /-- Takes back the template with this identifier; with the identifier of the set, every template
  of its kind. -/
  | withdrawal (id : UInt16)
deriving DecidableEq

/-- Why a template record cannot be used. -/
inductive TemplateError where
  | truncated (source : ReadError)
  | reservedId (id : UInt16)
  | invalidScopeCount (id scopeCount fieldCount : UInt16)
  | emptyRecord (id : UInt16)
deriving DecidableEq

/-- The text of the failure. -/
def TemplateError.message : TemplateError → String
  | truncated source => s!"Template record is truncated: {source.message}"
  | reservedId id => s!"Template id {id.toNat} is reserved for set ids"
  | invalidScopeCount id scopeCount fieldCount =>
    s!"Template {id.toNat} declares {scopeCount.toNat} scope fields out of {fieldCount.toNat} fields"
  | emptyRecord id => s!"Template {id.toNat} describes records of zero length"

namespace TemplateRecord

/-- The size of the smallest record, a withdrawal. -/
def minLength : Nat := 4

/-- The bit that says that an enterprise number follows. -/
def enterpriseBit : UInt16 := 0x8000

/-- Reads with the failure that the record is truncated. -/
def reading {α : Type} (r : Reader ReadError α) : Reader TemplateError α := fun c =>
  match r c with
  | .ok a c => .ok a c
  | .error e c => .error (.truncated e) c

/-- Reads the description of one field: its identifier and length, and the enterprise number when
the identifier says so. -/
def field (elements : Registry) : Reader TemplateError Field := do
  let raw ← reading Cursor.u16
  let length ← reading Cursor.u16
  if raw &&& enterpriseBit = 0 then
    return ⟨elements.resolve Element.publicEnterprise raw, length⟩
  else
    let enterprise ← reading Cursor.u32
    return ⟨elements.resolve enterprise (raw ^^^ enterpriseBit), length⟩

/-- Reads `n` fields, after those already read, the last of which stands first. -/
def fields (elements : Registry) : (n : Nat) → List Field → Reader TemplateError (List Field)
  | 0, read => return read.reverse
  | n + 1, read => do
    let f ← field elements
    fields elements n (f :: read)

/-- Reads how many of the `fieldCount` fields are scope fields. -/
def scopeCount (kind : TemplateKind) (id fieldCount : UInt16) : Reader TemplateError Nat :=
  match kind with
  | .data => return 0
  | .options => do
    let n ← reading Cursor.u16
    if n = 0 ∨ fieldCount < n then throw (.invalidScopeCount id n fieldCount)
    return n.toNat

/-- Reads one record of a set that carries templates of the given kind. -/
def parse (kind : TemplateKind) (elements : Registry) : Reader TemplateError TemplateRecord := do
  let id ← reading Cursor.u16
  let count ← reading Cursor.u16
  if count = 0 then
    if id ≠ kind.setId ∧ id < minDataSetId then throw (.reservedId id)
    return .withdrawal id
  else
    if id < minDataSetId then throw (.reservedId id)
    let scopes ← scopeCount kind id count
    let fs ← fields elements count.toNat []
    let template : Template := ⟨id, kind, scopes, fs⟩
    if template.minRecordLength = 0 then throw (.emptyRecord id)
    return .definition template

end TemplateRecord

end FlowIntake
