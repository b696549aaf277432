/-
# Writing packets

A `Builder` takes the sets of a packet one by one and fills in every length.

* `Builder.template`, `Builder.optionsTemplate`, `Builder.withdrawal`, `Builder.data`: sets;
* `variableField`: the octets of a field of variable length, with the shortest length before them;
* `Builder.build`: the packet.

Lengths have two octets; of a longer one only those are written.
-/
import FlowIntake.Packet.Framing

namespace FlowIntake

/-- The description of a field in a template record: an identifier, the enterprise number when it
is not public, and a length. -/
structure FieldSpec where
  id : UInt16
  enterprise : Option UInt32
  length : UInt16
deriving DecidableEq

/-- The octets that describe a field. -/
def FieldSpec.bytes (f : FieldSpec) : Bytes :=
  match f.enterprise with
  | none => Bytes.ofNat 2 f.id.toNat ++ Bytes.ofNat 2 f.length.toNat
  | some enterprise =>
    Bytes.ofNat 2 (f.id ||| TemplateRecord.enterpriseBit).toNat ++ Bytes.ofNat 2 f.length.toNat ++
      Bytes.ofNat 4 enterprise.toNat

/-- A field of variable length: one octet of length below 255, else 255 and two octets. -/
def variableField (bs : Bytes) : Bytes :=
  if bs.length < 255 then Bytes.ofNat 1 bs.length ++ bs
  else 255 :: (Bytes.ofNat 2 bs.length ++ bs)

/-- A packet that is being put together: its header's numbers and the octets of its sets. -/
structure Builder where
  version : UInt16 := Header.protocolVersion
  exportTime : UInt32 := 0
  sequence : UInt32 := 0
  domain : UInt32 := 0
  sets : List RawSet := []
deriving DecidableEq

namespace Builder

/-- Appends a set. -/
def set (b : Builder) (id : UInt16) (body : Bytes) : Builder :=
  { b with sets := b.sets ++ [⟨id, body⟩] }

/-- Appends a template set of one template. -/
def template (b : Builder) (id : UInt16) (fields : List FieldSpec) : Builder :=
  b.set TemplateKind.data.setId
    (Bytes.ofNat 2 id.toNat ++ Bytes.ofNat 2 fields.length ++ fields.flatMap FieldSpec.bytes)

/-- Appends an options template set of one template. -/
def optionsTemplate (b : Builder) (id scopes : UInt16) (fields : List FieldSpec) : Builder :=
  b.set TemplateKind.options.setId
    (Bytes.ofNat 2 id.toNat ++ Bytes.ofNat 2 fields.length ++ Bytes.ofNat 2 scopes.toNat ++
      fields.flatMap FieldSpec.bytes)

/-- Appends a withdrawal in a set with the given identifier. -/
def withdrawal (b : Builder) (setId id : UInt16) : Builder :=
  b.set setId (Bytes.ofNat 2 id.toNat ++ Bytes.ofNat 2 0)

/-- Appends a data set of records. -/
def data (b : Builder) (id : UInt16) (records : List Bytes) : Builder := b.set id records.flatten

/-- The octets of the packet. -/
def build (b : Builder) : Bytes :=
  let body := b.sets.flatMap RawSet.bytes
  let header : Header :=
    ⟨b.version, UInt16.ofNat (Header.size + body.length), b.exportTime, b.sequence, b.domain⟩
  header.bytes ++ body

end Builder

end FlowIntake
