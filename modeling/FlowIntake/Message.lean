/-
# Messages

A `Message` is one decoded record: who sent it and when, and its values under their keys.

* `MessageContext.message`: the message of a record's values;
* `Message.get?`: the value under a key;
* `Message.json`: the message as it is written out.
-/
import FlowIntake.Field.Value.Text
import FlowIntake.Template.Basic

namespace FlowIntake

/-- One decoded record. -/
structure Message where
  exporter : Address
  domain : UInt32
  /-- When the packet was sent, in seconds since 1970. -/
  exportTime : UInt32
  sequence : UInt32
  templateId : UInt16
  kind : TemplateKind
  /-- The keys of the scope fields. -/
  scopes : List String
  /-- The values under their keys, in the order of the template. -/
  fields : List (String × Value)
deriving DecidableEq

/-- What the messages of one packet have in common. -/
structure MessageContext where
  exporter : Address
  domain : UInt32
  exportTime : UInt32
  sequence : UInt32
deriving DecidableEq

namespace MessageContext

/-- The message of a record of template `t`, whose fields are kept under `keys`. -/
def messageWith (c : MessageContext) (t : Template) (keys : List String) (values : List Value) :
    Message :=
  let fields := keys.zip values
  { exporter := c.exporter
    domain := c.domain
    exportTime := c.exportTime
    sequence := c.sequence
    templateId := t.id
    kind := t.kind
    scopes := (fields.map (·.1)).take t.scopeCount
    fields := fields }

/-- The message of a record of template `t`. -/
def message (c : MessageContext) (t : Template) (values : List Value) : Message :=
  c.messageWith t t.keys values

end MessageContext

namespace Message

/-- The value under a key. -/
def get? (m : Message) (key : String) : Option Value := m.fields.lookup key

/-- How many fields there are. -/
def size (m : Message) : Nat := m.fields.length

/-- The text of the time of export. -/
def exportTimeText (m : Message) : String := Timestamp.text ⟨m.exportTime.toNat, 0⟩ "Z"

/-- The message as a JSON object; scopes appear only when there are some. -/
def json (m : Message) : Json :=
  .object <|
    [("exporter", .string m.exporter.text),
      ("observation_domain_id", .int m.domain.toNat),
      ("export_time", .string m.exportTimeText),
      ("sequence_number", .int m.sequence.toNat),
      ("template_id", .int m.templateId.toNat),
      ("kind", .string m.kind.name)] ++
    (if m.scopes = [] then [] else [("scopes", .array (m.scopes.map .string))]) ++
    [("fields", .object (m.fields.map fun (key, value) => (key, value.json)))]

end Message

end FlowIntake
