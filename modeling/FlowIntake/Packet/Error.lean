/-
# What can be wrong with a packet

* `PacketError`: a fault of the framing, for which the whole packet is discarded;
* `SetIssue`: a condition that costs some of one set's content and leaves the packet around it;
* `SetIssue.AbortsPacket`, `SetIssue.LosesRecords`: what follows from an issue.
-/
import FlowIntake.Template.Record

namespace FlowIntake

/-- A fault of the framing. -/
inductive PacketError where
  | truncatedHeader (length : Nat)
  | unsupportedVersion (version : UInt16)
  | invalidMessageLength (declared available : Nat)
  | setOverrun (setId : UInt16) (length remaining : Nat)
  | invalidSetLength (setId : UInt16) (length : Nat)
  | truncatedSetHeader (remaining : Nat)
deriving DecidableEq

/-- The text of the fault. -/
def PacketError.message : PacketError → String
  | truncatedHeader length => s!"Packet of {length} bytes is too short for a message header"
  | unsupportedVersion version => s!"Unsupported protocol version {version.toNat}"
  | invalidMessageLength declared available =>
    s!"Message header declares {declared} bytes but {available} are available"
  | setOverrun setId length remaining =>
    s!"Set {setId.toNat} declares {length} bytes but only {remaining} remain in the message"
  | invalidSetLength setId length => s!"Set {setId.toNat} declares invalid length {length}"
  | truncatedSetHeader remaining =>
    s!"Truncated set header with {remaining} bytes left in the message"

/-- A condition that costs some of one set's content. -/
inductive SetIssue where
  | missingTemplate (setId : UInt16)
  | recordDecode (setId : UInt16) (record : Nat) (source : FieldError)
  | recordOverrun (setId : UInt16) (record : Nat) (source : FieldError)
  | malformedTemplate (setId : UInt16) (source : TemplateError)
  | reservedSet (setId : UInt16)
  | sequenceGap (expected received : UInt32)
deriving DecidableEq

namespace SetIssue

/-- The text of the condition. -/
def message : SetIssue → String
  | missingTemplate setId => s!"No template known for data set {setId.toNat}"
  | recordDecode setId record source =>
    s!"Failed to decode record {record} of set {setId.toNat}: {source.message}"
  | recordOverrun setId record source =>
    s!"Record {record} overruns the bounds of set {setId.toNat}: {source.message}"
  | malformedTemplate setId source =>
    s!"Malformed template record in set {setId.toNat}: {source.message}"
  | reservedSet setId => s!"Skipped set with reserved id {setId.toNat}"
  | sequenceGap expected received =>
    s!"Expected sequence number {expected.toNat} but received {received.toNat}"

/-- The name under which the condition is counted. -/
def name : SetIssue → String
  | missingTemplate _ => "missing_template"
  | recordDecode .. => "record_decode"
  | recordOverrun .. => "record_overrun"
  | malformedTemplate .. => "malformed_template"
  | reservedSet _ => "reserved_set"
  | sequenceGap .. => "sequence_gap"

/-- The set it happened in. -/
def setId? : SetIssue → Option UInt16
  | missingTemplate setId | recordDecode setId _ _ | recordOverrun setId _ _
  | malformedTemplate setId _ | reservedSet setId => some setId
  | sequenceGap .. => none

/-- Whether the sets that follow are not looked at. -/
def AbortsPacket : SetIssue → Prop
  | recordOverrun .. => True
  | _ => False

instance (i : SetIssue) : Decidable i.AbortsPacket := by
  cases i <;> simp only [AbortsPacket] <;> infer_instance

/-- Whether records were passed over, so that the next sequence number is not known. -/
def LosesRecords : SetIssue → Prop
  | missingTemplate _ | recordDecode .. | recordOverrun .. => True
  | _ => False

instance (i : SetIssue) : Decidable i.LosesRecords := by
  cases i <;> simp only [LosesRecords] <;> infer_instance

theorem losesRecords_of_abortsPacket {i : SetIssue} (h : i.AbortsPacket) : i.LosesRecords := by
  cases i <;> simp_all [AbortsPacket, LosesRecords]

end SetIssue

end FlowIntake
