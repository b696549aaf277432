import FlowIntake.Main
import FlowIntake.Packet.Builder
import FlowIntake.Proofs.Text.Utf8
import FlowIntake.Proofs.Wire.Reads
import FlowIntake.Proofs.Field.RoundTrip
import FlowIntake.Proofs.Template.RoundTrip
import FlowIntake.Proofs.Packet.Records
import FlowIntake.Proofs.Packet.Framing
import FlowIntake.Proofs.Packet.RoundTrip
import FlowIntake.Proofs.Packet.Visits
import FlowIntake.Proofs.Packet.Overrun
import FlowIntake.Proofs.Session.Isolation
import FlowIntake.Proofs.Packet.Acceptance
import FlowIntake.Proofs.Session.Sequence
import FlowIntake.Pipeline
import FlowIntake.Proofs.Pipeline.Order
import FlowIntake.Proofs.Session.Expiry
import FlowIntake.Proofs.Packet.Tiling
import FlowIntake.Proofs.Template.WellFormed
import FlowIntake.Proofs.Packet.Contents
import FlowIntake.Proofs.Session.Templates
import FlowIntake.Proofs.Packet.Completeness
import FlowIntake.Proofs.Packet.Containment
import FlowIntake.Proofs.Packet.Joining
import FlowIntake.Proofs.Pipeline.Delivery
import FlowIntake.Proofs.Decimal.Digits
import FlowIntake.Proofs.Report.Failures
import FlowIntake.Proofs.Calendar
import FlowIntake.Proofs.Field.ValueText
import FlowIntake.Proofs.Report.Lossless
import FlowIntake.Proofs.Packet.Partition
import FlowIntake.Proofs.Packet.Progress
import FlowIntake.Proofs.Template.Grammar
import FlowIntake.Proofs.Field.WireForm
import FlowIntake.Proofs.Field.Doubles
import FlowIntake.Proofs.Field.VariableLength
import FlowIntake.Proofs.Packet.FixedLayout
import FlowIntake.Proofs.Packet.Truncation
import FlowIntake.Proofs.Session.Retransmission
import FlowIntake.Proofs.Message.Fields
import FlowIntake.Proofs.Element.Names
import FlowIntake.Proofs.Message.ElementKeys
import FlowIntake.Proofs.Field.Instants
import FlowIntake.Proofs.Wire.Confinement
import FlowIntake.Proofs.Field.Extent
