/-
# Events

What happens in a collector that is worth a line in the log or a count.

* `Event.entry?`: what is logged;
* `Event.measurements`: what is counted.
-/
import FlowIntake.Net.Address.Text
import FlowIntake.Net.Fault
import FlowIntake.Packet.Error
import FlowIntake.Telemetry.Log
import FlowIntake.Telemetry.Metrics

namespace FlowIntake

/-- What happens in a collector. -/
inductive Event where
  | listenerStarted (address : SocketAddress) (workers : Nat)
  | listenerStopped (address : SocketAddress)
  | bindFailed (address : SocketAddress) (fault : IoFault)
  | receiveFailed (fault : IoFault)
  | bytesReceived (size : Nat) (peer : SocketAddress)
  | packetDiscarded (error : PacketError) (peer : SocketAddress)
  | setSkipped (issue : SetIssue) (peer : SocketAddress)
  | messagesDecoded (count installed withdrawn : Nat) (peer : SocketAddress)
  | datagramDropped (peer : SocketAddress) (worker : Nat)
  | workerStopped (peer : SocketAddress) (worker : Nat)
  | dispatchFailed (text : String)
  | messageDispatched
  | sessionsExpired (count remaining : Nat)
  | shutdownTimedOut (timeoutMillis aborted : Nat)
deriving DecidableEq

namespace Event

/-! ## 1. The log -/

/-- The stage of the work that a failure belongs to. -/
inductive Stage where
  | receiving
  | processing
  | sending

/-- The name of a stage. -/
def Stage.name : Stage → String
  | receiving => "receiving"
  | processing => "processing"
  | sending => "sending"

/-- The class of a failure and the stage it happened at. -/
structure Failure where
  type : String
  stage : Stage

/-- How an event is a failure, if it is one. -/
def failure? : Event → Option Failure
  | bindFailed .. => some ⟨"configuration_failed", .receiving⟩
  | receiveFailed _ => some ⟨"reader_failed", .receiving⟩
  | packetDiscarded .. => some ⟨"parser_failed", .processing⟩
  | datagramDropped .. => some ⟨"buffer_full", .receiving⟩
  | workerStopped .. => some ⟨"delivery_failed", .processing⟩
  | dispatchFailed _ => some ⟨"writer_failed", .sending⟩
  | shutdownTimedOut .. => some ⟨"timed_out", .sending⟩
  | _ => none

/-- The details of a failure. -/
def Failure.fields (f : Failure) : List (String × LogValue) :=
  [("error_type", .text f.type), ("stage", .text f.stage.name)]

/-- The details of the failure an event is. -/
def failureFields (e : Event) : List (String × LogValue) := (e.failure?.map Failure.fields).getD []

/-- An address as a detail. -/
def addressField (name : String) (a : SocketAddress) : String × LogValue := (name, .text a.text)

/-- What is logged of an issue. -/
def issueEntry (issue : SetIssue) (peer : SocketAddress) : LogEntry :=
  match issue with
  | .missingTemplate setId =>
    { level := .debug
      message := "Skipping data set without a known template."
      fields := [("set_id", .number setId.toNat), addressField "peer_addr" peer] }
  | .sequenceGap expected received =>
    { level := .debug
      message := "Sequence number gap."
      fields := [("expected", .number expected.toNat), ("received", .number received.toNat),
        addressField "peer_addr" peer] }
  | issue =>
    { level := .warn
      message := "Skipping part of an IPFIX packet."
      fields := [("error", .text issue.message)] ++
        (issue.setId?.toList.map fun id => ("set_id", .number id.toNat)) ++
        [addressField "peer_addr" peer] ++ Failure.fields ⟨"parser_failed", .processing⟩ }

/-- What is logged of an event. -/
def entry? (e : Event) : Option LogEntry :=
  match e with
  | listenerStarted address workers => some
    { level := .info
      message := "Listening for IPFIX messages."
      fields := [addressField "address" address, ("workers", .number workers)] }
  | listenerStopped address => some
    { level := .info
      message := "IPFIX listener stopped."
      fields := [addressField "address" address] }
  | bindFailed address fault => some
    { level := .error
      message := "Unable to bind IPFIX listener socket."
      fields := [addressField "address" address, ("error", .text fault.text),
        ("error_code", .text fault.code)] ++ e.failureFields }
  | receiveFailed fault => some
    { level := .error
      message := "Error receiving IPFIX datagram."
      fields := [("error", .text fault.text), ("error_code", .text fault.code)] ++
        e.failureFields }
  | bytesReceived size peer => some
    { level := .trace
      message := "Bytes received."
      fields := [("byte_size", .number size), addressField "peer_addr" peer,
        ("protocol", .text "udp")] }
  | packetDiscarded error peer => some
    { level := .warn
      message := "Discarding malformed IPFIX packet."
      fields := [("error", .text error.message), addressField "peer_addr" peer] ++
        e.failureFields }
  | setSkipped issue peer => some (issueEntry issue peer)
  | messagesDecoded count installed withdrawn peer => some
    { level := .trace
      message := "Messages decoded."
      fields := [("count", .number count), ("templates_installed", .number installed),
        ("templates_withdrawn", .number withdrawn), addressField "peer_addr" peer] }
  | datagramDropped peer worker => some
    { level := .warn
      message := "Decode queue is full, dropping datagram."
      fields := [addressField "peer_addr" peer, ("worker", .number worker)] ++ e.failureFields }
  | workerStopped peer worker => some
    { level := .error
      message := "Decode worker has stopped, dropping datagram."
      fields := [addressField "peer_addr" peer, ("worker", .number worker)] ++ e.failureFields }
  | dispatchFailed text => some
    { level := .error
      message := "Failed to dispatch message."
      fields := [("error", .text text)] ++ e.failureFields }
  | messageDispatched => none
  | sessionsExpired count remaining =>
    if count = 0 then none
    else some
      { level := .debug
        message := "Expired idle exporter sessions."
        fields := [("count", .number count), ("remaining", .number remaining)] }
  | shutdownTimedOut timeoutMillis aborted => some
    { level := .error
      message := "IPFIX listener did not drain in time, abandoning remaining work."
      fields := [("timeout_secs", .number (timeoutMillis / 1000)), ("aborted", .number aborted)] ++
        e.failureFields }

/-! ## 2. Metrics -/

/-- One more failure. -/
def Failure.count (f : Failure) (labels : List (String × String)) : Measurement :=
  .increment ⟨"component_errors_total",
    labels ++ [("error_type", f.type), ("stage", f.stage.name)]⟩ 1

/-- One more event that was lost against all intent. -/
def discarded : Measurement :=
  .increment ⟨"component_discarded_events_total", [("intentional", "false")]⟩ 1

/-- What is counted of an event beyond its being a failure. -/
def ownMeasurements : Event → List Measurement
  | bytesReceived size _ =>
    [.increment ⟨"component_received_bytes_total", [("protocol", "udp")]⟩ size]
  | packetDiscarded .. => [.increment ⟨"ipfix_packets_discarded_total", []⟩ 1]
  | setSkipped issue _ => [.increment ⟨"ipfix_set_issues_total", [("issue", issue.name)]⟩ 1]
  | messagesDecoded count installed withdrawn _ =>
    [.increment ⟨"component_received_events_total", []⟩ count,
      .increment ⟨"ipfix_templates_installed_total", []⟩ installed,
      .increment ⟨"ipfix_templates_withdrawn_total", []⟩ withdrawn]
  | datagramDropped .. | workerStopped .. | dispatchFailed _ => [discarded]
  | messageDispatched => [.increment ⟨"component_sent_events_total", []⟩ 1]
  | sessionsExpired count remaining =>
    (if count = 0 then [] else [.increment ⟨"ipfix_sessions_expired_total", []⟩ count]) ++
      [.set ⟨"ipfix_sessions", []⟩ remaining]
  | _ => []

/-- The labels of a failure of the system. -/
def faultLabels : Event → List (String × String)
  | bindFailed _ fault | receiveFailed fault => [("error_code", fault.code)]
  | _ => []

/-- What is counted of an event. -/
def measurements (e : Event) : List Measurement :=
  (e.failure?.map fun f => f.count e.faultLabels).toList ++ e.ownMeasurements

end Event

/-- The entries that events leave in the log. -/
def logOf (events : List Event) : List LogEntry := events.filterMap Event.entry?

/-- The metrics after events. -/
def metricsOf (events : List Event) : Metrics :=
  Metrics.recordAll .empty (events.flatMap Event.measurements)

end FlowIntake
