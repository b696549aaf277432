/-
# Messages as lines

Each message is written as its JSON text and a line feed, and the sink is flushed after it.

* `Message.line`: the line of a message;
* `Sink.submit`: writes a message; it is accepted when its line was taken whole and flushed.
-/
import FlowIntake.Message
import FlowIntake.Report.Sink

namespace FlowIntake

/-- The line of a message: its JSON text and a line feed. -/
def Message.line (m : Message) : Bytes := Utf8.encode m.json.text ++ [0x0A]

/-- Why a message was not accepted. -/
inductive DispatchError where
  | write (source : String)
  | flush (source : String)
deriving DecidableEq

namespace DispatchError

/-- The text of the failure. -/
def message : DispatchError → String
  | write _ => "Failed to write message"
  | flush _ => "Failed to flush output"

/-- The failure behind it. -/
def source : DispatchError → String
  | write source | flush source => source

end DispatchError

/-- Writes a message to a sink. -/
def Sink.submit (m : Medium) (s : Sink) (message : Message) : Sink × Except DispatchError Unit :=
  match s.writeAll m message.line with
  | (s, .error e) => (s, .error (.write e))
  | (s, .ok ()) =>
    match s.flush m with
    | (s, .error e) => (s, .error (.flush e))
    | (s, .ok ()) => (s, .ok ())

end FlowIntake
