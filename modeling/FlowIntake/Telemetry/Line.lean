/-
# Log entries as lines

An entry is written with the instant it was made at and the part of the program it comes from,
either as a JSON object or as plain words.

* `LogEntry.jsonLine`: the object, the details of the entry among its members;
* `LogEntry.plainLine`: the words, the level in its colour when colours are wanted.
-/
import FlowIntake.Telemetry.Log
import FlowIntake.Text.Json
import FlowIntake.Timestamp

namespace FlowIntake

/-- A detail as JSON. -/
def LogValue.json : LogValue → Json
  | number n => .int n
  | text s => .string s

/-- A detail in words. -/
def LogValue.plain : LogValue → String
  | number n => toString n
  | text s => s

/-- The number by which terminals know the colour of a level. -/
def LogLevel.color : LogLevel → Nat
  | error => 31
  | warn => 33
  | info => 32
  | debug => 34
  | trace => 35

namespace LogEntry

/-- The entry as a JSON object. -/
def jsonLine (e : LogEntry) (time : Timestamp) : String :=
  Json.text <| .object <|
    [("timestamp", .string (time.text "Z")), ("level", .string e.level.name),
      ("message", .string e.message)] ++
    e.fields.map (fun (name, v) => (name, v.json)) ++
    [("target", .string e.source.name)]

/-- The name of the level in five columns. -/
def levelColumn (e : LogEntry) (colored : Bool) : String :=
  let name := "".pushn ' ' (5 - e.level.name.length) ++ e.level.name
  let color := e.level.color
  if colored then s!"\x1b[{color}m{name}\x1b[0m" else name

/-- The entry in words. -/
def plainLine (e : LogEntry) (colored : Bool) (time : Timestamp) : String :=
  let details := e.fields.map fun (name, v) => " " ++ name ++ "=" ++ v.plain
  let place := time.text "Z" ++ " " ++ e.levelColumn colored ++ " " ++ e.source.name
  s!"{place}: {e.message}" ++ "".intercalate details

end LogEntry

example :
    LogEntry.plainLine ⟨.info, "Bytes received.", [("byte_size", .number 16)], .program⟩ false
      ⟨0, 0⟩
    = "1970-01-01T00:00:00Z  INFO ipfix_collector: Bytes received. byte_size=16" := by
  decide +kernel

end FlowIntake
