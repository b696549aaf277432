/-
# The program

* `Service.launch`: what the command line and the settings lead to;
* `Service.run`: a whole run, from the command line to the exit code.
-/
import FlowIntake.Element.Public
import FlowIntake.Listener
import FlowIntake.Options
import FlowIntake.Report.Lines
import FlowIntake.Telemetry.Line

namespace FlowIntake.Service

/-! ## 1. Names and codes -/

/-- The name of the program. -/
def programName : String := "ipfix-collector"

/-- The version of the program. -/
def version : String := "0.1.0"

/-- What is printed when the version is asked for. -/
def versionText : String := s!"{programName} {version}"

/-- The exit code when settings are wrong. -/
def configCode : Nat := 78

/-- The exit code when the listener does not start. -/
def unavailableCode : Nat := 69

/-! ## 2. Launching -/

/-- How the program logs. -/
structure Logging where
  json : Bool
  /-- Whether colours are wanted; when absent, as the terminal decides. -/
  color : Option Bool
  filter : LogFilter

/-- The line of an entry.  Without a wish about colours the terminal decides. -/
def Logging.line (l : Logging) (terminal : Bool) (time : Timestamp) (e : LogEntry) : String :=
  if l.json then e.jsonLine time else e.plainLine (l.color.getD terminal) time

/-- The surroundings of the program. -/
structure Surroundings where
  processors : UInt64
  /-- The path of the settings in the environment. -/
  configEnv : Option String
  /-- The filter of the log in the environment, which comes before that of the settings. -/
  logEnv : Option String := none
  /-- The contents of a file. -/
  file : String → Except IoFault String

/-- What the command line and the settings lead to. -/
inductive Launch where
  /-- The command line asks for a text, or cannot be read. -/
  | answered (e : OptionsError)
  /-- The settings cannot be used. -/
  | refused (logging : Logging) (error : String)
  | ready (logging : Logging) (settings : Settings)

/-- An entry that the program itself makes. -/
def entry (level : LogLevel) (message : String) (fields : List (String × LogValue)) : LogEntry :=
  ⟨level, message, fields, .program⟩

/-- The entry about settings that cannot be used. -/
def settingsEntry (error : String) : LogEntry :=
  entry .error "Configuration error." [("error", .text error)]

/-- The filter of the environment when it is one, else that of the settings. -/
def logFilter (env : Surroundings) (level : String) : LogFilter :=
  (env.logEnv.bind LogFilter.ofText?).getD (.ofText level)

/-- How the settings say the program should log. -/
def Logging.ofSettings (env : Surroundings) (s : LogSettings) : Logging :=
  ⟨s.json, s.color, logFilter env s.level⟩

/-- How the program logs while there are no settings. -/
def Logging.early (env : Surroundings) (x : Options) : Logging :=
  ⟨x.jsonLogs, none, logFilter env "error"⟩

/-- The settings of the file that the options name, or the default ones. -/
def settings (env : Surroundings) (x : Options) : Except String Settings :=
  match x.config with
  | none => .ok (Settings.default env.processors)
  | some path =>
    (Settings.load env.processors (env.file path)).mapError (SettingsError.message path)

/-- Reads the command line and the settings. -/
def launch (env : Surroundings) (args : List String) : Launch :=
  match Options.read args env.configEnv with
  | .error e => .answered e
  | .ok x =>
    match settings env x with
    | .error error => .refused (.early env x) error
    | .ok s =>
      let s := x.apply s
      let logging := Logging.ofSettings env s.log
      match s.listener.problem? with
      | some p => .refused logging (SettingsError.message "" (.invalid p))
      | none => .ready logging s

/-! ## 3. Running -/

/-- What ends a run. -/
inductive Signal where
  | terminate
  | interrupt
  | quit
deriving DecidableEq

/-- A run: its exit code, the entries that were wanted, and the octets on the standard output. -/
structure Run where
  exitCode : Nat
  logging : Option Logging
  log : List LogEntry
  output : Bytes

/-- A run that logs. -/
def Run.logged (code : Nat) (logging : Logging) (log : List LogEntry) (output : Bytes) : Run :=
  ⟨code, some logging, log.filter logging.filter.passes, output⟩

/-- The entry about a listener that does not start. -/
def startEntry (e : StartError) : LogEntry :=
  match e with
  | .badAddress .. => settingsEntry e.message
  | .bind .. => entry .error "Failed to start listener." [("error", .text e.message)]

/-- The exit code when a listener does not start. -/
def startCode : StartError → Nat
  | .badAddress .. => configCode
  | .bind .. => unavailableCode

/-- The entry about the start. -/
def startedEntry (address : SocketAddress) : LogEntry :=
  entry .info "IPFIX collector started."
    [("version", .text version), ("address", .text address.text)]

/-- The dispatcher that accepts everything. -/
def accepting : Dispatcher := .answering fun _ _ => .ok ()

/-- Splits the entries of a listener that was served to its stop: those up to the stop, and those
from it on. -/
def beforeStop (events : List Event) : List Event × List Event :=
  events.span fun e => match e with
    | .listenerStopped _ => false
    | _ => true

/-- The entries of the end: a signal either ends the run at once or lets the listener stop. -/
def endLog (signal : Signal) (stop : List Event) : List LogEntry :=
  match signal with
  | .quit => [entry .info "Quitting immediately." []]
  | .terminate | .interrupt =>
    entry .info "Shutting down." [] :: logOf stop ++ [entry .info "IPFIX collector stopped." []]

/-- The entries of a run that a signal ends. -/
def servedLog (address : SocketAddress) (signal : Signal) (events : List Event) : List LogEntry :=
  let (served, stop) := beforeStop events
  let served := match logOf served with
    | first :: rest => first :: startedEntry address :: rest
    | [] => [startedEntry address]
  served ++ endLog signal stop

/-- A whole run: the listener gets the datagrams that reach it, and then the signal.  Fails when a
datagram cannot be sent to it. -/
def run (env : Surroundings) (network : Network) (args : List String) (ds : List Datagram)
    (signal : Signal) : Except IoFault Run :=
  match launch env args with
  | .answered .versionWanted => .ok ⟨0, none, [], Utf8.encode (versionText ++ "\n")⟩
  | .answered e => .ok ⟨e.exitCode, none, [], []⟩
  | .refused logging error => .ok (.logged configCode logging [settingsEntry error] [])
  | .ready logging s =>
    match s.listener.start network with
    | .error e => .ok (.logged (startCode e) logging (logOf e.events ++ [startEntry e]) [])
    | .ok address => do
      let ds ← network.deliver address ds
      let l := Listener.serve .iana s.listener address accepting 0 ds
      return .logged 0 logging (servedLog address signal l.history)
        (l.messages.flatMap Message.line)

end FlowIntake.Service
