/-
# Settings

What a collector is told: where to listen, how much to queue, how to log.

* `Settings.ofToml?`: the settings a document writes; every key must be known and every value of
  its kind and range;
* `ListenerSettings.problem?`: the first thing that makes settings unusable;
* `ListenerSettings.socketAddress?`: the address to listen on.
-/
import FlowIntake.Net.Address.Text
import FlowIntake.Net.Fault
import FlowIntake.Packet.Framing
import FlowIntake.Text.Literal
import FlowIntake.Toml.Document

namespace FlowIntake

/-! ## 1. The settings and their defaults -/

/-- Settings of the listener and its queues. -/
structure ListenerSettings where
  address : String := "::"
  port : UInt16 := 4739
  /-- Longer datagrams are cut to so many octets. -/
  maxPacketSize : UInt64 := 65535
  /-- The size of the socket's buffer, when it is not to be left alone. -/
  receiveBufferBytes : Option UInt64 := none
  workers : UInt64
  workerQueueSize : UInt64 := 1024
  dispatchQueueSize : UInt64 := 4096
  maxInFlightDispatches : UInt64 := 64
  shutdownTimeoutSecs : UInt64 := 30
  sessionIdleTimeoutSecs : UInt64 := 1800
deriving DecidableEq

/-- Settings of the log. -/
structure LogSettings where
  level : String := "info"
  json : Bool := false
  color : Option Bool := none
deriving DecidableEq

/-- All settings. -/
structure Settings where
  listener : ListenerSettings
  log : LogSettings := {}
deriving DecidableEq

/-- The settings when nothing is said, on a machine with so many processors. -/
def Settings.default (processors : UInt64) : Settings := { listener := { workers := processors } }

/-! ## 2. What can be wrong -/

/-- Why settings cannot be used. -/
inductive SettingsProblem where
  /-- The first of the counts that must not be zero and is. -/
  | zero (name : String)
  | packetSize
  | address (text : String) (source : AddressError)
deriving DecidableEq

/-- The text of the problem. -/
def SettingsProblem.message : SettingsProblem → String
  | zero name => s!"listener.{name} must be greater than zero"
  | packetSize => s!"listener.max_packet_size must be at least {Header.size} bytes"
  | address text source =>
    s!"listener.address {Literal.encode text} is not an IP address: {source.message}"

/-- Why there are no settings. -/
inductive SettingsError where
  /-- The file cannot be read. -/
  | unreadable (fault : IoFault)
  /-- The document is not TOML, or holds something that is no setting. -/
  | malformed
  | invalid (problem : SettingsProblem)
deriving DecidableEq

/-- The text of the failure, for the settings in the file `path`. -/
def SettingsError.message (path : String) : SettingsError → String
  | unreadable fault => s!"Could not read {path}: {fault.text}"
  | malformed => s!"Could not parse {path}"
  | invalid problem => s!"Invalid configuration: {problem.message}"

namespace ListenerSettings

/-- The text of the address without brackets around it. -/
def host (s : ListenerSettings) : String :=
  let cs := s.address.toList.dropWhile (· = '[')
  String.ofList (cs.reverse.dropWhile (· = ']')).reverse

/-- The address to listen on. -/
def socketAddress? (s : ListenerSettings) : Except AddressError SocketAddress :=
  match Address.read? s.host with
  | some a => .ok ⟨a, s.port, 0⟩
  | none => .error .notAnAddress

/-- The counts that must not be zero. -/
def counts (s : ListenerSettings) : List (String × UInt64) :=
  [("workers", s.workers), ("worker_queue_size", s.workerQueueSize),
    ("dispatch_queue_size", s.dispatchQueueSize),
    ("max_in_flight_dispatches", s.maxInFlightDispatches)]

/-- The first thing that makes the settings unusable. -/
def problem? (s : ListenerSettings) : Option SettingsProblem :=
  match s.counts.find? fun c => c.2 = 0 with
  | some (name, _) => some (.zero name)
  | none =>
    if s.maxPacketSize.toNat < Header.size then some .packetSize
    else
      match s.socketAddress? with
      | .error e => some (.address s.address e)
      | .ok _ => none

/-- How long an unused session is kept; for ever when zero is set. -/
def sessionIdleTimeout? (s : ListenerSettings) : Option UInt64 :=
  if s.sessionIdleTimeoutSecs = 0 then none else some s.sessionIdleTimeoutSecs

end ListenerSettings

/-- Checks settings. -/
def Settings.check (s : Settings) : Except SettingsError Unit :=
  match s.listener.problem? with
  | some p => .error (.invalid p)
  | none => .ok ()

/-! ## 3. From a document -/

/-- Takes one value into settings of type `σ`. -/
abbrev Setter (σ : Type) := Toml → σ → Option σ

/-- Takes a text. -/
def Setter.text {σ : Type} (set : String → σ → σ) : Setter σ
  | .string s, x => some (set s x)
  | _, _ => none

/-- Takes a truth value. -/
def Setter.flag {σ : Type} (set : Bool → σ → σ) : Setter σ
  | .boolean b, x => some (set b x)
  | _, _ => none

/-- Takes a number below `size`. -/
def Setter.count {σ : Type} (size : Nat) (set : Nat → σ → σ) : Setter σ
  | .integer i, x => if 0 ≤ i ∧ i < size then some (set i.toNat x) else none
  | _, _ => none

/-- Takes the members of a table, each by the setter of its name. -/
def setMembers? {σ : Type} (setters : List (String × Setter σ)) (members : List (String × Toml))
    (x : σ) : Option σ :=
  members.foldlM (fun x (name, v) => do (← setters.lookup name) v x) x

/-- Takes the items of an array in the order of the settings; items beyond them do not matter. -/
def setItems? {σ : Type} (setters : List (String × Setter σ)) (items : List Toml) (x : σ) :
    Option σ :=
  (setters.zip items).foldlM (fun x (s, v) => s.2 v x) x

/-- Takes a group of settings from a table or an array. -/
def setGroup? {σ : Type} (setters : List (String × Setter σ)) : Setter σ
  | .table members, x => setMembers? setters members x
  | .array items, x => setItems? setters items x
  | _, _ => none

namespace ListenerSettings

/-- The names of the settings, in order, and how each is taken. -/
def setters : List (String × Setter ListenerSettings) :=
  [("address", .text fun s x => { x with address := s }),
    ("port", .count UInt16.size fun n x => { x with port := .ofNat n }),
    ("max_packet_size", .count UInt64.size fun n x => { x with maxPacketSize := .ofNat n }),
    ("receive_buffer_bytes",
      .count UInt64.size fun n x => { x with receiveBufferBytes := some (.ofNat n) }),
    ("workers", .count UInt64.size fun n x => { x with workers := .ofNat n }),
    ("worker_queue_size", .count UInt64.size fun n x => { x with workerQueueSize := .ofNat n }),
    ("dispatch_queue_size", .count UInt64.size fun n x => { x with dispatchQueueSize := .ofNat n }),
    ("max_in_flight_dispatches",
      .count UInt64.size fun n x => { x with maxInFlightDispatches := .ofNat n }),
    ("shutdown_timeout_secs",
      .count UInt64.size fun n x => { x with shutdownTimeoutSecs := .ofNat n }),
    ("session_idle_timeout_secs",
      .count UInt64.size fun n x => { x with sessionIdleTimeoutSecs := .ofNat n })]

end ListenerSettings

/-- The names of the settings of the log, in order, and how each is taken. -/
def LogSettings.setters : List (String × Setter LogSettings) :=
  [("level", .text fun s x => { x with level := s }),
    ("json", .flag fun b x => { x with json := b }),
    ("color", .flag fun b x => { x with color := some b })]

namespace Settings

/-- The groups of settings. -/
def setters : List (String × Setter Settings) :=
  [("listener", fun v x => do
      return { x with listener := ← setGroup? ListenerSettings.setters v x.listener }),
    ("log", fun v x => do return { x with log := ← setGroup? LogSettings.setters v x.log })]

/-- The settings that the members of a document write. -/
def ofToml? (processors : UInt64) (members : List (String × Toml)) : Option Settings :=
  setMembers? setters members (default processors)

/-- The settings of a document, if they can be used. -/
def parse (processors : UInt64) (document : String) : Except SettingsError Settings :=
  match (Toml.read? document).bind (ofToml? processors) with
  | none => .error .malformed
  | some s => s.check.map fun _ => s

/-- The settings of a file, if it can be read and they can be used. -/
def load (processors : UInt64) (contents : Except IoFault String) : Except SettingsError Settings :=
  match contents with
  | .error f => .error (.unreadable f)
  | .ok document => parse processors document

end Settings

end FlowIntake
