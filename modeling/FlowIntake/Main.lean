/-
# The outer layer

What the program asks of the system: its arguments and environment, the file of the settings, the
socket, the signals, the clock and the standard streams.  What follows from them is decided in the
modules below it, and nothing is decided here.
-/
import FlowIntake.Service
import Std.Async.Select
import Std.Async.Signal
import Std.Async.System
import Std.Async.Timer
import Std.Async.UDP

namespace FlowIntake.Main

open Std.Async (Selectable Selector)

/-! ## 1. The system's values -/

/-- The number of a failure. -/
def errorNumber? : IO.Error → Option UInt32
  | .alreadyExists _ n _ | .noFileOrDirectory _ n _ | .noSuchThing _ n _
  | .permissionDenied _ n _ | .inappropriateType _ n _ | .resourceExhausted _ n _
  | .invalidArgument _ n _ | .interrupted _ n _ => some n
  | .otherError n _ | .resourceBusy n _ | .resourceVanished n _ | .unsupportedOperation n _
  | .hardwareFault n _ | .unsatisfiedConstraints n _ | .illegalOperation n _
  | .protocolError n _ | .timeExpired n _ => some n
  | .unexpectedEof | .userError _ => none

/-- A failure as the program tells it.  Some calls give its number, some the negated number. -/
def faultOf (e : IO.Error) : IoFault :=
  match errorNumber? e with
  | some n => .ofNumber (min n (0 - n)).toNat (toString e)
  | none => ⟨.other, toString e⟩

/-- An address for the system. -/
def systemAddress (a : SocketAddress) : Std.Net.SocketAddress :=
  match a.address with
  | .v4 o => .v4 ⟨⟨.ofFn fun i => o.toBytes.getD i 0⟩, a.port⟩
  | .v6 o =>
    let group (i : Nat) := UInt16.ofNat (Bytes.value ((o.toBytes.drop (2 * i)).take 2))
    .v6 ⟨⟨.ofFn fun i => group i⟩, a.port⟩

/-- An address of the system. -/
def addressOf : Std.Net.SocketAddress → SocketAddress
  | .v4 a => ⟨.v4 (.ofBytes 4 a.addr.octets.toList), a.port, 0⟩
  | .v6 a =>
    let octets := a.addr.segments.toList.flatMap fun g => Bytes.ofNat 2 g.toNat
    ⟨.v6 (.ofBytes 16 octets), a.port, 0⟩

/-! ## 2. Surroundings -/

/-- The contents of a file. -/
def contents (path : String) : IO (Except IoFault String) := do
  try
    let octets ← IO.FS.readBinFile path
    return (String.fromUTF8? octets).elim (.error .notText) .ok
  catch e => return .error (faultOf e)

/-- The surroundings of a run with these arguments. -/
def surroundings (args : List String) : IO Service.Surroundings := do
  let configEnv ← IO.getEnv "IPFIX_CONFIG"
  let file ←
    match Options.read args configEnv with
    | .ok { config := some path, .. } => contents path
    | _ => pure (.error .noSuchFile)
  let processors := (← Std.Async.System.getCPUInfo).size
  return {
    processors := .ofNat (max processors 1)
    configEnv
    logEnv := ← IO.getEnv "IPFIX_LOG"
    file := fun _ => file }

/-- Writes entries to the log. -/
def log (logging : Service.Logging) (entries : List LogEntry) : IO Unit := do
  let stderr ← IO.getStderr
  let now ← Std.Time.Timestamp.now
  let time : Timestamp := ⟨now.val.second.val, now.val.nano.val.toNat / 1000 * 1000⟩
  for e in entries.filter logging.filter.passes do
    stderr.putStrLn (logging.line (← stderr.isTty) time e)

/-! ## 3. Serving -/

/-- What the listener waits for. -/
inductive Occurrence where
  | datagram (d : Datagram)
  | signal (s : Service.Signal)
  | sweep

/-- A listener that has been started. -/
structure Endpoint where
  socket : Std.Async.UDP.Socket
  address : SocketAddress
  settings : ListenerSettings
  logging : Service.Logging
  signals : List (Service.Signal × Std.Async.Signal.Waiter)

/-- The size of the largest datagram that is worth a buffer. -/
def bufferSize (s : ListenerSettings) : UInt64 := min s.maxPacketSize 65535

/-- A wait until an instant. -/
def pauseUntil (instant : Nat) : IO (Selector Unit) := do
  let pause := instant - (← IO.monoMsNow)
  (Selector.sleep (.ofNat (max pause 1))).block

/-- Waits for the next occurrence. -/
def Endpoint.next (x : Endpoint) (sweepAt : Option Nat) : IO Occurrence := do
  let received := x.socket.recvSelector (bufferSize x.settings)
  let pause ← sweepAt.mapM pauseUntil
  let signals := x.signals.map fun (s, w) => Selectable.case w.selector fun _ => pure (.signal s)
  let datagram := Selectable.case received fun (octets, peer) =>
    pure (Occurrence.datagram ⟨(peer.map addressOf).getD x.address, octets.toList⟩)
  let sweep := pause.toList.map fun p => Selectable.case p fun _ => pure Occurrence.sweep
  (Selectable.one (signals ++ datagram :: sweep).toArray).block

/-- Writes the line of a message to the standard output. -/
def dispatch (m : Message) : IO Event := do
  let stdout ← IO.getStdout
  try
    stdout.write ⟨m.line.toArray⟩
    stdout.flush
    return .ofAnswer (.ok ())
  catch e => return .ofAnswer (.error (DispatchError.write (faultOf e).text).message)

/-- Takes in datagrams until a signal comes. -/
partial def Endpoint.serve (x : Endpoint) (ss : SessionTable) (sweepAt : Option Nat) :
    IO Service.Signal := do
  let occurrence ← try Except.ok <$> x.next sweepAt catch e => pure (.error (faultOf e))
  let now ← IO.monoMsNow
  match occurrence with
  | .error fault =>
    log x.logging (logOf [.receiveFailed fault])
    x.serve ss sweepAt
  | .ok (.signal s) => return s
  | .ok (.datagram d) =>
    let (ss, intake) := ss.take .iana now d
    log x.logging (logOf intake.events)
    for m in intake.messages do log x.logging (logOf [← dispatch m])
    x.serve ss sweepAt
  | .ok .sweep =>
    let (ss, events) := ss.sweep now (x.settings.sessionIdleTimeoutSecs.toNat * 1000)
    log x.logging (logOf events)
    x.serve ss (x.settings.sweepMillis?.map (now + ·))

/-- Binds the socket of a listener. -/
def bind (s : ListenerSettings) :
    IO (Except StartError (Std.Async.UDP.Socket × SocketAddress)) := do
  match s.start .up with
  | .error e => return .error e
  | .ok a =>
    try
      let socket ← Std.Async.UDP.Socket.mk
      socket.bind (systemAddress a)
      return .ok (socket, addressOf (← socket.getSockName))
    catch e => return .error (.bind a (faultOf e))

/-- Starts the listener, and serves until a signal ends the run. -/
def serve (logging : Service.Logging) (s : Settings) : IO Nat := do
  match ← bind s.listener with
  | .error e =>
    log logging (logOf e.events ++ [Service.startEntry e])
    return Service.startCode e
  | .ok (socket, address) =>
    let wait (s : Service.Signal) (number : Std.Async.Signal) := do
      return (s, ← Std.Async.Signal.Waiter.mk number true)
    let signals := [← wait .interrupt .sigint, ← wait .terminate .sigterm, ← wait .quit .sigquit]
    let x : Endpoint := ⟨socket, address, s.listener, logging, signals⟩
    log logging (logOf [.listenerStarted address s.listener.workerCount] ++
      [Service.startedEntry address])
    let now ← IO.monoMsNow
    let signal ← x.serve .empty (s.listener.sweepMillis?.map (now + ·))
    log logging (Service.endLog signal [.listenerStopped address])
    return 0

end FlowIntake.Main

open FlowIntake in
/-- Runs the program. -/
def main (args : List String) : IO UInt32 := do
  match Service.launch (← Main.surroundings args) args with
  | .answered .versionWanted =>
    IO.println Service.versionText
    return 0
  | .answered .helpWanted =>
    IO.println Options.help
    return 0
  | .answered e =>
    IO.eprintln s!"error: {e.message}"
    return .ofNat e.exitCode
  | .refused logging error =>
    Main.log logging [Service.settingsEntry error]
    return .ofNat Service.configCode
  | .ready logging s => return .ofNat (← Main.serve logging s)
