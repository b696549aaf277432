/-
# The command line

Arguments are read from left to right.  An option takes its value from the same argument or from
the next one; it is settled, and its value checked, only when the next option or the end is
reached, so that an argument nobody knows comes before a bad value that stands before it.

* `Options.read`: the options that arguments write;
* `Options.logLevel?`, `Options.apply`: what they change in the settings.
-/
import FlowIntake.Settings

namespace FlowIntake

/-! ## 1. Options -/

/-- What was asked for on the command line. -/
structure Options where
  config : Option String := none
  address : Option String := none
  port : Option UInt16 := none
  /-- How often more was asked of the log, up to 255 times. -/
  verbose : Nat := 0
  /-- How often less was asked of the log, up to 255 times. -/
  quiet : Nat := 0
  jsonLogs : Bool := false
deriving DecidableEq

/-- Why there are no options. -/
inductive OptionsError where
  | unknownArgument
  /-- An option stands without its value, or with an empty path. -/
  | missingValue
  | invalidValue
  /-- An option is given a second time. -/
  | repeated
  /-- A flag is given a value. -/
  | unexpectedValue
  | helpWanted
  | versionWanted
deriving DecidableEq

/-- The exit code: asking for help or the version is no failure. -/
def OptionsError.exitCode : OptionsError → Nat
  | helpWanted | versionWanted => 0
  | _ => 2

/-- The text of the refusal. -/
def OptionsError.message : OptionsError → String
  | unknownArgument => "there is an argument that is not known"
  | missingValue => "an option stands without its value"
  | invalidValue => "the port is no number from 0 to 65535"
  | repeated => "an option is given a second time"
  | unexpectedValue => "an option that takes no value is given one"
  | helpWanted => "help is wanted"
  | versionWanted => "the version is wanted"

/-- What the options are. -/
def Options.help : String := "Options:
  -c, --config <CONFIG>    Read the settings from a TOML file [env: IPFIX_CONFIG]
  -a, --address <ADDRESS>  Listen on this IP address
  -p, --port <PORT>        Listen on this UDP port
  -v, --verbose...         Log more
  -q, --quiet...           Log less
      --json-logs          Write the log as JSON
  -h, --help               Print help
  -V, --version            Print version"

/-- An option that takes a value. -/
inductive ValueOption where
  | config
  | address
  | port
deriving DecidableEq

/-- An option that takes none. -/
inductive Flag where
  | verbose
  | quiet
  | jsonLogs
  | help
  | version
deriving DecidableEq

/-- What a name on the command line means. -/
inductive OptionName where
  | value (o : ValueOption)
  | flag (f : Flag)
deriving DecidableEq

/-- The options of one letter. -/
def OptionName.ofLetter? : Char → Option OptionName
  | 'c' => some (.value .config)
  | 'a' => some (.value .address)
  | 'p' => some (.value .port)
  | 'v' => some (.flag .verbose)
  | 'q' => some (.flag .quiet)
  | 'h' => some (.flag .help)
  | 'V' => some (.flag .version)
  | _ => none

/-- The options of a whole word. -/
def OptionName.ofWord? (s : String) : Option OptionName :=
  [("config", .value .config), ("address", .value .address), ("port", .value .port),
    ("verbose", .flag .verbose), ("quiet", .flag .quiet), ("json-logs", .flag .jsonLogs),
    ("help", .flag .help), ("version", .flag .version)].lookup s

/-! ## 2. Values -/

/-- A whole number of 64 bits with an optional sign. -/
def wholeNumber? (cs : List Char) : Option Int :=
  let (negative, ds) := match cs with
    | '-' :: ds => (true, ds)
    | '+' :: ds => (false, ds)
    | ds => (false, ds)
  if ds = [] ∨ ¬ds.all Char.isDigit then none
  else
    let n := ds.foldl (fun n c => n * 10 + (c.toNat - '0'.toNat)) 0
    let i : Int := if negative then -n else n
    if -9223372036854775808 ≤ i ∧ i ≤ 9223372036854775807 then some i else none

/-- The port that a text writes. -/
def portOf? (s : String) : Option UInt16 := do
  let i ← wholeNumber? s.toList
  if 0 ≤ i ∧ i < 65536 then some (UInt16.ofNat i.toNat) else none

namespace Options

/-- Gives an option its value, once. -/
def give (x : Options) (o : ValueOption) (v : String) : Except OptionsError Options :=
  match o with
  | .config =>
    if x.config.isSome then .error .repeated
    else if v = "" then .error .missingValue
    else .ok { x with config := some v }
  | .address => if x.address.isSome then .error .repeated else .ok { x with address := some v }
  | .port =>
    if x.port.isSome then .error .repeated
    else
      match portOf? v with
      | some p => .ok { x with port := some p }
      | none => .error .invalidValue

/-- Raises a flag.  Counting stops at 255. -/
def raise (x : Options) (f : Flag) : Except OptionsError Options :=
  match f with
  | .verbose => .ok { x with verbose := min (x.verbose + 1) 255 }
  | .quiet => .ok { x with quiet := min (x.quiet + 1) 255 }
  | .jsonLogs => if x.jsonLogs then .error .repeated else .ok { x with jsonLogs := true }
  | .help => .error .helpWanted
  | .version => .error .versionWanted

end Options

/-! ## 3. Arguments -/

/-- Where the reading stands: the options settled, and the one that is not, with its value when it
has one. -/
structure OptionsReader where
  options : Options
  pending : Option (ValueOption × Option String)

namespace OptionsReader

/-- Settles the option that is not settled. -/
def settle (r : OptionsReader) : Except OptionsError Options :=
  match r.pending with
  | none => .ok r.options
  | some (_, none) => .error .missingValue
  | some (o, some v) => r.options.give o v

/-- An option with a value in the same argument. -/
def give (r : OptionsReader) (o : ValueOption) (v : String) :
    Except OptionsError OptionsReader := do
  return ⟨← (← r.settle).give o v, none⟩

/-- An option whose value is the next argument. -/
def await (r : OptionsReader) (o : ValueOption) : Except OptionsError OptionsReader := do
  return ⟨← r.settle, some (o, none)⟩

/-- A flag. -/
def raise (r : OptionsReader) (f : Flag) : Except OptionsError OptionsReader := do
  return ⟨← (← r.settle).raise f, none⟩

/-- Options of one letter in one argument.  The rest after one that takes a value is its value, with
or without an equals sign. -/
def letters (r : OptionsReader) : List Char → Except OptionsError OptionsReader
  | [] => .ok r
  | c :: cs =>
    match OptionName.ofLetter? c with
    | none => .error .unknownArgument
    | some (.flag f) => do (← r.raise f).letters cs
    | some (.value o) =>
      match cs with
      | [] => r.await o
      | '=' :: cs => r.give o (String.ofList cs)
      | cs => r.give o (String.ofList cs)

/-- An option of a whole word, with what follows its equals sign. -/
def word (r : OptionsReader) (cs : List Char) : Except OptionsError OptionsReader :=
  let name := cs.takeWhile (· ≠ '=')
  let value := match cs.drop name.length with
    | _ :: v => some (String.ofList v)
    | [] => none
  match OptionName.ofWord? (String.ofList name), value with
  | none, _ => .error .unknownArgument
  | some (.flag f), none => r.raise f
  | some (.flag _), some _ => .error .unexpectedValue
  | some (.value o), none => r.await o
  | some (.value o), some v => r.give o v

/-- Reads arguments to the end.  After two hyphens alone nothing may follow. -/
def readAll (r : OptionsReader) : List String → Except OptionsError Options
  | [] => r.settle
  | a :: as =>
    match a.toList with
    | ['-', '-'] => if as = [] then r.settle else .error .unknownArgument
    | '-' :: '-' :: cs => do (← r.word cs).readAll as
    | '-' :: c :: cs => do (← r.letters (c :: cs)).readAll as
    | _ =>
      match r.pending with
      | some (o, none) => readAll { r with pending := some (o, some a) } as
      | _ => .error .unknownArgument

end OptionsReader

namespace Options

/-- The options that arguments write.  The path of the settings may come from the environment. -/
def read (args : List String) (configEnv : Option String := none) :
    Except OptionsError Options := do
  let x ← OptionsReader.readAll ⟨{}, none⟩ args
  match x.config, configEnv with
  | none, some path => x.give .config path
  | _, _ => return x

/-! ## 4. Their effect -/

/-- The level of the log that the counts ask for. -/
def logLevel? (x : Options) : Option String :=
  match x.quiet, x.verbose with
  | 0, 0 => none
  | 0, 1 => some "debug"
  | 0, _ => some "trace"
  | 1, _ => some "warn"
  | 2, _ => some "error"
  | _, _ => some "off"

/-- Puts what was asked for in the place of settings. -/
def apply (x : Options) (s : Settings) : Settings where
  listener :=
    { s.listener with
      address := x.address.getD s.listener.address
      port := x.port.getD s.listener.port }
  log :=
    { s.log with
      level := x.logLevel?.getD s.log.level
      json := x.jsonLogs || s.log.json }

end Options

end FlowIntake
