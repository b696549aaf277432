/-
# Log entries

* `LogEntry`: a level, a message and named details;
* `LogFilter`: which entries are wanted, by level and by the part of the program they come from;
* `LogFilter.ofText`: the filter that a level setting writes, whatever it is;
* `LogFilter.ofText?`: the same of a text that must be a filter all through.
-/

namespace FlowIntake

/-! ## 1. Entries -/

/-- How grave an entry is, the gravest first. -/
inductive LogLevel where
  | error
  | warn
  | info
  | debug
  | trace
deriving DecidableEq, Repr

namespace LogLevel

/-- The place of a level in the order, from one. -/
def rank : LogLevel → Nat
  | error => 1
  | warn => 2
  | info => 3
  | debug => 4
  | trace => 5

/-- The name of a level. -/
def name : LogLevel → String
  | error => "ERROR"
  | warn => "WARN"
  | info => "INFO"
  | debug => "DEBUG"
  | trace => "TRACE"

end LogLevel

/-- A detail of an entry. -/
inductive LogValue where
  | number (n : Nat)
  | text (s : String)
deriving DecidableEq

/-- The part of the program that an entry comes from. -/
inductive LogSource where
  | program
  | events
deriving DecidableEq

/-- The name of a part, by which entries can be chosen. -/
def LogSource.name : LogSource → String
  | program => "ipfix_collector"
  | events => "ipfix_collector::internal_events::ipfix"

/-- An entry of the log. -/
structure LogEntry where
  level : LogLevel
  message : String
  fields : List (String × LogValue)
  source : LogSource := .events
deriving DecidableEq

/-- A detail of an entry by name. -/
def LogEntry.field? (e : LogEntry) (name : String) : Option LogValue := e.fields.lookup name

/-! ## 2. Filters -/

/-- The entries of a part of the program up to a rank are wanted. -/
structure LogRule where
  /-- The beginning of the names of the parts meant; every part when empty. -/
  part : String
  rank : Nat
deriving DecidableEq

/-- Which entries are wanted. -/
structure LogFilter where
  rules : List LogRule
deriving DecidableEq

namespace LogFilter

/-- The rank that a word or a digit stands for, in any case. -/
def rank? (s : String) : Option Nat :=
  [("off", 0), ("error", 1), ("warn", 2), ("info", 3), ("debug", 4), ("trace", 5), ("0", 0),
    ("1", 1), ("2", 2), ("3", 3), ("4", 4), ("5", 5)].lookup
    (String.ofList (s.toList.map Char.toLower))

/-- A character of the name of a part. -/
def inPart (c : Char) : Bool := c.isAlphanum || c = '_' || c = '-' || c = ':' || '\x7f' < c

/-- The rule that a text between commas writes: a rank for every part, or the name of a part, with
a rank or for every rank. -/
def rule? (s : String) : Option LogRule :=
  match rank? s with
  | some r => some ⟨"", r⟩
  | none =>
    let part := s.toList.takeWhile inPart
    if part = [] then none
    else
      match s.toList.drop part.length with
      | [] => some ⟨String.ofList part, 5⟩
      | ['='] => some ⟨String.ofList part, 5⟩
      | '=' :: cs => (rank? (String.ofList cs)).map fun r => ⟨String.ofList part, r⟩
      | _ => none

/-- The filter with these rules.  Without any rule only errors are wanted. -/
def ofRules : List LogRule → LogFilter
  | [] => ⟨[⟨"", 1⟩]⟩
  | rules => ⟨rules⟩

/-- The filter that a text writes, its rules between commas.  What is no rule is passed over. -/
def ofText (s : String) : LogFilter := ofRules ((s.splitOn ",").filterMap rule?)

/-- The filter that a text writes, if everything between its commas is a rule or empty. -/
def ofText? (s : String) : Option LogFilter :=
  (((s.splitOn ",").filter (· ≠ "")).mapM rule?).map ofRules

/-- Of two rules the one that says more: the longer name, or the later of two equally long ones. -/
def closer (a b : LogRule) : LogRule := if a.part.length ≤ b.part.length then b else a

/-- Whether an entry is wanted, by the closest rule that means its part. -/
def passes (f : LogFilter) (e : LogEntry) : Bool :=
  match f.rules.filter fun r => r.part.toList.isPrefixOf e.source.name.toList with
  | [] => false
  | r :: rs => e.level.rank ≤ (rs.foldl closer r).rank

end LogFilter

end FlowIntake
