/-
# Sessions

A `Session` is what is known of one exporter in one observation domain: the templates it has
announced and the sequence number its next packet should carry.

* `Session.install`, `Session.withdraw`, `Session.withdrawAll`: changes of the templates;
* `Session.gap?`, `Session.advance`, `Session.forget`: the sequence number.
-/
import FlowIntake.Keyed
import FlowIntake.Net.Address
import FlowIntake.Template.Basic

namespace FlowIntake

/-- Who a session belongs to.  The port is no part of it: exporters may change it. -/
structure SessionKey where
  exporter : Address
  domain : UInt32
deriving DecidableEq

/-- The templates of a session, by their identifiers. -/
abbrev TemplateTable := Keyed Template Template.id

/-- What is known of one exporter in one observation domain. -/
structure Session where
  key : SessionKey
  templates : TemplateTable
  /-- The sequence number the next packet should carry, when that is known. -/
  expected : Option UInt32
  /-- When the session was last used. -/
  lastSeen : Nat

namespace Session

/-- A session that begins at the instant `now`. -/
def new (key : SessionKey) (now : Nat) : Session := ⟨key, .empty, none, now⟩

/-- The template with an identifier. -/
def template? (s : Session) (id : UInt16) : Option Template := s.templates.get? id

/-- How many templates are installed. -/
def templateCount (s : Session) : Nat := s.templates.size

/-- Installs a template in place of the one with its identifier. -/
def install (s : Session) (t : Template) : Session := { s with templates := s.templates.insert t }

/-- Removes the template with an identifier. -/
def withdraw (s : Session) (id : UInt16) : Session := { s with templates := s.templates.erase id }

/-- Removes every template of a kind. -/
def withdrawAll (s : Session) (kind : TemplateKind) : Session :=
  { s with templates := s.templates.filter fun t => t.kind ≠ kind }

/-- How many templates of a kind are installed. -/
def countOf (s : Session) (kind : TemplateKind) : Nat :=
  s.templateCount - (s.withdrawAll kind).templateCount

/-- Marks the session as used at the instant `now`. -/
def touch (s : Session) (now : Nat) : Session := { s with lastSeen := now }

/-- Whether the session has not been used for `timeout` at the instant `now`. -/
def IsIdle (s : Session) (now timeout : Nat) : Prop := timeout ≤ now - s.lastSeen

instance (s : Session) (now timeout : Nat) : Decidable (s.IsIdle now timeout) := by
  unfold IsIdle; infer_instance

/-- The expected sequence number, when a packet carries another one. -/
def gap? (s : Session) (received : UInt32) : Option UInt32 := s.expected.filter (· ≠ received)

/-- A packet with this sequence number carried so many records.  The numbers count records modulo
2^32. -/
def advance (s : Session) (sequence : UInt32) (records : Nat) : Session :=
  { s with expected := some (sequence + UInt32.ofNat records) }

/-- Expects nothing until the next packet. -/
def forget (s : Session) : Session := { s with expected := none }

end Session

end FlowIntake
