/-
# Sessions that several tasks use at once

`SessionTable` makes a call in one go.  Tasks that share the sessions make it in two steps: a call
looks up the handle of its session, and works on the session once it has the lock.  In between other
calls may work, and a sweep may take the session from its key; those who hold the handle still find
it.

* `SharedSessions`: handles under keys, and the sessions behind them;
* `SharedSessions.Call`: what is done to a session under its lock;
* `SharedSessions.State.act`: one step of one of many calls, or of a sweep;
* `SharedSessions.State.run`: steps one after another, whichever calls they belong to.
-/
import FlowIntake.Packet.Decode

namespace FlowIntake

/-- The sessions of a collector, as tasks share them. -/
structure SharedSessions where
  /-- The handle under a key. -/
  handle? : SessionKey → Option Nat := fun _ => none
  /-- The sessions by their handles, those among them that no key leads to any more. -/
  sessions : List Session := []

namespace SharedSessions

/-! ## 1. Sessions -/

/-- The session that a key leads to. -/
def find? (ss : SharedSessions) (K : SessionKey) : Option Session :=
  (ss.handle? K).bind fun i => ss.sessions[i]?

/-- The template that a key leads to under an identifier. -/
def template? (ss : SharedSessions) (K : SessionKey) (id : UInt16) : Option Template :=
  (ss.find? K).bind fun s => s.template? id

/-- Puts a handle under a key, or takes it away. -/
def point (ss : SharedSessions) (K : SessionKey) (handle : Option Nat) : SharedSessions :=
  { ss with handle? := fun K' => if K' = K then handle else ss.handle? K' }

/-- Looks up the handle under a key; a session begins there when there is none. -/
def lookUp (ss : SharedSessions) (now : Nat) (K : SessionKey) : SharedSessions × Nat :=
  match ss.handle? K with
  | some i => (ss, i)
  | none =>
    let i := ss.sessions.length
    ({ ss.point K (some i) with sessions := ss.sessions ++ [Session.new K now] }, i)

/-- Changes the session behind a handle. -/
def modify (ss : SharedSessions) (i : Nat) (f : Session → Session) : SharedSessions :=
  { ss with sessions := ss.sessions.modify i f }

/-- Takes the session under a key away when it has not been used for `timeout`. -/
def sweep (ss : SharedSessions) (now timeout : Nat) (K : SessionKey) : SharedSessions :=
  if (ss.find? K).any fun s => s.IsIdle now timeout then ss.point K none else ss

/-! ## 2. Calls -/

/-- A call that works on a session: a template is installed, or the sets of a packet from an
exporter are read. -/
inductive Call where
  | install (key : SessionKey) (t : Template)
  | decode (exporter : Address) (h : Header) (sets : List RawSet)

/-- The key of the session that a call works on. -/
def Call.key : Call → SessionKey
  | install key _ => key
  | decode exporter h _ => ⟨exporter, h.domain⟩

/-- What a call does to its session under the lock, and what it yields. -/
def Call.work (elements : Registry) (now : Nat) (s : Session) :
    Call → Session × Option DecodedPacket
  | install _ t => ((s.touch now).install t, none)
  | decode _ h sets =>
    let (s, p) := (s.touch now).receive elements h sets
    (s, some p)

/-! ## 3. Interleavings -/

/-- A step.  Calls are numbered. -/
inductive Action where
  /-- A call looks up its session. -/
  | lookUp (call now : Nat)
  /-- It works on the session, and returns. -/
  | work (call now : Nat)
  /-- A sweep checks one session, and takes it away when it is idle. -/
  | sweep (key : SessionKey) (now timeout : Nat)

/-- The sessions, and the handles that calls hold between their two steps. -/
structure State where
  shared : SharedSessions := {}
  held : Nat → Option Nat := fun _ => none

namespace State

/-- Notes what a call holds. -/
def hold (σ : State) (call : Nat) (handle : Option Nat) : State :=
  { σ with held := fun c => if c = call then handle else σ.held c }

/-- Takes one step.  A call that holds a handle does not look up another, and one that holds none
has nothing to work on. -/
def act (elements : Registry) (calls : Nat → Call) (σ : State) : Action → State
  | .lookUp c now =>
    match σ.held c with
    | some _ => σ
    | none =>
      let (ss, i) := σ.shared.lookUp now (calls c).key
      { σ with shared := ss }.hold c (some i)
  | .work c now =>
    match σ.held c with
    | none => σ
    | some i =>
      { σ with shared := σ.shared.modify i fun s => ((calls c).work elements now s).1 }.hold c none
  | .sweep K now timeout => { σ with shared := σ.shared.sweep now timeout K }

/-- Takes steps one after another. -/
def run (elements : Registry) (calls : Nat → Call) (σ : State) (as : List Action) : State :=
  as.foldl (act elements calls) σ

end State

end SharedSessions

end FlowIntake
