/-
# Decoding a packet

* `DecodedPacket`: everything one packet produced;
* `Session.receive`: a well-framed packet, read in its session;
* `SessionTable.decode`: a packet as it arrives.  A fault of the framing leaves every session as
  it is;
* `SessionTable.finishes`: whether decoding it comes to an end;
* `SessionTable.decode?`: what comes of it then.
-/
import FlowIntake.Packet.Sets

namespace FlowIntake

/-- Everything one packet produced. -/
structure DecodedPacket where
  header : Header
  messages : List Message
  issues : List SetIssue
  changes : TemplateChanges
deriving DecidableEq

/-- What sets yield together, in a packet with this header, after the issues already found. -/
def DecodedPacket.ofYields (h : Header) (issues : List SetIssue) (ys : List SetYield) :
    DecodedPacket where
  header := h
  messages := ys.flatMap SetYield.messages
  issues := issues ++ ys.filterMap SetYield.issue
  changes := (ys.map SetYield.changes).foldl (· + ·) .none

/-- What one set yields in a packet of its own, without the issue it may have ended with. -/
def DecodedPacket.ofYield (h : Header) (y : SetYield) : DecodedPacket where
  header := h
  messages := y.messages
  issues := []
  changes := y.changes

namespace Session

/-- The issue of a packet that does not carry the expected sequence number. -/
def sequenceIssues (s : Session) (received : UInt32) : List SetIssue :=
  (s.gap? received).toList.map fun expected => .sequenceGap expected received

/-- The sequence number to expect after a packet: none when records were lost. -/
def settle (s : Session) (p : DecodedPacket) : Session :=
  if p.issues.any fun i => i.LosesRecords then s.forget
  else s.advance p.header.sequence p.messages.length

/-- Reads the sets of a packet. -/
def receive (elements : Registry) (s : Session) (h : Header) (sets : List RawSet) :
    Session × DecodedPacket :=
  let gap := s.sequenceIssues h.sequence
  let (s, ys) := s.decodeSets elements h sets
  let p := DecodedPacket.ofYields h gap ys
  (s.settle p, p)

end Session

/-! ## Sessions of many exporters -/

/-- The sessions of a collector, each under its own key. -/
abbrev SessionTable := Keyed Session Session.key

namespace SessionTable

/-- The session under a key, which begins now when there is none. -/
def session (ss : SessionTable) (now : Nat) (key : SessionKey) : Session :=
  (ss.get? key).getD (Session.new key now)

/-- The sessions with one under the key. -/
def opened (ss : SessionTable) (now : Nat) (key : SessionKey) : SessionTable :=
  if (ss.get? key).isSome then ss else ss.insert (Session.new key now)

/-- The template that an exporter has announced under an identifier. -/
def template? (ss : SessionTable) (key : SessionKey) (id : UInt16) : Option Template :=
  (ss.get? key).bind fun s => s.template? id

/-- Installs a template. -/
def install (ss : SessionTable) (now : Nat) (key : SessionKey) (t : Template) : SessionTable :=
  ss.insert (((ss.session now key).touch now).install t)

/-- Removes a template, if its session exists. -/
def withdraw (ss : SessionTable) (key : SessionKey) (id : UInt16) : SessionTable :=
  match ss.get? key with
  | none => ss
  | some s => ss.insert (s.withdraw id)

/-- Removes the sessions that have not been used for `timeout`, but for those in use. -/
def expire (ss : SessionTable) (now timeout : Nat) (busy : List SessionKey) : SessionTable :=
  ss.filter fun s => s.key ∈ busy ∨ ¬s.IsIdle now timeout

/-- Decodes the packet that arrives from an exporter.  Data sets whose records come to no end are
passed over in silence, as `Template.records` does; `finishes` tells whether there are any. -/
def decode (elements : Registry) (ss : SessionTable) (now : Nat) (exporter : Address)
    (bs : Bytes) : SessionTable × Except PacketError DecodedPacket :=
  match Header.parse bs with
  | .error e => (ss, .error e)
  | .ok h =>
    match splitSets h bs with
    | .error e => (ss, .error e)
    | .ok sets =>
      let (s, p) := ((ss.session now ⟨exporter, h.domain⟩).touch now).receive elements h sets
      (ss.insert s, .ok p)

/-- Whether decoding a packet comes to an end. -/
def finishes (elements : Registry) (ss : SessionTable) (now : Nat) (exporter : Address)
    (bs : Bytes) : Bool :=
  match Header.parse bs with
  | .error _ => true
  | .ok h =>
    match splitSets h bs with
    | .error _ => true
    | .ok sets => ((ss.session now ⟨exporter, h.domain⟩).touch now).finishes elements h sets

/-- Decodes the packet that arrives from an exporter.  Gives nothing when that comes to no end. -/
def decode? (elements : Registry) (ss : SessionTable) (now : Nat) (exporter : Address)
    (bs : Bytes) : Option (SessionTable × Except PacketError DecodedPacket) :=
  if ss.finishes elements now exporter bs then some (ss.decode elements now exporter bs) else none

end SessionTable

end FlowIntake
