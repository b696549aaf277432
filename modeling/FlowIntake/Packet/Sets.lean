/-
# What sets say

Template sets change the templates of a session, data sets hold records of one of them, and sets
with a reserved identifier are passed over.

* `TemplateRecord.readAll`: the records of a template set, up to the first malformed one;
* `Session.applyAll`: what records do to the templates;
* `Template.records?`: the records of a data set; what is shorter than a record is padding;
* `Session.decodeSet`: one set;
* `Session.finishes`: whether decoding sets comes to an end.
-/
import FlowIntake.Message
import FlowIntake.Packet.Framing
import FlowIntake.Session

namespace FlowIntake

/-! ## 1. Template sets -/

namespace TemplateRecord

/-- Reads records after those already read, the last of which stands first, until fewer octets are
left than a record needs or one is malformed.  Each record takes octets, so that as much fuel as
octets is enough. -/
def readFrom (kind : TemplateKind) (elements : Registry) :
    (fuel : Nat) → List TemplateRecord → Cursor → List TemplateRecord × Option TemplateError
  | 0, read, _ => (read.reverse, none)
  | fuel + 1, read, c =>
    if c.rest.atLeast minLength then
      match parse kind elements c with
      | .ok record c => readFrom kind elements fuel (record :: read) c
      | .error e _ => (read.reverse, some e)
    else (read.reverse, none)

/-- The records of a template set up to the first malformed one, and what is wrong with that. -/
def readAll (kind : TemplateKind) (elements : Registry) (body : Bytes) :
    List TemplateRecord × Option TemplateError :=
  readFrom kind elements body.length [] (Cursor.ofBytes body)

end TemplateRecord

/-- How many templates were installed and withdrawn. -/
structure TemplateChanges where
  installed : Nat
  withdrawn : Nat
deriving DecidableEq

namespace TemplateChanges

/-- No change. -/
def none : TemplateChanges := ⟨0, 0⟩

instance : Add TemplateChanges where
  add a b := ⟨a.installed + b.installed, a.withdrawn + b.withdrawn⟩

end TemplateChanges

namespace Session

/-- What one record of a set that carries templates of the given kind does. -/
def apply (kind : TemplateKind) (s : Session) : TemplateRecord → Session × TemplateChanges
  | .definition t => (s.install t, ⟨1, 0⟩)
  | .withdrawal id =>
    if id = kind.setId then (s.withdrawAll kind, ⟨0, s.countOf kind⟩)
    else (s.withdraw id, ⟨0, if (s.template? id).isSome then 1 else 0⟩)

/-- What records do, one after another. -/
def applyAll (kind : TemplateKind) (s : Session) (records : List TemplateRecord) :
    Session × TemplateChanges :=
  records.foldl (fun (s, n) r => let (s, m) := s.apply kind r; (s, n + m)) (s, .none)

end Session

/-! ## 2. Data sets -/

/-- The values of one record. -/
def readRecord : List Field → Reader FieldError (List Value)
  | [] => return []
  | f :: fs => do
    let v ← f.decode
    let vs ← readRecord fs
    return v :: vs

/-- The records of a data set, and the failure that ended them. -/
structure RecordRun where
  records : List (List Value)
  stop : Option FieldError
deriving DecidableEq

/-- Reads records after those already read, the last of which stands first, until fewer octets are
left than `least` or a record fails.  Gives nothing when `fuel` records do not reach the end. -/
def readRecords? (fields : List Field) (least : Nat) :
    (fuel : Nat) → List (List Value) → Cursor → Option RecordRun
  | 0, _, _ => none
  | fuel + 1, read, c =>
    if c.rest.atLeast least then
      match readRecord fields c with
      | .ok values c => readRecords? fields least fuel (values :: read) c
      | .error e _ => some ⟨read.reverse, some e⟩
    else some ⟨read.reverse, none⟩

namespace Template

/-- The records that a body holds, if `fuel` readings reach its end. -/
def records? (t : Template) (fuel : Nat) (body : Bytes) : Option RecordRun :=
  readRecords? t.fields (max t.minRecordLength 1) fuel [] (Cursor.ofBytes body)

/-- The records that a body holds.  When records take octets there are at most as many of them as
octets.  Where a template of empty records finds no end there is no answer to give, and none of them
stands for it: `Session.finishesSet` tells whether that is so. -/
def records (t : Template) (body : Bytes) : RecordRun :=
  (t.records? (body.length + 1) body).getD ⟨[], none⟩

end Template

/-- The issue that a failure in a record makes: one that ran past the end of the set aborts the
packet. -/
def SetIssue.ofRecord (setId : UInt16) (record : Nat) (e : FieldError) : SetIssue :=
  if e.IsOverrun then .recordOverrun setId record e else .recordDecode setId record e

/-- The messages of records of a template. -/
def MessageContext.messages (c : MessageContext) (t : Template) (records : List (List Value)) :
    List Message :=
  match records with
  | [] => []
  | rs =>
    let keys := t.keys
    rs.map (c.messageWith t keys)

/-! ## 3. One set -/

/-- What one set yields. -/
structure SetYield where
  messages : List Message
  changes : TemplateChanges
  issue : Option SetIssue
deriving DecidableEq

/-- What the messages of a packet with this header have in common. -/
def Session.context (s : Session) (h : Header) : MessageContext :=
  ⟨s.key.exporter, h.domain, h.exportTime, h.sequence⟩

namespace Session

/-- Decodes one set of a packet. -/
def decodeSet (elements : Registry) (h : Header) (s : Session) (set : RawSet) :
    Session × SetYield :=
  match set.kind with
  | .template kind =>
    let (records, failure) := TemplateRecord.readAll kind elements set.body
    let (s, changes) := s.applyAll kind records
    (s, ⟨[], changes, failure.map (.malformedTemplate set.id)⟩)
  | .data =>
    match s.template? set.id with
    | none => (s, ⟨[], .none, some (.missingTemplate set.id)⟩)
    | some t =>
      let run := t.records set.body
      let issue := run.stop.map (.ofRecord set.id run.records.length)
      (s, ⟨(s.context h).messages t run.records, .none, issue⟩)
  | .reserved => (s, ⟨[], .none, some (.reservedSet set.id)⟩)

/-- Decodes sets one after another, up to one that aborts the packet. -/
def decodeSets (elements : Registry) (h : Header) (s : Session) : List RawSet →
    Session × List SetYield
  | [] => (s, [])
  | set :: sets =>
    let (s, y) := s.decodeSet elements h set
    if y.issue.any fun i => i.AbortsPacket then (s, [y])
    else
      let (s, ys) := s.decodeSets elements h sets
      (s, y :: ys)

/-- Whether the records of a set come to an end.  Those of a data set need not, when no packet has
announced its template. -/
def finishesSet (s : Session) (set : RawSet) : Bool :=
  match set.kind, s.template? set.id with
  | .data, some t => (t.records? (set.body.length + 1) set.body).isSome
  | _, _ => true

/-- Whether decoding sets one after another comes to an end. -/
def finishes (elements : Registry) (h : Header) (s : Session) : List RawSet → Bool
  | [] => true
  | set :: sets =>
    let (later, y) := s.decodeSet elements h set
    s.finishesSet set && ((y.issue.any fun i => i.AbortsPacket) || later.finishes elements h sets)

end Session

end FlowIntake
