/-
# One line for each message

The line of a message is one JSON object and a line feed.  Whatever a name or a text of it holds,
the line feed is the only one, so that the output of submissions that were accepted falls apart
at its line feeds into the objects, in order.

* `Message.members`: what the object says;
* `Message.Framed`, `Message.framed`: how a message and a text make a line;
* `Sink.lines_of_submissions`: the lines of a run.
-/
import FlowIntake.Proofs.Packet.RoundTrip
import FlowIntake.Proofs.Report.Writes
import FlowIntake.Proofs.Template.Keys
import FlowIntake.Proofs.Text.JsonReadBack
import FlowIntake.Proofs.Text.Utf8

namespace FlowIntake

/-! ## 1. Line feeds in octets -/

/-- The octet that ends a line. -/
def lineFeed : UInt8 := 0x0A

/-- The first octet of a character is a line feed only when the character is, and no other octet
ever is one. -/
theorem Utf8.lineFeed_not_mem_encodeChar {c : Char} (h : ¬c < ' ') :
    lineFeed ∉ Utf8.encodeChar c := by
  have hn : 32 ≤ c.toNat := Nat.le_of_not_lt h
  have hbyte {k : Nat} (hlow : 32 ≤ k) (hhigh : k < 256) : lineFeed ≠ UInt8.ofNat k := by
    intro heq
    have hvalue := congrArg UInt8.toNat heq
    rw [Utf8.toNat_ofNat_of_lt hhigh] at hvalue
    have hfeed : lineFeed.toNat = 10 := rfl
    omega
  have hmax : c.toNat < 0x110000 := by
    have hvalid : c.toNat < 0xD800 ∨ 0xDFFF < c.toNat ∧ c.toNat < 0x110000 := c.valid
    omega
  fun_cases Utf8.encodeChar c with
  | case1 n hone =>
    simp only [List.mem_singleton]
    exact hbyte hn (by omega)
  | case2 n =>
    simp only [List.mem_cons, List.not_mem_nil, or_false, not_or]
    exact ⟨hbyte (by omega) (by omega), hbyte (by omega) (by omega)⟩
  | case3 n =>
    simp only [List.mem_cons, List.not_mem_nil, or_false, not_or]
    exact ⟨hbyte (by omega) (by omega), hbyte (by omega) (by omega), hbyte (by omega) (by omega)⟩
  | case4 n =>
    simp only [List.mem_cons, List.not_mem_nil, or_false, not_or]
    exact ⟨hbyte (by omega) (by omega), hbyte (by omega) (by omega), hbyte (by omega) (by omega),
      hbyte (by omega) (by omega)⟩

/-- A text without control characters is written without a line feed. -/
theorem Utf8.lineFeed_not_mem_encode {s : String} (h : Json.Printed s.toList) :
    lineFeed ∉ Utf8.encode s := by
  intro hmem
  obtain ⟨c, hc, hfeed⟩ := List.mem_flatMap.1 hmem
  exact Utf8.lineFeed_not_mem_encodeChar (h c hc) hfeed

/-! ## 2. The line of a message -/

namespace Value

/-- What the JSON of a value says. -/
def reading : Value → Json.Reading
  | unsigned v => .number (toString v.toNat)
  | signed v => .number (toString v.toInt)
  | float bits => (Json.double bits).reading
  | boolean b => .bool b
  | mac o => .string (macText o)
  | octets bs => .string (String.ofList (Base64.encode bs))
  | text s => .string s
  | ipv4 o => .string (Address.dotted o)
  | ipv6 o => .string (Address.compressed o)
  | seconds s => .number (toString s.toNat)
  | milliseconds ms => .number (toString ms.toNat)
  | microseconds s f | nanoseconds s f =>
    .object [("seconds", .number (toString s.toNat)), ("fraction", .number (toString f.toNat))]

theorem reading_json (v : Value) : v.json.reading = v.reading := by
  cases v with
  | signed v => rw [json, reading, Json.reading]
  | float bits => rfl
  | _ => simp [json, reading]

end Value

namespace Message

/-- What the object of a message says, member by member. -/
def members (m : Message) : List (String × Json.Reading) :=
  [("exporter", .string m.exporter.text),
    ("observation_domain_id", .number (toString m.domain.toNat)),
    ("export_time", .string m.exportTimeText),
    ("sequence_number", .number (toString m.sequence.toNat)),
    ("template_id", .number (toString m.templateId.toNat)),
    ("kind", .string m.kind.name)] ++
  (if m.scopes = [] then [] else [("scopes", .array (m.scopes.map .string))]) ++
  [("fields", .object (m.fields.map fun (key, value) => (key, value.reading)))]

theorem reading_json (m : Message) : m.json.reading = .object m.members := by
  by_cases h : m.scopes = []
  · simp [json, members, h, Value.reading_json]
  · simp [json, members, h, Value.reading_json]

/-- A message and the text of its line: the text is one JSON object with the message's members,
and a line feed, the only one, ends it. -/
structure Framed (m : Message) (text : String) : Prop where
  line : m.line = Utf8.encode text ++ [lineFeed]
  unbroken : lineFeed ∉ Utf8.encode text
  object : Json.read? text = some (.object m.members)

/-- **Every message has a line of its own.** -/
theorem framed (m : Message) : m.Framed m.json.text where
  line := rfl
  unbroken := Utf8.lineFeed_not_mem_encode (Json.printed_text m.json)
  object := by
    rw [Json.read?_text, reading_json]

/-- The object names scopes just when there are some. -/
theorem scopes_mem_members (m : Message) :
    (∃ v, ("scopes", v) ∈ m.members) ↔ m.scopes ≠ [] := by
  by_cases h : m.scopes = []
  · simp [members, h]
  · simp [members, h]

/-- What a message made of a record shows of it: the values in the order of the template, each
under its field's name or that with a suffix, no two under the same. -/
structure Shows (m : Message) (t : Template) (values : List Value) : Prop where
  distinct : (m.fields.map Prod.fst).Nodup
  named : List.Forall₂ Template.KeyOf (m.fields.map Prod.fst) (t.fields.map Field.name)
  values : m.fields.map Prod.snd = values

theorem Reports.shows {m : Message} {c : MessageContext} {t : Template} {values : List Value}
    (h : m.Reports c t values) : m.Shows t values where
  distinct := by
    rw [h.keys]
    exact t.nodup_keys
  named := by
    rw [h.keys]
    exact t.keys_named
  values := h.values

end Message

/-! ## 3. The lines of a run -/

/-- Lines one after another fall apart at their line feeds. -/
theorem splitOn_lines {texts : List Bytes} (h : ∀ text ∈ texts, lineFeed ∉ text) :
    (texts.flatMap fun text => text ++ [lineFeed]).splitOn lineFeed = texts ++ [[]] := by
  induction texts with
  | nil => rfl
  | cons text texts ih =>
    obtain ⟨htext, htexts⟩ := List.forall_mem_cons.1 h
    rw [List.flatMap_cons, List.append_assoc, List.singleton_append,
      List.splitOn_append_cons_self_of_not_mem htext, ih htexts, List.cons_append]

/-- **One JSON object for each message, one line for each object.** -/
theorem Sink.lines_of_submissions :
    (∀ m : Message, (∃ text, m.Framed text) ∧ ((∃ v, ("scopes", v) ∈ m.members) ↔ m.scopes ≠ [])) ∧
    (∀ (c : MessageContext) (t : Template) (values : List Value),
      values.length = t.fields.length → (c.message t values).Shows t values) ∧
    (∀ (medium : Medium) (s : Sink) (messages : List Message),
      (∀ attempt ∈ (s.submitAll medium messages).2, attempt.answer = .ok ()) →
      ∃ texts output, List.Forall₂ Message.Framed messages texts ∧
        (s.submitAll medium messages).1.bytes = s.bytes ++ output ∧
        output.splitOn lineFeed = texts.map Utf8.encode ++ [[]]) := by
  refine ⟨fun m => ⟨⟨_, m.framed⟩, m.scopes_mem_members⟩,
    fun c t values h => (c.reports_message h).shows, fun medium s messages hok => ?_⟩
  have htexts : List.Forall₂ Message.Framed messages (messages.map fun m => m.json.text) := by
    rw [List.forall₂_map_right_iff]
    exact List.forall₂_same.2 fun m _ => m.framed
  refine ⟨messages.map fun m => m.json.text, _, htexts, Sink.bytes_submitAll medium s messages, ?_⟩
  have hlines : (s.submitAll medium messages).2.flatMap Attempt.taken =
      (messages.map fun m => Utf8.encode m.json.text).flatMap fun text => text ++ [lineFeed] := by
    rw [Sink.taken_of_written fun attempt h => Attempt.written_of_ok (hok attempt h),
      List.flatMap_map]
    rfl
  have hunbroken : ∀ text ∈ messages.map fun m => Utf8.encode m.json.text, lineFeed ∉ text :=
    List.forall_mem_map.2 fun m _ => m.framed.unbroken
  rw [hlines, splitOn_lines hunbroken, List.map_map]
  rfl

/-- Texts of quotes and line feeds under such names, to a medium that takes seven octets at a
time; and a record in which a name is repeated. -/
theorem Sink.line_feeds_stay_inside :
    let message : Message := ⟨.v4 ⟨[192, 0, 2, 1], rfl⟩, 7, 1600000000, 42, 256, .options,
      ["a\"\nb"], [("a\"\nb", .text "\n\\"), ("c", .text "\x01\n")]⟩
    let sevens : Medium := ⟨fun _ offered => .ok (min 7 offered), fun _ => none⟩
    let field : Field := ⟨⟨1, 0, "a\"\nb", .string⟩, 65535⟩
    let template : Template := ⟨256, .data, 0, [field, field]⟩
    let values : List Value := [.text "\n\\", .text "\x01\n"]
    (MessageContext.message ⟨message.exporter, 7, 0, 0⟩ template values).Shows template values ∧
      ∃ texts output, List.Forall₂ Message.Framed [message, message] texts ∧
        (Sink.submitAll sevens {} [message, message]).1.bytes = Sink.bytes {} ++ output ∧
        output.splitOn lineFeed = texts.map Utf8.encode ++ [[]] :=
  ⟨Sink.lines_of_submissions.2.1 _ _ _ rfl,
    Sink.lines_of_submissions.2.2 _ {} _ (Sink.submitAll_of_willing
      ⟨fun _ offered _ h => ⟨min 7 offered, by omega, rfl⟩, fun _ => rfl⟩ (Nat.le_refl 0) _)⟩

end FlowIntake
