/-
# What a failed write leaves behind

A write that fails may have put the beginning of its line on the sink.  It stays there: the next
message that is written whole goes on behind it, and its line is what was left and its own text.
So the lines of the output are the texts of the messages that were written just when each of them
found nothing left.

* `Attempt.left`: what the failed writes since the last whole line have left;
* `Attempt.linesFrom`, `Attempt.splitOn_taken`: the lines of any run;
* `Attempt.linesFrom_written`, `Attempt.linesFrom_eq_texts`: where the text of a message stands, and
  when it stands alone;
* `Medium.refusing`: a medium that cuts one line, and what it does to the next.
-/
import FlowIntake.Proofs.Report.Lines

namespace FlowIntake

namespace Attempt

/-! ## 1. What is left open -/

/-- The text of the message, in octets. -/
def text (s : Attempt) : Bytes := Utf8.encode s.message.json.text

/-- What is left open after an attempt, when `left` was left open before it. -/
def leave (left : Bytes) (s : Attempt) : Bytes := if s.Written then [] else left ++ s.taken

/-- What the failed writes of a run have left since its last whole line. -/
def left (history : List Attempt) : Bytes := history.foldl leave []

/-- The lines of a run that finds `open'` left; the last of them has no line feed. -/
def linesFrom (open' : Bytes) : List Attempt → List Bytes
  | [] => [open']
  | s :: history =>
    if s.Written then (open' ++ s.text) :: linesFrom [] history
    else linesFrom (open' ++ s.taken) history

theorem line_eq (s : Attempt) : s.message.line = s.text ++ [lineFeed] := rfl

theorem lineFeed_not_mem_text (s : Attempt) : lineFeed ∉ s.text := s.message.framed.unbroken

theorem Possible.taken_of_written {s : Attempt} (h : s.Possible) (hw : s.Written) :
    s.taken = s.text ++ [lineFeed] := h.whole.1 hw

/-- A write that failed left no line feed. -/
theorem Possible.lineFeed_not_mem {s : Attempt} (h : s.Possible) (hw : ¬s.Written) :
    lineFeed ∉ s.taken := by
  have hshort : s.taken <+: s.text := by
    have hpart := h.isPrefix
    rw [line_eq, List.prefix_concat_iff] at hpart
    exact hpart.resolve_left fun hwhole => hw (h.whole.2 hwhole)
  exact fun hmem => s.lineFeed_not_mem_text (hshort.subset hmem)

/-! ## 2. The lines of a run -/

theorem linesFrom_ne_nil (open' : Bytes) (history : List Attempt) :
    linesFrom open' history ≠ [] := by
  fun_induction linesFrom open' history with
  | case1 => exact List.cons_ne_nil _ _
  | case2 => exact List.cons_ne_nil _ _
  | case3 _ _ _ _ ih => exact ih

/-- The octets that a run leaves fall apart at the line feeds into its lines. -/
theorem splitOn_taken {open' : Bytes} (hopen : lineFeed ∉ open') {history : List Attempt}
    (h : ∀ s ∈ history, s.Possible) :
    (open' ++ history.flatMap taken).splitOn lineFeed = linesFrom open' history := by
  induction history generalizing open' with
  | nil =>
    rw [List.flatMap_nil, List.append_nil, List.splitOn_eq_singleton hopen, linesFrom]
  | cons s history ih =>
    obtain ⟨hs, hrest⟩ := List.forall_mem_cons.1 h
    rw [List.flatMap_cons, linesFrom]
    by_cases hw : s.Written
    · have hline : lineFeed ∉ open' ++ s.text := by
        simp [hopen, s.lineFeed_not_mem_text]
      have hlater := @ih [] List.not_mem_nil hrest
      rw [if_pos hw, hs.taken_of_written hw, List.append_assoc, ← List.append_assoc,
        List.singleton_append, List.splitOn_append_cons_self_of_not_mem hline, ← hlater,
        List.nil_append]
    · have hpart : lineFeed ∉ open' ++ s.taken := by
        simp [hopen, hs.lineFeed_not_mem hw]
      rw [if_neg hw, ← List.append_assoc, ih hpart hrest]

/-- The line of a message that was written whole: what was left before it and its text.  It comes
after as many lines as messages were written before. -/
theorem linesFrom_written (open' : Bytes) (before : List Attempt) {s : Attempt}
    (hs : s.Written) (after : List Attempt) :
    (linesFrom open' (before ++ s :: after))[before.countP (·.Written)]? =
      some (before.foldl leave open' ++ s.text) := by
  induction before generalizing open' with
  | nil => simp [linesFrom, hs]
  | cons first before ih =>
    by_cases hw : first.Written
    · simp [linesFrom, leave, hw, ih]
    · simp [linesFrom, leave, hw, ih]

/-- What holds of each element and of what comes before it. -/
theorem forall_splits_cons {P : List Attempt → Attempt → Prop} {first : Attempt}
    {history : List Attempt} :
    (∀ before s after, first :: history = before ++ s :: after → P before s) ↔
      P [] first ∧ ∀ before s after, history = before ++ s :: after → P (first :: before) s := by
  constructor
  · intro h
    refine ⟨h [] first history rfl, fun before s after heq => h (first :: before) s after ?_⟩
    rw [heq, List.cons_append]
  · rintro ⟨hfirst, hrest⟩ before s after heq
    cases before with
    | nil =>
      obtain ⟨rfl, -⟩ := List.cons.inj heq
      exact hfirst
    | cons b before =>
      obtain ⟨rfl, htail⟩ := List.cons.inj heq
      exact hrest before s after htail

/-- **The lines are the texts of what was written just when nothing was left before any of it.** -/
theorem linesFrom_eq_texts (open' : Bytes) (history : List Attempt) :
    (linesFrom open' history).dropLast = (history.filter (·.Written)).map text ↔
      ∀ before s after, history = before ++ s :: after → s.Written →
        before.foldl leave open' = [] := by
  induction history generalizing open' with
  | nil => simp [linesFrom]
  | cons first history ih =>
    rw [forall_splits_cons (P := fun before s => s.Written → before.foldl leave open' = []),
      linesFrom]
    simp only [List.foldl_nil, List.foldl_cons]
    by_cases hw : first.Written
    · rw [if_pos hw, List.dropLast_cons_of_ne_nil (linesFrom_ne_nil _ _),
        List.filter_cons_of_pos (by simpa using hw), List.map_cons, List.cons.injEq,
        List.append_left_eq_self, ih, leave, if_pos hw]
      simp [hw]
    · rw [if_neg hw, List.filter_cons_of_neg (by simpa using hw), ih, leave, if_neg hw]
      simp [hw]

end Attempt

/-! ## 3. A medium that refuses once -/

/-- The text of a message begins with the brace that opens its object. -/
theorem Message.text_cons (m : Message) : ∃ cs, m.json.text.toList = '\x7b' :: cs :=
  ⟨_, Json.toList_text_object _⟩

/-- A line does not end with its first octet. -/
theorem Message.line_cons (m : Message) : ∃ rest, rest ≠ [] ∧ m.line = 0x7B :: rest := by
  obtain ⟨cs, htext⟩ := m.text_cons
  refine ⟨cs.flatMap Utf8.encodeChar ++ [lineFeed], by simp, ?_⟩
  rw [line, Utf8.encode, htext, List.flatMap_cons, List.append_assoc]
  rfl

/-- A medium that takes one octet at a time and refuses its second call. -/
def Medium.refusing : Medium where
  write := fun call _ => if call = 2 then .error "sink write failed" else .ok 1
  flush := fun _ => none

theorem Medium.willing_refusing : refusing.Willing 2 where
  write := fun call offered hcall _ => ⟨1, Nat.one_pos, if_neg (by omega)⟩
  flush := fun _ => rfl

namespace Sink

/-- The first message leaves its opening brace. -/
theorem submit_refusing (message : Message) :
    Sink.submit .refusing {} message =
      ({ pieces := [[0x7B]], writes := 2, flushes := 0 }, .error (.write "sink write failed")) := by
  obtain ⟨rest, hrest, hline⟩ := message.line_cons
  obtain ⟨b, bs, rfl⟩ := List.exists_cons_of_ne_nil hrest
  simp [submit, writeAll, hline, writeFrom, Medium.refusing]

/-- The second is accepted. -/
theorem submitAll_refusing (first second : Message) :
    (Sink.submitAll .refusing {} [first, second]).2 =
      [⟨first, .error (.write "sink write failed"), [0x7B]⟩, ⟨second, .ok (), second.line⟩] := by
  obtain ⟨taken, hbytes, -, hrun⟩ := Sink.submitAll_cons .refusing {} first [second]
  rw [submit_refusing] at hbytes hrun
  have hbrace : [0x7B] = taken := hbytes
  obtain ⟨taken', -, hpossible, hrun'⟩ :=
    Sink.submitAll_cons .refusing { pieces := [[0x7B]], writes := 2 } second []
  rw [(submit_of_willing Medium.willing_refusing (Nat.le_refl 2) second).1] at hpossible hrun'
  have hline : taken' = second.line := hpossible.whole.1 (Attempt.written_of_ok rfl)
  rw [hrun, hrun', ← hbrace, hline]
  rfl

end Sink

/-- The output is the brace and the line of the second. -/
theorem Sink.lines_refusing (first second : Message) :
    (Sink.submitAll .refusing {} [first, second]).1.bytes.splitOn lineFeed =
      [0x7B :: Utf8.encode second.json.text, []] := by
  have hsplit := Attempt.splitOn_taken List.not_mem_nil
    (Sink.possible_of_submitAll .refusing {} [first, second])
  have hbytes := Sink.bytes_submitAll .refusing {} [first, second]
  rw [Sink.submitAll_refusing] at hsplit hbytes
  have hlines : (Sink.submitAll .refusing {} [first, second]).1.bytes.splitOn lineFeed =
      Attempt.linesFrom []
        [⟨first, .error (.write "sink write failed"), [0x7B]⟩, ⟨second, .ok (), second.line⟩] := by
    rw [← hsplit, hbytes]
    rfl
  rw [hlines]
  simp [Attempt.linesFrom, Attempt.Written, Attempt.text]

/-- A brace that opens an object is not followed by another. -/
theorem Json.read?_two_braces (cs : List Char) :
    Json.read? (String.ofList ('\x7b' :: '\x7b' :: cs)) = none := by
  have hvalue : Json.value? (cs.length + 1 + 1) ('\x7b' :: '\x7b' :: cs) = none := by
    simp [Json.value?, Json.members?, Json.string?, Json.sign?, Json.skip, Json.isBlank]
  rw [Json.read?, String.toList_ofList, String.length_ofList, List.length_cons, List.length_cons,
    hvalue]

/-- The accepted message has no line of its own, and the one line of the output is not JSON. -/
theorem Sink.damage_refusing (first second : Message) :
    let run := Sink.submitAll .refusing {} [first, second]
    let lines := run.1.bytes.splitOn lineFeed
    (∃ s ∈ run.2, s.message = second ∧ s.answer = .ok ()) ∧
      Utf8.encode second.json.text ∉ lines ∧
      ∃ line ∈ lines.dropLast, Json.read? (Utf8.decode line) = none := by
  intro run lines
  have hlines : lines = [0x7B :: Utf8.encode second.json.text, []] :=
    Sink.lines_refusing first second
  obtain ⟨cs, htext⟩ := second.text_cons
  refine ⟨⟨⟨second, .ok (), second.line⟩, ?_, rfl, rfl⟩, ?_, ?_⟩
  · simp [run, Sink.submitAll_refusing]
  · have hne : Utf8.encode second.json.text ≠ [] := by
      simp [Utf8.encode, htext, Utf8.encodeChar]
    simp [hlines, hne]
  · have hline : 0x7B :: Utf8.encode second.json.text =
        Utf8.encode (String.ofList ('\x7b' :: '\x7b' :: cs)) := by
      simp [Utf8.encode, htext, Utf8.encodeChar]
    refine ⟨0x7B :: Utf8.encode second.json.text, by simp [hlines], ?_⟩
    rw [hline, Utf8.decode_encode, Json.read?_two_braces]

/-! ## 4. Damage -/

/-- **What failed writes do to the lines after them**: for messages handed to one sink, whatever
fails, the text of a message that was written whole stands at the end of a line of its own, behind
what the failed writes since the line before it have left.  The lines of the output are the texts
of the messages written whole, in order, just when none of these found anything left. -/
theorem Sink.lines_of_failing_submissions (medium : Medium) (messages : List Message) :
    let run := Sink.submitAll medium {} messages
    let lines := run.1.bytes.splitOn lineFeed
    run.2.map Attempt.message = messages ∧
      (∀ before s after, run.2 = before ++ s :: after → s.Written →
        lines[before.countP (·.Written)]? = some (Attempt.left before ++ s.text)) ∧
      (lines.dropLast = (run.2.filter (·.Written)).map Attempt.text ↔
        ∀ before s after, run.2 = before ++ s :: after → s.Written →
          Attempt.left before = []) := by
  intro run lines
  have hlines : lines = Attempt.linesFrom [] run.2 := by
    have hsplit := Attempt.splitOn_taken List.not_mem_nil
      (Sink.possible_of_submitAll medium {} messages)
    have hbytes : run.1.bytes = [] ++ run.2.flatMap Attempt.taken :=
      Sink.bytes_submitAll medium {} messages
    rw [← hsplit, ← hbytes]
  refine ⟨Sink.messages_of_submitAll medium {} messages, fun before s after heq hs => ?_, ?_⟩
  · rw [hlines, heq]
    exact Attempt.linesFrom_written [] before hs after
  · rw [hlines]
    exact Attempt.linesFrom_eq_texts [] run.2

/-- The message that is accepted after a fragment of another: its line begins with the fragment. -/
theorem Sink.line_behind_fragment :
    let first : Message := ⟨.v4 ⟨[10, 0, 0, 1], rfl⟩, 0, 1700000000, 0, 256, .data, [],
      [("sourceTransportPort", .unsigned 8080)]⟩
    let second : Message := { first with fields := [("sourceTransportPort", .unsigned 443)] }
    let run := Sink.submitAll .refusing {} [first, second]
    (run.1.bytes.splitOn lineFeed)[0]? = some (0x7B :: Utf8.encode second.json.text) := by
  intro first second run
  clear_value first second
  have hline := (Sink.lines_of_failing_submissions .refusing [first, second]).2.1 [_] _ []
    (Sink.submitAll_refusing first second) (Attempt.written_of_ok rfl)
  simpa [Attempt.left, Attempt.leave, Attempt.Written, Attempt.text] using hline

/-- Such a message has no line of its own, and the one line of the output is not JSON. -/
theorem Sink.accepted_without_line :
    let first : Message := ⟨.v4 ⟨[10, 0, 0, 1], rfl⟩, 0, 1700000000, 0, 256, .data, [],
      [("sourceTransportPort", .unsigned 8080)]⟩
    let second : Message := { first with fields := [("sourceTransportPort", .unsigned 443)] }
    let run := Sink.submitAll .refusing {} [first, second]
    let lines := run.1.bytes.splitOn lineFeed
    (∃ s ∈ run.2, s.message = second ∧ s.answer = .ok ()) ∧
      Utf8.encode second.json.text ∉ lines ∧
      ∃ line ∈ lines.dropLast, Json.read? (Utf8.decode line) = none :=
  Sink.damage_refusing _ _

end FlowIntake
