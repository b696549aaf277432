/-
# What a submission leaves on the sink

A submission adds to the sink the whole line of its message or, when a write fails, a part of it.
A run of submissions is kept as its history: every message with its answer and with what the sink
took of it.

* `Sink.submit_cases`: the three ways a submission ends;
* `Sink.submitAll`: messages handed to one sink one after another;
* `Attempt.Possible`, `Sink.possible_of_submitAll`: what the sink took says how the write went;
* `Sink.submitAll_of_willing`: a medium that never refuses accepts every message.
-/
import FlowIntake.Report.Lines

namespace FlowIntake

/-! ## 1. One write -/

namespace Sink

/-- How a write ended: the sink took the octets up to some point, all of them just when the write
did not fail. -/
def Wrote (s : Sink) (bs : Bytes) (result : Sink × Except String Unit) : Prop :=
  ∃ taken rest, bs = taken ++ rest ∧ result.1.bytes = s.bytes ++ taken ∧
    (result.2 = .ok () ↔ rest = [])

theorem wrote_none {s s' : Sink} (h : s'.bytes = s.bytes) (bs : Bytes) (hbs : bs ≠ []) (e : String) :
    Wrote s bs (s', .error e) :=
  ⟨[], bs, rfl, by rw [List.append_nil, h], ⟨fun hok => (nomatch hok), fun hnil => absurd hnil hbs⟩⟩

/-- A write takes all of the octets, or fails when some are left. -/
theorem wrote_writeFrom (m : Medium) {fuel : Nat} {bs : Bytes} (hfuel : bs.length ≤ fuel)
    (s : Sink) : Wrote s bs (writeFrom m fuel bs s) := by
  fun_induction writeFrom m fuel bs s with
  | case1 => exact ⟨[], [], rfl, (List.append_nil _).symm, ⟨fun _ => rfl, fun _ => rfl⟩⟩
  | case2 bs s hne => exact absurd (List.length_eq_zero_iff.1 (Nat.le_zero.1 hfuel)) hne
  | case3 fuel bs s hne _ e => exact wrote_none rfl bs hne e
  | case4 fuel bs s hne => exact wrote_none rfl bs hne nothingTaken
  | case5 fuel bs s hne counted n hn _ ih =>
    have hpos : 0 < n := Nat.pos_of_ne_zero hn
    have hshort : (bs.drop n).length ≤ fuel := by
      rw [List.length_drop]
      omega
    obtain ⟨taken, rest, hsplit, hbytes, hend⟩ := ih hshort
    refine ⟨bs.take n ++ taken, rest, ?_, ?_, hend⟩
    · rw [List.append_assoc, ← hsplit, List.take_append_drop]
    · rw [hbytes]
      simp [bytes, counted]

theorem wrote_writeAll (m : Medium) (bs : Bytes) (s : Sink) : Wrote s bs (s.writeAll m bs) :=
  wrote_writeFrom m (Nat.le_refl bs.length) s

theorem bytes_flush (m : Medium) (s : Sink) : (s.flush m).1.bytes = s.bytes := by
  rw [flush]
  split
  · rfl
  · rfl

end Sink

/-! ## 2. One submission -/

/-- A message that was handed to a sink, the answer, and what the sink took of its line. -/
structure Attempt where
  message : Message
  answer : Except DispatchError Unit
  taken : Bytes

namespace Attempt

/-- The message was written whole: it was accepted, or the flush after it failed. -/
def Written (s : Attempt) : Prop := ∀ e, s.answer ≠ .error (.write e)

instance (s : Attempt) : Decidable s.Written :=
  match h : s.answer with
  | .error (.write e) => .isFalse fun hw => hw e h
  | .error (.flush _) => .isTrue fun e => by simp [h]
  | .ok () => .isTrue fun e => by simp [h]

/-- What a sink may have taken: the whole line when it was written, else not all of it. -/
structure Possible (s : Attempt) : Prop where
  isPrefix : s.taken <+: s.message.line
  whole : s.Written ↔ s.taken = s.message.line

theorem possible_whole {message : Message} {answer : Except DispatchError Unit}
    (h : ∀ e, answer ≠ .error (.write e)) : Possible ⟨message, answer, message.line⟩ where
  isPrefix := List.prefix_refl _
  whole := iff_of_true h rfl

theorem possible_part {message : Message} {taken rest : Bytes} (h : message.line = taken ++ rest)
    (hrest : rest ≠ []) (e : String) : Possible ⟨message, .error (.write e), taken⟩ where
  isPrefix := ⟨rest, h.symm⟩
  whole := by
    refine iff_of_false (fun hw => hw e rfl) fun htaken => hrest ?_
    rwa [h, List.self_eq_append_right] at htaken

theorem written_of_ok {s : Attempt} (h : s.answer = .ok ()) : s.Written := by
  intro e
  rw [h]
  exact fun heq => nomatch heq

end Attempt

namespace Sink

/-- **The three ways a submission ends**: accepted or not flushed with the whole line on the sink,
or not written with less than that. -/
theorem submit_cases (m : Medium) (s : Sink) (message : Message) :
    ∃ taken, (s.submit m message).1.bytes = s.bytes ++ taken ∧
      Attempt.Possible ⟨message, (s.submit m message).2, taken⟩ := by
  obtain ⟨taken, rest, hline, hbytes, hend⟩ := wrote_writeAll m message.line s
  rw [submit]
  generalize s.writeAll m message.line = result at hbytes hend ⊢
  rcases result with ⟨s', e | ⟨⟩⟩
  · have hrest : rest ≠ [] := fun hnil => nomatch hend.2 hnil
    exact ⟨taken, hbytes, Attempt.possible_part hline hrest e⟩
  · -- The line was written; the flush leaves it there.
    have hrest : rest = [] := hend.1 rfl
    rw [hrest, List.append_nil] at hline
    have hflush := bytes_flush m s'
    rw [hbytes, ← hline] at hflush
    dsimp only
    generalize s'.flush m = flushed at hflush ⊢
    rcases flushed with ⟨s'', e | ⟨⟩⟩
    · exact ⟨message.line, hflush, Attempt.possible_whole fun _ heq => nomatch heq⟩
    · exact ⟨message.line, hflush, Attempt.possible_whole fun _ heq => nomatch heq⟩

/-! ## 3. A run of submissions -/

/-- Hands messages to a sink one after another, whatever the answers are. -/
def submitAll (m : Medium) (s : Sink) : List Message → Sink × List Attempt
  | [] => (s, [])
  | message :: messages =>
    let result := s.submit m message
    let run := submitAll m result.1 messages
    (run.1, ⟨message, result.2, result.1.bytes.drop s.bytes.length⟩ :: run.2)

/-- What the first submission of a run says; the others find the sink that it leaves. -/
theorem submitAll_cons (m : Medium) (s : Sink) (message : Message) (messages : List Message) :
    ∃ taken, (s.submit m message).1.bytes = s.bytes ++ taken ∧
      Attempt.Possible ⟨message, (s.submit m message).2, taken⟩ ∧
      s.submitAll m (message :: messages) =
        (((s.submit m message).1.submitAll m messages).1,
          ⟨message, (s.submit m message).2, taken⟩ ::
            ((s.submit m message).1.submitAll m messages).2) := by
  obtain ⟨taken, hbytes, hpossible⟩ := s.submit_cases m message
  have hdrop : (s.submit m message).1.bytes.drop s.bytes.length = taken := by
    rw [hbytes, List.drop_left]
  refine ⟨taken, hbytes, hpossible, ?_⟩
  rw [submitAll, hdrop]

/-- The history names the messages in order. -/
theorem messages_of_submitAll (m : Medium) (s : Sink) (messages : List Message) :
    (s.submitAll m messages).2.map Attempt.message = messages := by
  induction messages generalizing s with
  | nil => rfl
  | cons message messages ih =>
    obtain ⟨taken, -, -, hrun⟩ := s.submitAll_cons m message messages
    rw [hrun, List.map_cons, ih]

/-- Each submission of a run left what it can have left. -/
theorem possible_of_submitAll (m : Medium) (s : Sink) (messages : List Message) :
    ∀ attempt ∈ (s.submitAll m messages).2, attempt.Possible := by
  induction messages generalizing s with
  | nil => exact List.forall_mem_nil _
  | cons message messages ih =>
    obtain ⟨taken, -, hpossible, hrun⟩ := s.submitAll_cons m message messages
    rw [hrun]
    exact List.forall_mem_cons.2 ⟨hpossible, ih _⟩

/-- **The sink holds what it held before and then what each submission left**, in order. -/
theorem bytes_submitAll (m : Medium) (s : Sink) (messages : List Message) :
    (s.submitAll m messages).1.bytes =
      s.bytes ++ (s.submitAll m messages).2.flatMap Attempt.taken := by
  induction messages generalizing s with
  | nil => exact (List.append_nil _).symm
  | cons message messages ih =>
    obtain ⟨taken, hbytes, -, hrun⟩ := s.submitAll_cons m message messages
    rw [hrun, ih, hbytes, List.flatMap_cons, List.append_assoc]

/-- When every message was written whole, what the submissions left is the lines. -/
theorem taken_of_written {m : Medium} {s : Sink} {messages : List Message}
    (h : ∀ attempt ∈ (s.submitAll m messages).2, attempt.Written) :
    (s.submitAll m messages).2.flatMap Attempt.taken = messages.flatMap Message.line := by
  have hmessages := s.messages_of_submitAll m messages
  have hpossible := s.possible_of_submitAll m messages
  generalize (s.submitAll m messages).2 = history at h hmessages hpossible ⊢
  subst hmessages
  have hline : history.map Attempt.taken = history.map fun s => s.message.line :=
    List.map_congr_left fun s hs => (hpossible s hs).whole.1 (h s hs)
  rw [List.flatMap_map, List.flatMap_def, hline, List.flatMap_def]

end Sink

/-! ## 4. Media that no longer refuse -/

/-- A medium that, after some calls, takes something of whatever it is offered; every flush ends
well. -/
structure Medium.Willing (m : Medium) (since : Nat) : Prop where
  write : ∀ call offered, since < call → 0 < offered → ∃ n, 0 < n ∧ m.write call offered = .ok n
  flush : ∀ call, m.flush call = none

namespace Sink

/-- Such a medium takes everything, and no call is taken back. -/
theorem writeFrom_of_willing {m : Medium} {since : Nat} (hm : m.Willing since) (fuel : Nat)
    (bs : Bytes) (s : Sink) (hs : since ≤ s.writes) :
    (writeFrom m fuel bs s).2 = .ok () ∧ since ≤ (writeFrom m fuel bs s).1.writes := by
  fun_induction writeFrom m fuel bs s with
  | case1 => exact ⟨rfl, hs⟩
  | case2 => exact ⟨rfl, hs⟩
  | case3 fuel bs s hne counted e hwrite =>
    obtain ⟨n, -, hn⟩ := hm.write counted.writes bs.length (Nat.lt_succ_of_le hs)
      (List.length_pos_iff.2 hne)
    rw [hwrite] at hn
    cases hn
  | case4 fuel bs s hne counted hwrite =>
    obtain ⟨n, hpos, hn⟩ := hm.write counted.writes bs.length (Nat.lt_succ_of_le hs)
      (List.length_pos_iff.2 hne)
    rw [hwrite] at hn
    cases hn
    omega
  | case5 fuel bs s hne counted n hn hwrite ih => exact ih (Nat.le_succ_of_le hs)

theorem writeAll_of_willing {m : Medium} {since : Nat} (hm : m.Willing since) (bs : Bytes)
    {s : Sink} (hs : since ≤ s.writes) :
    (s.writeAll m bs).2 = .ok () ∧ since ≤ (s.writeAll m bs).1.writes :=
  writeFrom_of_willing hm bs.length bs s hs

/-- **Such a medium accepts a message.** -/
theorem submit_of_willing {m : Medium} {since : Nat} (hm : m.Willing since) {s : Sink}
    (hs : since ≤ s.writes) (message : Message) :
    (s.submit m message).2 = .ok () ∧ since ≤ (s.submit m message).1.writes := by
  have hwrite := writeAll_of_willing hm message.line hs
  rw [submit]
  generalize s.writeAll m message.line = result at hwrite ⊢
  rcases result with ⟨s', answer⟩
  obtain ⟨rfl, hs'⟩ := hwrite
  simpa [flush, hm.flush] using hs'

theorem submitAll_of_willing {m : Medium} {since : Nat} (hm : m.Willing since) {s : Sink}
    (hs : since ≤ s.writes) (messages : List Message) :
    ∀ attempt ∈ (s.submitAll m messages).2, attempt.answer = .ok () := by
  induction messages generalizing s with
  | nil => exact List.forall_mem_nil _
  | cons message messages ih =>
    obtain ⟨hanswer, hs'⟩ := submit_of_willing hm hs message
    obtain ⟨taken, -, -, hrun⟩ := s.submitAll_cons m message messages
    have hlater := @ih (s.submit m message).1 hs'
    rw [hrun]
    simp only [List.forall_mem_cons]
    exact ⟨hanswer, hlater⟩

end Sink

end FlowIntake
