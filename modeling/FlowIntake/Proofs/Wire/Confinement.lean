/-
# Cursors keep to the octets they were given

A cursor is asked for one read after another, and a part that is split off is read by a cursor of
its own, at once or whenever its turn comes.  Whatever is asked of which cursor and in which order,
each of them walks through its own octets and no others: a read that succeeds takes the next ones,
which alone decide its answer, and a read that fails says how many are left and takes none.

* `Bytes.word`, `Bytes.signedWord`: octets that are shifted into a word make the number they stand
  for, with a sign or without;
* `Command.Reads`, `Command.Lacks`: which octets a command takes, and when they are too few;
* `Makes`: reads of a given number of octets;
* `Command.run_cases`, `trail_runAll`: one command after another, from one place to the next;
* `Window`, `Window.reached`: cursors in use at the same time, and the part that each was given;
* `Window.sound_step`, `Window.sound_reached`: what one command preserves, and so all of them;
* `Window.reads_confined`: reads of all cursors, in any order.
-/
import FlowIntake.Proofs.Field.WireForm

namespace FlowIntake

/-! ## 1. Numbers -/

namespace Bytes

variable {taken : Bytes}

theorem toNat_u8 (h : taken.length = 1) : (UInt8.ofNat taken.value).toNat = taken.value := by
  have hlt := taken.value_lt
  rw [h] at hlt
  exact Nat.mod_eq_of_lt hlt

theorem toNat_u16 (h : taken.length = 2) : (UInt16.ofNat taken.value).toNat = taken.value := by
  have hlt := taken.value_lt
  rw [h] at hlt
  exact Nat.mod_eq_of_lt hlt

/-- The number with a sign of some octets is the one that their bits stand for. -/
theorem toInt_ofNat_value (taken : Bytes) :
    (BitVec.ofNat (8 * taken.length) taken.value).toInt = taken.signedValue := by
  have hlt := taken.value_lt
  rw [capacity_eq_two_pow] at hlt
  have hbits : (BitVec.ofNat (8 * taken.length) taken.value).toNat = taken.value := by
    rw [BitVec.toNat_ofNat, Nat.mod_eq_of_lt hlt]
  rw [BitVec.toInt_eq_toNat_cond, hbits, signedValue, capacity_eq_two_pow]

/-- To read such a number into 64 bits is to repeat its sign. -/
theorem toBitVec_signedValue (taken : Bytes) :
    (Int64.ofInt taken.signedValue).toBitVec
      = (BitVec.ofNat (8 * taken.length) taken.value).signExtend 64 := by
  rw [← toInt_ofNat_value]
  rfl

/-! ### Words -/

/-- The word that octets make when they are shifted into it one after another. -/
def word (bs : Bytes) : UInt64 := bs.foldl (fun acc b => acc <<< 8 ||| b.toUInt64) 0

/-- The word of octets with their sign: they are shifted to its top, and the sign follows them back
down. -/
def signedWord (bs : Bytes) : Int64 :=
  let shift := 64 - 8 * bs.length
  ⟨⟨(bs.word.toBitVec <<< shift).sshiftRight shift⟩⟩

/-- An octet that is shifted into a word is its last digit. -/
theorem shift_or (a : Nat) (b : UInt8) :
    UInt64.ofNat a <<< 8 ||| b.toUInt64 = UInt64.ofNat (a * 256 + b.toNat) := by
  have hb : b.toNat < 256 := b.toNat_lt
  have hplaces : (8 : UInt64).toNat % 64 = 8 := rfl
  have hshift :
      (UInt64.ofNat a).toNat <<< 8 % 2 ^ 64 = ((UInt64.ofNat a).toNat % 2 ^ 56) <<< 8 := by
    rw [Nat.shiftLeft_eq, Nat.shiftLeft_eq]
    omega
  rw [← UInt64.toNat_inj, UInt64.toNat_or, UInt64.toNat_shiftLeft, hplaces, UInt8.toNat_toUInt64,
    hshift, ← Nat.shiftLeft_add_eq_or_of_lt hb, Nat.shiftLeft_eq, UInt64.toNat_ofNat',
    UInt64.toNat_ofNat']
  omega

theorem word_eq (bs : Bytes) : bs.word = UInt64.ofNat bs.value := by
  have hrun (a : Nat) :
      bs.foldl (fun (acc : UInt64) b => acc <<< 8 ||| b.toUInt64) (UInt64.ofNat a)
        = UInt64.ofNat (bs.foldl (fun acc b => acc * 256 + b.toNat) a) := by
    induction bs generalizing a with
    | nil => rfl
    | cons b bs ih => rw [List.foldl_cons, List.foldl_cons, shift_or, ih]
  exact hrun 0

theorem toNat_word {bs : Bytes} (h : bs.length ≤ 8) : bs.word.toNat = bs.value := by
  rw [word_eq]
  exact toNat_u64 h

/-- At the top of a word the sign of the octets is the sign of the word. -/
theorem toInt_word_shiftLeft {bs : Bytes} {shift : Nat} (h : 8 * bs.length + shift = 64) :
    (bs.word.toBitVec <<< shift).toInt = bs.signedValue * 2 ^ shift := by
  have hpos : 0 < 2 ^ shift := Nat.two_pow_pos shift
  have hpow : capacity bs.length * 2 ^ shift = 2 ^ 64 := by
    rw [capacity_eq_two_pow, ← pow_add, h]
  have hroom : bs.value * 2 ^ shift < 2 ^ 64 := by
    rw [← hpow]
    exact Nat.mul_lt_mul_of_pos_right bs.value_lt hpos
  have hshifted : (bs.word.toBitVec <<< shift).toNat = bs.value * 2 ^ shift := by
    rw [BitVec.toNat_shiftLeft, UInt64.toNat_toBitVec, toNat_word (by omega), Nat.shiftLeft_eq,
      Nat.mod_eq_of_lt hroom]
  have hsign : 2 * (bs.value * 2 ^ shift) < 2 ^ 64 ↔ 2 * bs.value < capacity bs.length := by
    rw [← hpow, ← Nat.mul_assoc]
    exact Nat.mul_lt_mul_right hpos
  rw [BitVec.toInt_eq_toNat_cond, hshifted, signedValue]
  by_cases hpositive : 2 * bs.value < capacity bs.length
  · rw [if_pos hpositive, if_pos (hsign.mpr hpositive)]
    push_cast
    rfl
  · rw [if_neg hpositive, if_neg (mt hsign.mp hpositive), ← hpow, Int.sub_mul]
    push_cast
    rfl

theorem toInt_signedWord {bs : Bytes} (h : bs.length ≤ 8) :
    bs.signedWord.toInt = bs.signedValue := by
  have hback : bs.signedWord.toInt
      = (bs.word.toBitVec <<< (64 - 8 * bs.length)).toInt >>> (64 - 8 * bs.length) :=
    BitVec.toInt_sshiftRight
  rw [hback, toInt_word_shiftLeft (by omega), Int.shiftRight_eq_div_pow]
  push_cast
  exact Int.mul_ediv_cancel _ (by positivity)

theorem ofInt_signedValue {bs : Bytes} (h : bs.length ≤ 8) :
    Int64.ofInt bs.signedValue = bs.signedWord := by
  rw [← toInt_signedWord h, Int64.ofInt_toInt]

end Bytes

namespace Cursor

/-! ## 2. What a command takes -/

namespace Command

/-- How many octets a command takes, where the octets have no say in it. -/
def width? : Command → Option Nat
  | u8 => some 1
  | u16 => some 2
  | u32 => some 4
  | uint n | int n | take n | skip n | octets n | split n _ => some n
  | variableLength => none

/-- The octets make the command answer `a`, wherever they stand and whatever follows them, and it
takes all of them. -/
def Takes (cmd : Command) (taken : Bytes) (a : Answer) : Prop :=
  ∀ p rest, cmd.run ⟨p, taken ++ rest⟩ = (.ok a, ⟨p + taken.length, rest⟩)

/-- The octets that are left are too few for the command, which says so. -/
inductive Lacks : Command → Bytes → ReadError → Prop
  | octets {cmd : Command} {n : Nat} {left : Bytes} (hwidth : cmd.width? = some n)
      (hleft : left.length < n) : Lacks cmd left (.short n left.length)
  | length : Lacks variableLength [] (.short 1 0)
  /-- What is left is counted after the octet that announces a long length. -/
  | longLength {cut : Bytes} (hcut : cut.length < 2) :
      Lacks variableLength (255 :: cut) (.lengthCut cut.length)

end Command

mutual

/-- What the octets mean that a command takes. -/
inductive Command.Reads : Command → Bytes → Answer → Prop
  | u8 {taken : Bytes} (h : taken.length = 1) : Command.Reads .u8 taken (.number taken.value)
  | u16 {taken : Bytes} (h : taken.length = 2) : Command.Reads .u16 taken (.number taken.value)
  | u32 {taken : Bytes} (h : taken.length = 4) : Command.Reads .u32 taken (.number taken.value)
  | uint {n : Nat} {taken : Bytes} {v : UInt64} (h : taken.length = n)
      (hword : v = taken.word) (hv : n ≤ 8 → v.toNat = taken.value) :
      Command.Reads (.uint n) taken (.unsigned v)
  | int {n : Nat} {taken : Bytes} {v : Int64} (h : taken.length = n)
      (hword : n ≤ 8 → v = taken.signedWord)
      (hv : n ≤ 8 → v.toBitVec = (BitVec.ofNat (8 * n) taken.value).signExtend 64) :
      Command.Reads (.int n) taken (.signed v)
  | take {n : Nat} {taken : Bytes} (h : taken.length = n) :
      Command.Reads (.take n) taken (.bytes taken)
  | skip {n : Nat} {taken : Bytes} (h : taken.length = n) : Command.Reads (.skip n) taken .passed
  | octets {n : Nat} {taken : Bytes} (h : taken.length = n) :
      Command.Reads (.octets n) taken (.bytes taken)
  | length {b : UInt8} (h : b < 255) : Command.Reads .variableLength [b] (.number b.toNat)
  | longLength {taken : Bytes} (h : taken.length = 2) :
      Command.Reads .variableLength (255 :: taken) (.number taken.value)
  | split {n : Nat} {inner : List Command} {taken : Bytes} {trail : List Outcome} {d : Cursor}
      (h : taken.length = n) (hinner : Trail (ofBytes taken) inner trail d) :
      Command.Reads (.split n inner) taken (.inner d.rest trail)

/-- From one place to another the commands have these outcomes: those that succeed take the octets
in front, each where the one before it stopped, and those that fail take none. -/
inductive Trail : Cursor → List Command → List Outcome → Cursor → Prop
  | nil {c : Cursor} : Trail c [] [] c
  | read {c d : Cursor} {cmd : Command} {cmds : List Command} {taken rest : Bytes} {a : Answer}
      {later : List Outcome} (hrest : c.rest = taken ++ rest) (htakes : cmd.Takes taken a)
      (hreads : cmd.Reads taken a)
      (hlater : Trail ⟨c.position + taken.length, rest⟩ cmds later d) :
      Trail c (cmd :: cmds) ((.ok a, ⟨c.position + taken.length, rest⟩) :: later) d
  | lacks {c d : Cursor} {cmd : Command} {cmds : List Command} {e : ReadError}
      {later : List Outcome} (hlacks : cmd.Lacks c.rest e) (hlater : Trail c cmds later d) :
      Trail c (cmd :: cmds) ((.error e, c) :: later) d

end

/-! ### Reads of a given size -/

section Sized

variable {α β : Type} {r : Reader ReadError α} {n : Nat} {f : Bytes → α}

/-- The reader makes `f` of the next `n` octets, and fails when there are fewer. -/
structure Makes (r : Reader ReadError α) (n : Nat) (f : Bytes → α) : Prop where
  ok : ∀ taken p rest, taken.length = n → r ⟨p, taken ++ rest⟩ = .ok (f taken) ⟨p + n, rest⟩
  error : ∀ c : Cursor, c.remaining < n → r c = .error (.short n c.remaining) c

theorem makes_take (n : Nat) : Makes (take n) n id where
  ok := by
    rintro taken p rest rfl
    exact take_append p taken rest
  error := by
    intro c hshort
    rw [take_eq, if_neg (Nat.not_le.mpr hshort)]

theorem Makes.map (h : Makes r n f) (g : α → β) : Makes (g <$> r) n (g ∘ f) where
  ok := fun taken p rest hlength => Reader.map_ok (h.ok taken p rest hlength)
  error := by
    intro c hshort
    simp [Functor.map, EStateM.map, h.error c hshort]

/-- Of as many octets as there are it takes all. -/
theorem Makes.all (h : Makes r n f) {taken : Bytes} (hlength : taken.length = n) :
    r (ofBytes taken) = .ok (f taken) ⟨n, []⟩ := by
  have hread := h.ok taken 0 [] hlength
  rwa [List.append_nil, Nat.zero_add] at hread

end Sized

/-! ### One command -/

/-- A long length is the number of the two octets after 255. -/
theorem variableLength_long {taken : Bytes} (h : taken.length = 2) (p : Nat) (rest : Bytes) :
    variableLength ⟨p, 255 :: taken ++ rest⟩ = .ok taken.value ⟨p + 3, rest⟩ := by
  obtain ⟨hi, lo, rfl⟩ := List.length_eq_two.mp h
  rfl

namespace Command

theorem Takes.run_eq {cmd : Command} {taken rest : Bytes} {a : Answer} {c : Cursor}
    (h : cmd.Takes taken a) (hrest : c.rest = taken ++ rest) :
    cmd.run c = (.ok a, ⟨c.position + taken.length, rest⟩) := by
  have hrun := h c.position rest
  rwa [← hrest] at hrun

/-- A command takes octets that it can read, or lacks some and stays. -/
def Ends (cmd : Command) (c : Cursor) : Prop :=
  (∃ taken rest a, c.rest = taken ++ rest ∧ cmd.Takes taken a ∧ cmd.Reads taken a) ∨
    ∃ e, cmd.Lacks c.rest e ∧ cmd.run c = (.error e, c)

theorem ends_of_makes {α : Type} {cmd : Command} {r : Reader ReadError α} {n : Nat}
    {f : Bytes → α} {g : α → Answer} (hwidth : cmd.width? = some n) (hmakes : Makes r n f)
    (hrun : ∀ c, cmd.run c = outcome g r c)
    (hreads : ∀ taken : Bytes, taken.length = n → cmd.Reads taken (g (f taken))) (c : Cursor) :
    cmd.Ends c := by
  by_cases hroom : n ≤ c.remaining
  · have hlength : (c.rest.take n).length = n := List.length_take_of_le hroom
    refine Or.inl ⟨c.rest.take n, c.rest.drop n, g (f (c.rest.take n)), ?_, ?_, hreads _ hlength⟩
    · rw [List.take_append_drop]
    · intro p rest
      rw [hrun, outcome, hmakes.ok _ p rest hlength, hlength]
  · have hshort : c.remaining < n := Nat.not_le.mp hroom
    refine Or.inr ⟨.short n c.remaining, .octets hwidth hshort, ?_⟩
    rw [hrun, outcome, hmakes.error c hshort]

theorem ends_variableLength (c : Cursor) : variableLength.Ends c := by
  obtain ⟨p, octets⟩ := c
  rcases octets with _ | ⟨b, octets⟩
  · exact Or.inr ⟨_, .length, rfl⟩
  by_cases hshort : b < 255
  · refine Or.inl ⟨[b], octets, .number b.toNat, rfl, ?_, .length hshort⟩
    intro q rest
    simp [run, outcome, Cursor.variableLength, hshort]
  have hlt : b.toNat < 256 := b.toNat_lt
  have hlast : (255 : UInt8).toNat = 255 := rfl
  obtain rfl : b = 255 := by
    rw [UInt8.lt_iff_toNat_lt] at hshort
    exact UInt8.toNat_inj.mp (by omega)
  by_cases hroom : 2 ≤ octets.length
  · have hlength : (octets.take 2).length = 2 := List.length_take_of_le hroom
    refine Or.inl ⟨255 :: octets.take 2, octets.drop 2, .number (Bytes.value (octets.take 2)),
      ?_, ?_, .longLength hlength⟩
    · rw [List.cons_append, List.take_append_drop]
    · intro q rest
      rw [run, outcome, variableLength_long hlength, List.length_cons, hlength]
  · refine Or.inr ⟨_, .longLength (Nat.not_le.mp hroom), ?_⟩
    rcases octets with _ | ⟨hi, _ | ⟨lo, later⟩⟩
    · rfl
    · rfl
    · simp at hroom

end Command

theorem runAll_cons (cmd : Command) (cmds : List Command) (c : Cursor) :
    runAll (cmd :: cmds) c
      = (cmd.run c :: (runAll cmds (cmd.run c).2).1, (runAll cmds (cmd.run c).2).2) := rfl

mutual

/-- **One command**, by the commands. -/
theorem Command.run_cases (cmd : Command) (c : Cursor) : cmd.Ends c := by
  cases cmd with
  | u8 =>
    refine Command.ends_of_makes rfl ((makes_take 1).map _) (fun c => rfl) (fun taken h => ?_) c
    rw [Function.comp_apply, id_eq, Bytes.toNat_u8 h]
    exact .u8 h
  | u16 =>
    refine Command.ends_of_makes rfl ((makes_take 2).map _) (fun c => rfl) (fun taken h => ?_) c
    rw [Function.comp_apply, id_eq, Bytes.toNat_u16 h]
    exact .u16 h
  | u32 =>
    refine Command.ends_of_makes rfl ((makes_take 4).map _) (fun c => rfl) (fun taken h => ?_) c
    rw [Function.comp_apply, id_eq, Bytes.toNat_u32 h]
    exact .u32 h
  | uint n =>
    refine Command.ends_of_makes rfl ((makes_take n).map _) (fun c => rfl) (fun taken h => ?_) c
    exact .uint h (Bytes.word_eq taken).symm fun hn => Bytes.toNat_u64 (h.trans_le hn)
  | int n =>
    refine Command.ends_of_makes rfl ((makes_take n).map _) (fun c => rfl) (fun taken h => ?_) c
    exact .int h (fun hn => Bytes.ofInt_signedValue (h.trans_le hn))
      fun _ => h ▸ Bytes.toBitVec_signedValue taken
  | take n =>
    exact Command.ends_of_makes rfl (makes_take n) (fun c => rfl) (fun taken h => .take h) c
  | skip n =>
    exact Command.ends_of_makes rfl ((makes_take n).map _) (fun c => rfl)
      (fun taken h => .skip h) c
  | octets n =>
    refine Command.ends_of_makes rfl ((makes_take n).map _) (fun c => rfl) (fun taken h => ?_) c
    rw [Function.comp_apply, id_eq, Octets.toBytes_ofBytes h]
    exact .octets h
  | variableLength => exact Command.ends_variableLength c
  | split n inner =>
    have hsplit : Makes (split n) n (ofBytes ∘ id) := (makes_take n).map ofBytes
    let answer (part : Cursor) : Answer := .inner (runAll inner part).2.rest (runAll inner part).1
    have hrun (c : Cursor) : (Command.split n inner).run c = outcome answer (split n) c := by
      rw [Command.run, outcome]
      cases split n c <;> rfl
    exact Command.ends_of_makes rfl hsplit hrun
      (fun taken h => .split h (trail_runAll inner (ofBytes taken))) c

/-- **Commands one after another.** -/
theorem trail_runAll (cmds : List Command) (c : Cursor) :
    Trail c cmds (runAll cmds c).1 (runAll cmds c).2 := by
  cases cmds with
  | nil => exact .nil
  | cons cmd cmds =>
    rw [runAll_cons]
    rcases Command.run_cases cmd c with ⟨taken, rest, a, hrest, htakes, hreads⟩ | ⟨e, hlacks, hrun⟩
    · rw [htakes.run_eq hrest]
      exact .read hrest htakes hreads (trail_runAll cmds _)
    · rw [hrun]
      exact .lacks hlacks (trail_runAll cmds c)

end

theorem runAll_append (first later : List Command) (c : Cursor) :
    runAll (first ++ later) c
      = ((runAll first c).1 ++ (runAll later (runAll first c).2).1,
          (runAll later (runAll first c).2).2) := by
  induction first generalizing c with
  | nil => rfl
  | cons cmd first ih => rw [List.cons_append, runAll_cons, runAll_cons, ih, List.cons_append]

/-! ### Places -/

theorem In.position_add_remaining {bs : Bytes} {c : Cursor} (h : In bs c) :
    c.position + c.remaining = bs.length := by
  obtain ⟨hle, hrest⟩ := h
  rw [remaining, hrest, List.length_drop]
  omega

/-- A command leads from one place of a string to another. -/
theorem Command.in_run {bs : Bytes} {c : Cursor} (h : In bs c) (cmd : Command) :
    In bs (cmd.run c).2 := by
  rcases cmd.run_cases c with ⟨taken, rest, a, hrest, htakes, -⟩ | ⟨e, -, hrun⟩
  · have hplace := h.position_add_remaining
    obtain ⟨-, hdrop⟩ := h
    rw [remaining, hrest, List.length_append] at hplace
    rw [htakes.run_eq hrest]
    constructor
    · simp only
      omega
    · rw [← List.drop_drop, ← hdrop, hrest, List.drop_left]
  · rw [hrun]
    exact h

theorem in_runAll {bs : Bytes} {c : Cursor} (h : In bs c) (cmds : List Command) :
    In bs (runAll cmds c).2 ∧ ∀ x ∈ (runAll cmds c).1, In bs x.2 := by
  induction cmds generalizing c with
  | nil => exact ⟨h, fun x hx => absurd hx List.not_mem_nil⟩
  | cons cmd cmds ih =>
    have hnext := cmd.in_run h
    obtain ⟨hlast, hlater⟩ := ih hnext
    exact ⟨hlast, List.forall_mem_cons.mpr ⟨hnext, hlater⟩⟩

/-! ## 3. Cursors in use at the same time -/

/-- A cursor in use: the part of the whole string that it was opened on, where it stands, and a note
of what it has been asked and has answered, at which no read looks. -/
structure Window where
  start : Nat
  size : Nat
  cursor : Cursor
  asked : List Command
  answered : List Outcome

namespace Window

/-- The octets that a window was opened on. -/
def octets (w : Window) (bs : Bytes) : Bytes := (bs.drop w.start).take w.size

/-- The window on the whole string. -/
def whole (bs : Bytes) : Window := ⟨0, bs.length, ofBytes bs, [], []⟩

/-- The window after one more command. -/
def ask (w : Window) (cmd : Command) : Window :=
  { w with
    cursor := (cmd.run w.cursor).2
    asked := w.asked ++ [cmd]
    answered := w.answered ++ [cmd.run w.cursor] }

/-- The window that a command opens by splitting octets off, as it is when the commands that come
with it have been run. -/
def opened (w : Window) : Command → List Window
  | .split n inner =>
    match Cursor.split n w.cursor with
    | .ok part _ =>
      let (trail, last) := runAll inner part
      [⟨w.start + w.cursor.position, n, last, inner, trail⟩]
    | .error _ _ => []
  | _ => []

/-- Asks the window with the number `i`, in the order in which windows were opened, if there is
one. -/
def step (ws : List Window) (move : Nat × Command) : List Window :=
  match ws[move.1]? with
  | some w => ws.set move.1 (w.ask move.2) ++ w.opened move.2
  | none => ws

/-- The windows on a string after some moves. -/
def reached (bs : Bytes) (moves : List (Nat × Command)) : List Window :=
  moves.foldl step [whole bs]

/-- The window lies in the string, and has answered as it would have on its own octets alone. -/
structure Sound (bs : Bytes) (w : Window) : Prop where
  inside : w.start + w.size ≤ bs.length
  alone : runAll w.asked (ofBytes (w.octets bs)) = (w.answered, w.cursor)

variable {bs : Bytes} {w : Window}

theorem sound_whole (bs : Bytes) : Sound bs (whole bs) where
  inside := by simp [whole]
  alone := by simp [whole, octets, runAll]

theorem Sound.length_octets (h : Sound bs w) : (w.octets bs).length = w.size := by
  have hinside := h.inside
  rw [octets, List.length_take, List.length_drop]
  omega

/-- A window never stood outside its octets. -/
theorem Sound.in_octets (h : Sound bs w) :
    In (w.octets bs) w.cursor ∧ ∀ x ∈ w.answered, In (w.octets bs) x.2 := by
  have hplaces := in_runAll (in_ofBytes (w.octets bs)) w.asked
  rwa [h.alone] at hplaces

theorem Sound.ask (h : Sound bs w) (cmd : Command) : Sound bs (w.ask cmd) where
  inside := h.inside
  alone := by
    have hsame : (w.ask cmd).octets bs = w.octets bs := rfl
    rw [hsame]
    simp only [Window.ask, runAll_append, h.alone]
    rfl

/-- Where the next octets of a window stand in the whole string. -/
theorem Sound.take_rest (h : Sound bs w) {n : Nat} (hroom : n ≤ w.cursor.remaining) :
    w.start + w.cursor.position + n ≤ w.start + w.size ∧
      (bs.drop (w.start + w.cursor.position)).take n = w.cursor.rest.take n := by
  have hplace := h.in_octets.1.position_add_remaining
  rw [h.length_octets] at hplace
  refine ⟨by omega, ?_⟩
  have hroom' : n ≤ w.size - w.cursor.position := by omega
  rw [h.in_octets.1.2, octets, List.drop_take, List.drop_drop, List.take_take,
    Nat.min_eq_left hroom']

/-- A window that is opened lies in the one that opened it, over the octets that were split off. -/
theorem Sound.opened (h : Sound bs w) {cmd : Command} {w' : Window} (hw' : w' ∈ w.opened cmd) :
    Sound bs w' ∧ w.start ≤ w'.start ∧ w'.start + w'.size ≤ w.start + w.size ∧
      w'.octets bs = w.cursor.rest.take w'.size := by
  cases cmd with
  | split n inner =>
    rw [Window.opened] at hw'
    cases hsplit : split n w.cursor with
    | ok part c =>
      rw [hsplit] at hw'
      obtain rfl := List.mem_singleton.mp hw'
      obtain ⟨taken, htake, rfl⟩ := Reader.map_ok_iff.mp hsplit
      obtain ⟨hrest, hlength, -⟩ := take_ok_iff.mp htake
      have hroom : n ≤ w.cursor.remaining := by
        rw [remaining, hrest, List.length_append]
        omega
      obtain ⟨hfits, hoctets⟩ := h.take_rest hroom
      refine ⟨⟨hfits.trans h.inside, ?_⟩, Nat.le_add_right _ _, hfits, hoctets⟩
      rw [octets, hoctets, hrest, List.take_left' hlength]
    | error e c =>
      rw [hsplit] at hw'
      exact absurd hw' List.not_mem_nil
  | _ => exact absurd hw' List.not_mem_nil

theorem sound_step {ws : List Window} (h : ∀ w ∈ ws, Sound bs w) (move : Nat × Command) :
    ∀ w ∈ step ws move, Sound bs w := by
  intro w hw
  rw [step] at hw
  split at hw
  · rename_i asked hasked
    have hsound := h asked (List.mem_of_getElem? hasked)
    rcases List.mem_append.mp hw with hset | hopened
    · rcases List.mem_or_eq_of_mem_set hset with hother | rfl
      · exact h w hother
      · exact hsound.ask move.2
    · exact (hsound.opened hopened).1
  · exact h w hw

theorem sound_reached (bs : Bytes) (moves : List (Nat × Command)) :
    ∀ w ∈ reached bs moves, Sound bs w := by
  have hrun (ws : List Window) (h : ∀ w ∈ ws, Sound bs w) :
      ∀ w ∈ moves.foldl step ws, Sound bs w := by
    induction moves generalizing ws with
    | nil => exact h
    | cons move moves ih => exact ih (step ws move) (sound_step h move)
  exact hrun [whole bs] (List.forall_mem_singleton.mpr (sound_whole bs))

/-- **Reads are atomic, in order and confined.**  However many cursors are in use on parts of a
string, whatever each of them is asked and in whichever order they take turns: no part reaches
beyond the string, and no cursor ever stands beyond its part, so that there are as many octets left
as it says.  A read that succeeds takes the next octets, where the one before it stopped, and these
alone make its answer; a read that fails leaves the cursor and says how many octets are left.  And
what a cursor answers is what it would answer if it were the only one and its octets the only
ones. -/
theorem reads_confined (bs : Bytes) (moves : List (Nat × Command)) :
    ∀ w ∈ reached bs moves,
      w.start + w.size ≤ bs.length ∧
      (∀ c ∈ w.cursor :: w.answered.map Prod.snd,
        In (w.octets bs) c ∧ c.position + c.remaining = w.size) ∧
      Trail (ofBytes (w.octets bs)) w.asked w.answered w.cursor ∧
      w.answered = run w.asked (w.octets bs) ∧
      ∀ cmd, ∀ w' ∈ w.opened cmd, w.start ≤ w'.start ∧ w'.start + w'.size ≤ w.start + w.size ∧
        w'.octets bs = w.cursor.rest.take w'.size := by
  intro w hw
  have hsound := sound_reached bs moves w hw
  obtain ⟨hcursor, hanswered⟩ := hsound.in_octets
  refine ⟨hsound.inside, ?_, ?_, ?_, fun cmd w' hw' => (hsound.opened hw').2⟩
  · have hplaces : ∀ c ∈ w.cursor :: w.answered.map Prod.snd, In (w.octets bs) c :=
      List.forall_mem_cons.mpr ⟨hcursor, List.forall_mem_map.mpr hanswered⟩
    intro c hc
    have hplace := hplaces c hc
    exact ⟨hplace, hplace.position_add_remaining.trans hsound.length_octets⟩
  · have htrail := trail_runAll w.asked (ofBytes (w.octets bs))
    rwa [hsound.alone] at htrail
  · rw [run, hsound.alone]

/-- Three octets are split off and read after the ones behind them: the length that they announce is
cut off where they end, though the string goes on. -/
theorem part_is_not_passed :
    let bs : Bytes := [7, 255, 1, 255, 56]
    let moves : List (Nat × Command) :=
      [(0, .split 3 []), (0, .int 2), (1, .u8), (1, .variableLength)]
    let w : Window := ⟨0, 3, ⟨1, [255, 1]⟩, [.u8, .variableLength],
      [(.ok (.number 7), ⟨1, [255, 1]⟩), (.error (.lengthCut 1), ⟨1, [255, 1]⟩)]⟩
    w ∈ reached bs moves ∧ Trail (ofBytes [7, 255, 1]) w.asked w.answered w.cursor ∧
      w.answered = run w.asked [7, 255, 1] ∧
      ∀ c ∈ w.cursor :: w.answered.map Prod.snd, c.position + c.remaining = 3 := by
  intro bs moves w
  have hw : w ∈ reached bs moves := List.mem_of_getElem? (i := 1) rfl
  obtain ⟨-, hplaces, htrail, halone, -⟩ := reads_confined bs moves w hw
  exact ⟨hw, htrail, halone, fun c hc => (hplaces c hc).2⟩

end Window

end Cursor

end FlowIntake
