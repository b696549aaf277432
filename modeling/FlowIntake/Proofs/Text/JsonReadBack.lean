/-
# JSON reads back

The reader gives back what was written: each value, whatever its strings hold, and nothing is
left of its text.

* `Json.character?_escape`: an escaped character reads as itself;
* `Json.reading`: what the text of a value says;
* `Json.read?_text`: the text of a value reads as that.
-/
import FlowIntake.Proofs.Text.JsonNumbers

namespace FlowIntake.Json

/-! ## 1. Strings -/

theorem digitValue?_digit : ∀ n < 16, Hex.digitValue? (Hex.digit n) = some n := by decide

/-- The character of a code unit below the surrogates. -/
theorem unit?_digits {n : Nat} (hn : n < 0x100) (rest : List Char) :
    unit? ('0' :: '0' :: (Hex.padded 2 n ++ rest)) = some (Char.ofNat n, rest) := by
  have hhigh := digitValue?_digit (n / 16 % 16) (by omega)
  have hlow := digitValue?_digit (n % 16) (by omega)
  have hzero : Hex.digitValue? '0' = some 0 := rfl
  have hvalue : n / 16 % 16 * 16 + n % 16 = n := by omega
  have hplain : n < 0xD800 := by omega
  simp [unit?, fourDigits?, Hex.padded, hhigh, hlow, hzero, hvalue, hplain]

/-- **An escaped character reads as itself**, whatever follows it. -/
theorem character?_escape (c : Char) (rest : List Char) :
    character? (Quoted.escape c ++ rest) = some (c, rest) := by
  rw [Quoted.escape]
  split
  · next h => subst h; rfl
  split
  · next h => subst h; rfl
  split
  · next h => subst h; rfl
  split
  · next h => subst h; rfl
  split
  · next h => subst h; rfl
  split
  · next h => subst h; rfl
  split
  · next h => subst h; rfl
  split
  · next hcontrol =>
    have hn : c.toNat < 0x20 := hcontrol
    have hunit := unit?_digits (n := c.toNat) (by omega) rest
    rw [Char.ofNat_toNat] at hunit
    exact hunit
  · next hquote hbackslash _ _ _ _ _ hcontrol =>
    simp [character?, hquote, hbackslash, hcontrol]

/-- An escaped character does not begin with a quote. -/
theorem head_escape (c : Char) : ∃ d cs, Quoted.escape c = d :: cs ∧ d ≠ '"' := by
  fun_cases Quoted.escape c with
  | case9 hquote => exact ⟨c, [], rfl, hquote⟩
  | case8 => exact ⟨'\\', _, rfl, by decide⟩
  | _ => exact ⟨'\\', _, rfl, by decide⟩

theorem length_escape_pos (c : Char) : 0 < (Quoted.escape c).length := by
  obtain ⟨d, cs, h, -⟩ := head_escape c
  simp [h]

/-- The characters of a string read back, up to the closing quote. -/
theorem characters?_escape (cs rest : List Char) {fuel : Nat} (hfuel : cs.length < fuel) :
    characters? fuel (cs.flatMap Quoted.escape ++ '"' :: rest) = some (cs, rest) := by
  induction cs generalizing fuel with
  | nil =>
    cases fuel with
    | zero => omega
    | succ fuel => rfl
  | cons c cs ih =>
    cases fuel with
    | zero => omega
    | succ fuel =>
      obtain ⟨d, ds, hescape, hd⟩ := head_escape c
      have hhead : ((c :: cs).flatMap Quoted.escape ++ '"' :: rest).head? ≠ some '"' := by
        simpa [hescape] using hd
      have hlt : cs.length < fuel := by simpa using hfuel
      have hrest := ih hlt
      rw [characters?, if_neg hhead, List.flatMap_cons, List.append_assoc, character?_escape]
      simp [hrest]

/-- A quoted text reads back. -/
theorem string?_encode (s : String) (rest : List Char) {fuel : Nat} (hfuel : s.length < fuel) :
    string? fuel ((Quoted.encode s).toList ++ rest) = some (s, rest) := by
  have hcharacters := characters?_escape s.toList rest (hfuel : s.toList.length < fuel)
  have htext : (Quoted.encode s).toList ++ rest =
      '"' :: (s.toList.flatMap Quoted.escape ++ '"' :: rest) := by
    simp [Quoted.encode]
  have hsign : sign? '"' ('"' :: (s.toList.flatMap Quoted.escape ++ '"' :: rest)) =
      some (s.toList.flatMap Quoted.escape ++ '"' :: rest) := rfl
  simp [string?, htext, hsign, hcharacters]

/-- A quoted text is longer than what it quotes. -/
theorem length_encode (s : String) : s.length + 2 ≤ (Quoted.encode s).length := by
  have hflat : s.toList.length ≤ (s.toList.flatMap Quoted.escape).length := by
    generalize s.toList = cs
    induction cs with
    | nil => simp
    | cons c cs ih =>
      have hpos := length_escape_pos c
      rw [List.flatMap_cons, List.length_append, List.length_cons]
      omega
  rw [String.length_toList] at hflat
  simp only [Quoted.encode, String.length_ofList, List.length_cons, List.length_append,
    List.length_nil]
  omega

/-! ## 2. What the text of a value says -/

/-- Induction over values: what holds of the values inside an array or an object may be used. -/
@[elab_as_elim]
theorem induction {motive : Json → Prop} (null : motive null) (bool : ∀ b, motive (bool b))
    (int : ∀ i, motive (int i)) (double : ∀ bits, motive (double bits))
    (string : ∀ s, motive (string s))
    (array : ∀ items, (∀ j ∈ items, motive j) → motive (array items))
    (object : ∀ members, (∀ m ∈ members, motive m.2) → motive (object members)) :
    (j : Json) → motive j
  | .null => null
  | .bool b => bool b
  | .int i => int i
  | .double bits => double bits
  | .string s => string s
  | .array items => array items fun j _ => induction null bool int double string array object j
  | .object members =>
    object members fun m _ => induction null bool int double string array object m.2
decreasing_by
  · have hlt := List.sizeOf_lt_of_mem ‹j ∈ items›
    rw [Json.array.sizeOf_spec]
    omega
  · have hlt := List.sizeOf_lt_of_mem ‹m ∈ members›
    rw [Json.object.sizeOf_spec]
    cases m
    simp only [Prod.mk.sizeOf_spec] at hlt ⊢
    omega

mutual

/-- What the text of a value says.  A double that is no number is written as nothing. -/
def reading : Json → Reading
  | null => .null
  | bool b => .bool b
  | int i => .number (toString i)
  | double bits =>
    match Binary64.classify bits with
    | .finite .. => .number (numberStyle.text bits)
    | _ => .null
  | string s => .string s
  | array items => .array (itemReadings items)
  | object members => .object (memberReadings members)

/-- What the text of each item says. -/
def itemReadings : List Json → List Reading
  | [] => []
  | j :: js => reading j :: itemReadings js

/-- The name of each member and what the text of its value says. -/
def memberReadings : List (String × Json) → List (String × Reading)
  | [] => []
  | (k, j) :: ms => (k, reading j) :: memberReadings ms

end

theorem itemReadings_eq_map (js : List Json) : itemReadings js = js.map reading := by
  induction js with
  | nil => rfl
  | cons j js ih => rw [itemReadings, ih, List.map_cons]

theorem memberReadings_eq_map (ms : List (String × Json)) :
    memberReadings ms = ms.map fun m => (m.1, m.2.reading) := by
  induction ms with
  | nil => rfl
  | cons m ms ih => rw [memberReadings, ih, List.map_cons]

@[simp] theorem reading_bool (b : Bool) : reading (bool b) = .bool b := by
  rw [reading]

@[simp] theorem reading_natCast (n : Nat) : reading (int n) = .number (toString n) := by
  rw [reading]
  rfl

@[simp] theorem reading_string (s : String) : reading (string s) = .string s := by
  rw [reading]

@[simp] theorem reading_array (items : List Json) :
    reading (array items) = .array (items.map reading) := by
  rw [reading, itemReadings_eq_map]

@[simp] theorem reading_object (members : List (String × Json)) :
    reading (object members) = .object (members.map fun m => (m.1, m.2.reading)) := by
  rw [reading, memberReadings_eq_map]

/-! ## 3. Values -/

/-- What may follow a word. -/
def Ends (rest : List Char) : Prop := ∀ c ∈ rest.head?, isWord c = false

theorem ends_nil : Ends [] := by
  simp [Ends]

theorem ends_cons {c : Char} {cs : List Char} (h : isWord c = false) : Ends (c :: cs) := by
  intro d hd
  rw [List.head?_cons, Option.mem_some_iff] at hd
  rwa [← hd]

theorem skip_cons {c : Char} {cs : List Char} (h : isBlank c = false) : skip (c :: cs) = c :: cs := by
  simp [skip, h]

theorem sign?_same {c : Char} {cs : List Char} (h : isBlank c = false) :
    sign? c (c :: cs) = some cs := by
  simp [sign?, skip_cons h]

theorem sign?_other {c d : Char} {cs : List Char} (hd : isBlank d = false) (h : c ≠ d) :
    sign? c (d :: cs) = none := by
  simp [sign?, skip_cons hd, h]

theorem not_isBlank_of_isWord {c : Char} (h : isWord c = true) : isBlank c = false := by
  by_contra hblank
  simp only [isBlank, Bool.not_eq_false, Bool.or_eq_true, beq_iff_eq] at hblank
  rcases hblank with ((rfl | rfl) | rfl) | rfl <;> exact absurd h (by decide)

/-- A word is a value. -/
theorem value?_word {w : List Char} {v : Reading} (hw : word? w = some v)
    (hall : ∀ c ∈ w, isWord c = true) {rest : List Char} (hrest : Ends rest) (fuel : Nat) :
    value? (fuel + 1) (w ++ rest) = some (v, rest) := by
  cases w with
  | nil => cases hw
  | cons c cs =>
    have hc := hall c List.mem_cons_self
    have htake : (c :: cs ++ rest).takeWhile isWord = c :: cs := by
      rw [List.takeWhile_append_of_pos hall]
      cases rest with
      | nil => simp
      | cons d ds => simp [hrest d rfl]
    have hdrop : (c :: cs ++ rest).dropWhile isWord = rest := by
      rw [List.dropWhile_append_of_pos hall]
      cases rest with
      | nil => rfl
      | cons d ds => simp [hrest d rfl]
    have hskip : skip (c :: cs ++ rest) = c :: cs ++ rest :=
      skip_cons (not_isBlank_of_isWord hc)
    rw [value?, hskip]
    split
    · next heq => 
      rw [(List.cons.inj heq).1] at hc
      exact absurd hc (by decide)
    · next heq => 
      rw [(List.cons.inj heq).1] at hc
      exact absurd hc (by decide)
    · next heq => 
      rw [(List.cons.inj heq).1] at hc
      exact absurd hc (by decide)
    · rw [htake, hdrop, hw]
      rfl

/-- A quoted text is a value. -/
theorem value?_encode (s : String) (rest : List Char) {fuel : Nat} (hfuel : s.length < fuel) :
    value? (fuel + 1) ((Quoted.encode s).toList ++ rest) = some (.string s, rest) := by
  have hstring := string?_encode s rest hfuel
  obtain ⟨cs, hcs⟩ : ∃ cs, (Quoted.encode s).toList ++ rest = '"' :: cs := by
    simp [Quoted.encode]
  rw [hcs] at hstring ⊢
  simp [value?, skip_cons, isBlank, hstring]

/-- What a value begins with: no blank and no sign that ends something. -/
def Begins (cs : List Char) : Prop :=
  ∃ c rest, cs = c :: rest ∧ isBlank c = false ∧ c ≠ ']' ∧ c ≠ '\x7d'

theorem begins_word {w : List Char} {v : Reading} (hw : word? w = some v)
    (hall : ∀ c ∈ w, isWord c = true) : Begins w := by
  cases w with
  | nil => cases hw
  | cons c cs =>
    have hc := hall c List.mem_cons_self
    refine ⟨c, cs, rfl, not_isBlank_of_isWord hc, ?_, ?_⟩
    · rintro rfl
      exact absurd hc (by decide)
    · rintro rfl
      exact absurd hc (by decide)

theorem Begins.append {cs : List Char} (h : Begins cs) (rest : List Char) : Begins (cs ++ rest) := by
  obtain ⟨c, ds, rfl, hc⟩ := h
  exact ⟨c, ds ++ rest, rfl, hc⟩

theorem Begins.length_pos {cs : List Char} (h : Begins cs) : 0 < cs.length := by
  obtain ⟨c, rest, rfl, -⟩ := h
  exact Nat.succ_pos _

theorem Begins.no_brace {cs : List Char} (h : Begins cs) : sign? '\x7d' cs = none := by
  obtain ⟨c, rest, rfl, hblank, -, hbrace⟩ := h
  exact sign?_other hblank hbrace.symm

theorem Begins.no_bracket {cs : List Char} (h : Begins cs) : sign? ']' cs = none := by
  obtain ⟨c, rest, rfl, hblank, hbracket, -⟩ := h
  exact sign?_other hblank hbracket.symm

/-- A value whose text is one word. -/
structure IsWord (j : Json) : Prop where
  word : word? j.text.toList = some j.reading
  words : ∀ c ∈ j.text.toList, isWord c = true

theorem isWord_null : IsWord null := ⟨rfl, List.all_eq_true.mp rfl⟩

theorem isWord_bool (b : Bool) : IsWord (bool b) := by
  cases b with
  | false => exact ⟨rfl, List.all_eq_true.mp rfl⟩
  | true => exact ⟨rfl, List.all_eq_true.mp rfl⟩

theorem isWord_int (i : Int) : IsWord (int i) where
  word := by
    have hword := (numeral_int i).word?
    rwa [String.ofList_toList] at hword
  words := (numeral_int i).words

/-- A double is written as a number or, when it is none, as the name of nothing. -/
theorem isWord_double (bits : UInt64) : IsWord (double bits) := by
  have hnull (htext : text (double bits) = "null") (hreading : reading (double bits) = .null) :
      IsWord (double bits) := by
    refine ⟨?_, ?_⟩
    · rw [htext, hreading]
      rfl
    · rw [htext]
      exact List.all_eq_true.mp rfl
  cases hclass : Binary64.classify bits with
  | finite negative mantissa exponent lowEdge =>
    have hnumeral := numeral_double hclass
    refine ⟨?_, hnumeral.words⟩
    rw [text, hnumeral.word?, String.ofList_toList, reading, hclass]
  | nan =>
    refine hnull ?_ ?_
    · rw [text, Decimal.Style.text, hclass]
      rfl
    · rw [reading, hclass]
  | infinite negative =>
    refine hnull ?_ ?_
    · rw [text, Decimal.Style.text, hclass]
      rfl
    · rw [reading, hclass]

theorem IsWord.begins {j : Json} (h : IsWord j) : Begins j.text.toList := begins_word h.word h.words

theorem begins_text (j : Json) : Begins j.text.toList := by
  cases j with
  | null => exact isWord_null.begins
  | bool b => exact (isWord_bool b).begins
  | int i => exact (isWord_int i).begins
  | double bits => exact (isWord_double bits).begins
  | string s =>
    refine ⟨'"', s.toList.flatMap Quoted.escape ++ ['"'], ?_, by decide⟩
    simp [text, Quoted.encode]
  | array items =>
    refine ⟨'[', (",".intercalate (itemTexts items)).toList ++ [']'], ?_, by decide⟩
    simp [text]
  | object members =>
    refine ⟨'\x7b', (",".intercalate (memberTexts members)).toList ++ ['\x7d'], ?_, by decide⟩
    simp [text]

/-- A value whose text reads back wherever it stands. -/
def ReadsBack (j : Json) : Prop :=
  ∀ ⦃rest : List Char⦄ ⦃fuel : Nat⦄, Ends rest → j.text.toList.length ≤ fuel →
    value? fuel (j.text.toList ++ rest) = some (j.reading, rest)

theorem IsWord.readsBack {j : Json} (h : IsWord j) : ReadsBack j := by
  intro rest fuel hrest hfuel
  have hpos := (begins_text j).length_pos
  obtain ⟨fuel, rfl⟩ : ∃ n, fuel = n + 1 := ⟨fuel - 1, by omega⟩
  exact value?_word h.word h.words hrest fuel

theorem readsBack_string (s : String) : ReadsBack (string s) := by
  intro rest fuel _ hfuel
  have hlength := length_encode s
  rw [text, String.length_toList] at hfuel
  obtain ⟨fuel, rfl⟩ : ∃ n, fuel = n + 1 := ⟨fuel - 1, by omega⟩
  exact value?_encode s rest (by omega)

/-! ## 4. Arrays -/

/-- The items of an array as they stand between the brackets. -/
def itemsText (js : List Json) : List Char := [','].intercalate (js.map fun j => j.text.toList)

theorem toList_text_array (js : List Json) :
    (array js).text.toList = '[' :: (itemsText js ++ [']']) := by
  have hmap : (itemTexts js).map String.toList = js.map fun j => j.text.toList := by
    induction js with
    | nil => rfl
    | cons j js ih => rw [itemTexts, List.map_cons, ih, List.map_cons]
  simp [text, String.toList_intercalate, hmap, itemsText]

theorem itemsText_single (j : Json) : itemsText [j] = j.text.toList := by
  simp [itemsText]

theorem itemsText_cons (j next : Json) (js : List Json) :
    itemsText (j :: next :: js) = j.text.toList ++ ',' :: itemsText (next :: js) := by
  simp [itemsText, List.intercalate_cons_cons]

theorem begins_itemsText (j : Json) (js : List Json) : Begins (itemsText (j :: js)) := by
  cases js with
  | nil =>
    rw [itemsText_single]
    exact begins_text j
  | cons next js =>
    rw [itemsText_cons]
    exact (begins_text j).append _

/-- One item reads back; the sign after it says whether another one follows. -/
theorem items?_item {j : Json} (hj : ReadsBack j) {rest : List Char} (hrest : Ends rest)
    {fuel : Nat} (hfuel : j.text.toList.length ≤ fuel) :
    items? (fuel + 1) (j.text.toList ++ rest) =
      match sign? ']' rest with
      | some cs => some ([j.reading], cs)
      | none => (sign? ',' rest).bind fun cs =>
        (items? fuel cs).bind fun (js, cs) => some (j.reading :: js, cs) := by
  rw [items?, hj hrest hfuel]
  rfl

/-- Items that read back one by one do so together, up to the closing bracket. -/
theorem items?_text {j : Json} {js : List Json} (hjs : ∀ i ∈ j :: js, ReadsBack i)
    (rest : List Char) {fuel : Nat} (hfuel : (itemsText (j :: js)).length < fuel) :
    items? fuel (itemsText (j :: js) ++ ']' :: rest) = some (itemReadings (j :: js), rest) := by
  obtain ⟨fuel, rfl⟩ : ∃ n, fuel = n + 1 := ⟨fuel - 1, by omega⟩
  have hj := hjs j List.mem_cons_self
  induction js generalizing j fuel with
  | nil =>
    rw [itemsText_single] at hfuel ⊢
    have hclose : sign? ']' (']' :: rest) = some rest := sign?_same rfl
    rw [items?_item hj (ends_cons rfl) (by omega), hclose]
    rfl
  | cons next js ih =>
    rw [itemsText_cons, List.length_append, List.length_cons] at hfuel
    obtain ⟨fuel, rfl⟩ : ∃ n, fuel = n + 1 := ⟨fuel - 1, by
      have hpos := (begins_text j).length_pos
      omega⟩
    have hitems := ih (fun i hi => hjs i (List.mem_cons_of_mem j hi)) fuel (by omega)
      (hjs next (by simp))
    have hopen (cs : List Char) : sign? ']' (',' :: cs) = none := sign?_other rfl (by decide)
    have hcomma (cs : List Char) : sign? ',' (',' :: cs) = some cs := sign?_same rfl
    rw [itemsText_cons, List.append_assoc, List.cons_append,
      items?_item hj (ends_cons rfl) (by omega), hopen, hcomma, Option.bind_some, hitems]
    rfl

theorem readsBack_array {items : List Json} (h : ∀ j ∈ items, ReadsBack j) :
    ReadsBack (array items) := by
  intro rest fuel _ hfuel
  rw [toList_text_array] at hfuel ⊢
  rw [List.length_cons, List.length_append, List.length_singleton] at hfuel
  obtain ⟨fuel, rfl⟩ : ∃ n, fuel = n + 1 := ⟨fuel - 1, by omega⟩
  rw [List.cons_append, List.append_assoc, List.singleton_append, value?, skip_cons rfl]
  cases items with
  | nil =>
    have hclose : sign? ']' (']' :: rest) = some rest := sign?_same rfl
    simp [itemsText, hclose, reading, itemReadings]
  | cons j js =>
    have hopen := ((begins_itemsText j js).append (']' :: rest)).no_bracket
    have hlt : (itemsText (j :: js)).length < fuel := by omega
    have hitems := items?_text h rest hlt
    simp [hopen, hitems, reading]

/-! ## 5. Objects -/

/-- A member as it stands in an object. -/
def memberText (m : String × Json) : List Char := (Quoted.encode m.1).toList ++ ':' :: m.2.text.toList

/-- The members of an object as they stand between the braces. -/
def membersText (ms : List (String × Json)) : List Char := [','].intercalate (ms.map memberText)

theorem toList_text_object (ms : List (String × Json)) :
    (object ms).text.toList = '\x7b' :: (membersText ms ++ ['\x7d']) := by
  have hmap : (memberTexts ms).map String.toList = ms.map memberText := by
    induction ms with
    | nil => rfl
    | cons m ms ih =>
      rw [memberTexts, List.map_cons, ih, List.map_cons]
      simp [memberText]
  simp [text, String.toList_intercalate, hmap, membersText]

theorem membersText_single (m : String × Json) : membersText [m] = memberText m := by
  simp [membersText]

theorem membersText_cons (m next : String × Json) (ms : List (String × Json)) :
    membersText (m :: next :: ms) = memberText m ++ ',' :: membersText (next :: ms) := by
  simp [membersText, List.intercalate_cons_cons]

theorem begins_memberText (m : String × Json) : Begins (memberText m) := by
  refine ⟨'"', m.1.toList.flatMap Quoted.escape ++ '"' :: ':' :: m.2.text.toList, ?_, by decide⟩
  simp [memberText, Quoted.encode]

theorem begins_membersText (m : String × Json) (ms : List (String × Json)) :
    Begins (membersText (m :: ms)) := by
  cases ms with
  | nil =>
    rw [membersText_single]
    exact begins_memberText m
  | cons next ms =>
    rw [membersText_cons]
    exact (begins_memberText m).append _

/-- One member reads back; the sign after it says whether another one follows. -/
theorem members?_memberText {m : String × Json} (hm : ReadsBack m.2) {rest : List Char}
    (hrest : Ends rest) {fuel : Nat} (hfuel : (memberText m).length ≤ fuel) :
    members? (fuel + 1) (memberText m ++ rest) =
      match sign? '\x7d' rest with
      | some cs => some ([(m.1, m.2.reading)], cs)
      | none => (sign? ',' rest).bind fun cs =>
        (members? fuel cs).bind fun (ms, cs) => some ((m.1, m.2.reading) :: ms, cs) := by
  have hname := length_encode m.1
  have hcolon (cs : List Char) : sign? ':' (':' :: cs) = some cs := sign?_same rfl
  rw [memberText, List.length_append, List.length_cons, String.length_toList] at hfuel
  have hvalue := hm hrest (show m.2.text.toList.length ≤ fuel by omega)
  rw [memberText, List.append_assoc, List.cons_append, members?, string?_encode m.1 _ (by omega)]
  simp only [hcolon, hvalue, Option.bind_eq_bind, Option.bind_some]
  rfl

/-- Members whose values read back do so together, up to the closing brace. -/
theorem members?_text {m : String × Json} {ms : List (String × Json)}
    (hms : ∀ n ∈ m :: ms, ReadsBack n.2) (rest : List Char) {fuel : Nat}
    (hfuel : (membersText (m :: ms)).length < fuel) :
    members? fuel (membersText (m :: ms) ++ '\x7d' :: rest) =
      some (memberReadings (m :: ms), rest) := by
  obtain ⟨fuel, rfl⟩ : ∃ n, fuel = n + 1 := ⟨fuel - 1, by omega⟩
  have hm := hms m List.mem_cons_self
  induction ms generalizing m fuel with
  | nil =>
    rw [membersText_single] at hfuel ⊢
    have hclose : sign? '\x7d' ('\x7d' :: rest) = some rest := sign?_same rfl
    rw [members?_memberText hm (ends_cons rfl) (by omega), hclose]
    rfl
  | cons next ms ih =>
    rw [membersText_cons, List.length_append, List.length_cons] at hfuel
    obtain ⟨fuel, rfl⟩ : ∃ n, fuel = n + 1 := ⟨fuel - 1, by
      have hpos := (begins_memberText m).length_pos
      omega⟩
    have hmembers := ih (fun n hn => hms n (List.mem_cons_of_mem m hn)) fuel (by omega)
      (hms next (by simp))
    have hopen (cs : List Char) : sign? '\x7d' (',' :: cs) = none := sign?_other rfl (by decide)
    have hcomma (cs : List Char) : sign? ',' (',' :: cs) = some cs := sign?_same rfl
    rw [membersText_cons, List.append_assoc, List.cons_append,
      members?_memberText hm (ends_cons rfl) (by omega), hopen, hcomma, Option.bind_some, hmembers]
    rfl

theorem readsBack_object {members : List (String × Json)} (h : ∀ m ∈ members, ReadsBack m.2) :
    ReadsBack (object members) := by
  intro rest fuel _ hfuel
  rw [toList_text_object] at hfuel ⊢
  rw [List.length_cons, List.length_append, List.length_singleton] at hfuel
  obtain ⟨fuel, rfl⟩ : ∃ n, fuel = n + 1 := ⟨fuel - 1, by omega⟩
  rw [List.cons_append, List.append_assoc, List.singleton_append, value?, skip_cons rfl]
  cases members with
  | nil =>
    have hclose : sign? '\x7d' ('\x7d' :: rest) = some rest := sign?_same rfl
    simp [membersText, hclose, reading, memberReadings]
  | cons m ms =>
    have hopen := ((begins_membersText m ms).append ('\x7d' :: rest)).no_brace
    have hlt : (membersText (m :: ms)).length < fuel := by omega
    have hmembers := members?_text h rest hlt
    simp [hopen, hmembers, reading]

/-! ## 6. Whole texts -/

/-- Every value reads back: one case for each kind, the values inside it first. -/
theorem readsBack (j : Json) : ReadsBack j := by
  induction j using Json.induction with
  | null => exact isWord_null.readsBack
  | bool b => exact (isWord_bool b).readsBack
  | int i => exact (isWord_int i).readsBack
  | double bits => exact (isWord_double bits).readsBack
  | string s => exact readsBack_string s
  | array items ih => exact readsBack_array ih
  | object members ih => exact readsBack_object ih

/-- **The text of a value is JSON and says what the value is.** -/
theorem read?_text (j : Json) : read? j.text = some j.reading := by
  have hvalue := readsBack j ends_nil (Nat.le_of_eq String.length_toList)
  rw [List.append_nil] at hvalue
  simp [read?, hvalue, skip]

/-- Values of one text say the same. -/
theorem reading_eq_of_text {j k : Json} (h : j.text = k.text) : j.reading = k.reading := by
  have hj := read?_text j
  rw [h, read?_text k] at hj
  exact (Option.some.inj hj).symm

/-! ## 7. No control character -/

/-- Characters of which none is a control character below U+0020. -/
def Printed (cs : List Char) : Prop := ∀ c ∈ cs, ¬c < ' '

theorem printed_cons {c : Char} {cs : List Char} : Printed (c :: cs) ↔ ¬c < ' ' ∧ Printed cs :=
  List.forall_mem_cons

theorem printed_append {cs ds : List Char} : Printed (cs ++ ds) ↔ Printed cs ∧ Printed ds :=
  List.forall_mem_append

theorem Printed.intercalate {ls : List (List Char)} (h : ∀ l ∈ ls, Printed l) :
    Printed ([','].intercalate ls) := by
  induction ls with
  | nil => simp [Printed]
  | cons l ls ih =>
    cases ls with
    | nil => simpa using h l List.mem_cons_self
    | cons next ls =>
      rw [List.intercalate_cons_cons, printed_append, printed_append]
      exact ⟨⟨h l List.mem_cons_self, by simp [Printed]⟩,
        ih fun m hm => h m (List.mem_cons_of_mem l hm)⟩

theorem not_lt_of_isWord {c : Char} (h : isWord c = true) : ¬c < ' ' := by
  intro hlt
  have hn : c.toNat < 32 := hlt
  have hnone : ∀ n < 32, isWord (Char.ofNat n) = false := by decide
  have hc := hnone c.toNat hn
  rw [Char.ofNat_toNat, h] at hc
  cases hc

theorem IsWord.printed {j : Json} (h : IsWord j) : Printed j.text.toList :=
  fun c hc => not_lt_of_isWord (h.words c hc)

theorem not_digit_lt : ∀ n < 16, ¬Hex.digit n < ' ' := by decide

theorem printed_escape (c : Char) : Printed (Quoted.escape c) := by
  fun_cases Quoted.escape c with
  | case8 =>
    have hhigh := not_digit_lt (c.toNat / 16 % 16) (by omega)
    have hlow := not_digit_lt (c.toNat % 16) (by omega)
    simp only [Printed, Hex.padded, List.nil_append, List.cons_append, List.forall_mem_cons]
    exact ⟨by decide, by decide, by decide, by decide, hhigh, hlow, List.forall_mem_nil _⟩
  | case9 _ _ _ _ _ _ _ hcontrol => simpa [Printed] using hcontrol
  | _ => simp [Printed]

theorem printed_encode (s : String) : Printed (Quoted.encode s).toList := by
  have hchars : Printed (s.toList.flatMap Quoted.escape) := by
    intro c hc
    obtain ⟨d, -, hd⟩ := List.mem_flatMap.1 hc
    exact printed_escape d c hd
  rw [Quoted.encode, String.toList_ofList, List.cons_append, printed_cons, printed_append]
  exact ⟨by decide, hchars, by simp [Printed]⟩

theorem printed_memberText {m : String × Json} (h : Printed m.2.text.toList) :
    Printed (memberText m) :=
  printed_append.2 ⟨printed_encode m.1, printed_cons.2 ⟨by decide, h⟩⟩

/-- **The text of a value has no control character.** -/
theorem printed_text (j : Json) : Printed j.text.toList := by
  induction j using Json.induction with
  | null => exact isWord_null.printed
  | bool b => exact (isWord_bool b).printed
  | int i => exact (isWord_int i).printed
  | double bits => exact (isWord_double bits).printed
  | string s => exact printed_encode s
  | array items ih =>
    have hitems : Printed (itemsText items) := Printed.intercalate (List.forall_mem_map.2 ih)
    rw [toList_text_array, printed_cons, printed_append]
    exact ⟨by decide, hitems, by simp [Printed]⟩
  | object members ih =>
    have hmembers : Printed (membersText members) :=
      Printed.intercalate (List.forall_mem_map.2 fun m hm => printed_memberText (ih m hm))
    rw [toList_text_object, printed_cons, printed_append]
    exact ⟨by decide, hmembers, by simp [Printed]⟩

end FlowIntake.Json
