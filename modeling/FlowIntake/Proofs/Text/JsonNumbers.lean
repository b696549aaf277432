/-
# The numbers of a JSON text

Whole numbers and finite doubles are written as the grammar of numbers has it.

* `Json.Numeral`: a text that is a number and nothing else;
* `Json.numeral_int`, `Json.numeral_double`: what is written is one.
-/
import FlowIntake.Proofs.Decimal.Digits
import FlowIntake.Proofs.Text.JsonReader
import FlowIntake.Text.Json

namespace FlowIntake.Json

open Decimal (Leading)

/-! ## 1. The parts of a number -/

theorem isDigits_iff {ds : List Char} :
    isDigits ds = true ↔ ds ≠ [] ∧ ∀ c ∈ ds, c.isDigit = true := by
  simp [isDigits]

/-- Digits that do not begin with zero are a whole part. -/
theorem isWhole_of_leading {ds : List Char} (h : Leading ds) : isWhole ds = true := by
  have hdigits : isDigits ds = true := isDigits_iff.2 ⟨h.nonempty, h.digits⟩
  have hhead := h.head
  simp [isWhole, hdigits, hhead]

/-- What follows a run of digits and begins with none. -/
def Breaks (rest : List Char) : Prop := ∀ c ∈ rest.head?, c.isDigit = false

theorem breaks_nil : Breaks [] := by
  simp [Breaks]

theorem breaks_cons {c : Char} {cs : List Char} (h : c.isDigit = false) : Breaks (c :: cs) := by
  intro d hd
  rw [List.head?_cons, Option.mem_some_iff] at hd
  rwa [← hd]

theorem takeWhile_digits {ds rest : List Char} (hds : ∀ c ∈ ds, c.isDigit = true)
    (hrest : Breaks rest) : (ds ++ rest).takeWhile Char.isDigit = ds := by
  rw [List.takeWhile_append_of_pos hds]
  cases rest with
  | nil => simp
  | cons c cs => simp [hrest c rfl]

theorem dropWhile_digits {ds rest : List Char} (hds : ∀ c ∈ ds, c.isDigit = true)
    (hrest : Breaks rest) : (ds ++ rest).dropWhile Char.isDigit = rest := by
  rw [List.dropWhile_append_of_pos hds]
  cases rest with
  | nil => rfl
  | cons c cs => simp [hrest c rfl]

/-- A point and digits may stand before an exponent. -/
theorem isFraction_point {ds rest : List Char} (hds : isDigits ds = true) (hrest : Breaks rest)
    (h : isExponent rest = true) : isFraction ('.' :: (ds ++ rest)) = true := by
  have hall := (isDigits_iff.1 hds).2
  simp [isFraction, takeWhile_digits hall hrest, dropWhile_digits hall hrest, hds, h]

/-- A point and digits may end a number. -/
theorem isFraction_digits {ds : List Char} (hds : isDigits ds = true) :
    isFraction ('.' :: ds) = true := by
  have hpoint := isFraction_point hds breaks_nil rfl
  rwa [List.append_nil] at hpoint

/-- A whole part and what may follow it make a number. -/
theorem isUnsigned_append {ds rest : List Char} (hds : isWhole ds = true) (hrest : Breaks rest)
    (h : isFraction rest = true) : isUnsigned (ds ++ rest) = true := by
  have hdigits : isDigits ds = true := by
    rw [isWhole, Bool.and_eq_true] at hds
    exact hds.1
  have hall := (isDigits_iff.1 hdigits).2
  simp [isUnsigned, takeWhile_digits hall hrest, dropWhile_digits hall hrest, hds, h]

/-- A number without a sign begins with a digit. -/
theorem head_of_isUnsigned {cs : List Char} (h : isUnsigned cs = true) :
    ∃ c rest, cs = c :: rest ∧ c.isDigit = true := by
  have hwhole : isWhole (cs.takeWhile Char.isDigit) = true := by
    rw [isUnsigned, Bool.and_eq_true] at h
    exact h.1
  cases cs with
  | nil => simp [isWhole, isDigits] at hwhole
  | cons c rest =>
    cases hc : c.isDigit with
    | true => exact ⟨c, rest, rfl, hc⟩
    | false => simp [isWhole, isDigits, hc] at hwhole

theorem isNumber_of_isUnsigned {cs : List Char} (h : isUnsigned cs = true) :
    isNumber cs = true := by
  obtain ⟨c, rest, rfl, hc⟩ := head_of_isUnsigned h
  have hminus : c ≠ '-' := by
    rintro rfl
    exact absurd hc (by decide)
  rw [isNumber]
  · exact h
  · intro cs' heq
    exact hminus (List.cons.inj heq).1

/-- Digits alone are a number, if they do not begin with zero. -/
theorem isUnsigned_of_leading {ds : List Char} (h : Leading ds) : isUnsigned ds = true := by
  have happend := isUnsigned_append (isWhole_of_leading h) breaks_nil rfl
  rwa [List.append_nil] at happend

/-! ## 2. Numbers as words -/

theorem isWord_of_isDigit {c : Char} (h : c.isDigit = true) : isWord c = true := by
  simp [isWord, Char.isAlphanum, h]

/-- A number in the characters of words. -/
structure Numeral (cs : List Char) : Prop where
  number : isNumber cs = true
  words : ∀ c ∈ cs, isWord c = true

/-- No name is a number. -/
theorem Numeral.word? {cs : List Char} (h : Numeral cs) :
    word? cs = some (.number (String.ofList cs)) := by
  have hname : ∀ name : List Char, isNumber name = false → cs ≠ name := by
    rintro name hname rfl
    rw [h.number] at hname
    cases hname
  rw [Json.word?, if_neg (hname _ (by decide)), if_neg (hname _ (by decide)),
    if_neg (hname _ (by decide)), if_pos h.number]

/-- A number without its sign, in the characters of words. -/
structure Magnitude (cs : List Char) : Prop where
  number : isUnsigned cs = true
  words : ∀ c ∈ cs, isWord c = true

/-- A number may have a sign in front. -/
theorem Magnitude.numeral {cs : List Char} (h : Magnitude cs) (negative : Bool) :
    Numeral ((if negative then ['-'] else []) ++ cs) := by
  cases negative with
  | false => exact ⟨isNumber_of_isUnsigned h.number, h.words⟩
  | true =>
    refine ⟨h.number, fun c hc => ?_⟩
    rcases List.mem_cons.1 hc with rfl | hc
    · rfl
    · exact h.words c hc

theorem magnitude_toDigits (n : Nat) : Magnitude (Nat.toDigits 10 n) where
  number := by
    rcases Nat.eq_zero_or_pos n with rfl | hn
    · rfl
    · exact isUnsigned_of_leading (Decimal.leading_toDigits hn)
  words := fun _ hc => isWord_of_isDigit (Nat.isDigit_of_mem_toDigits (by decide) (by decide) hc)

/-- **A whole number is written as a number.** -/
theorem numeral_int (i : Int) : Numeral (toString i).toList := by
  rw [Int.toString_eq_repr, Int.repr_eq_if]
  split
  · rw [Nat.toList_repr]
    exact (magnitude_toDigits _).numeral false
  · rw [String.toList_append, Nat.toList_repr]
    exact (magnitude_toDigits _).numeral true

/-! ## 3. Doubles -/

theorem isDigit_of_mem_zeros {n : Nat} {c : Char} (hc : c ∈ Decimal.zeros n) :
    c.isDigit = true := by
  rw [List.eq_of_mem_replicate hc]
  rfl

/-- The digits of a number with a point before some of them. -/
theorem magnitude_point {ds es : List Char} (h : isWhole ds = true) (hes : isDigits es = true) :
    Magnitude (ds ++ '.' :: es) where
  number := isUnsigned_append h (breaks_cons rfl) (isFraction_digits hes)
  words := by
    have hds : ∀ c ∈ ds, c.isDigit = true := (isDigits_iff.1 (Bool.and_eq_true_iff.1 h).1).2
    refine List.forall_mem_append.2 ⟨fun c hc => isWord_of_isDigit (hds c hc), ?_⟩
    refine List.forall_mem_cons.2 ⟨rfl, fun c hc => isWord_of_isDigit ?_⟩
    exact (isDigits_iff.1 hes).2 c hc

/-- Digits with the point where the exponent puts it. -/
theorem magnitude_positional {ds : List Char} (h : Leading ds) (first : Int) :
    Magnitude (numberStyle.positional ds first) := by
  simp only [Decimal.Style.positional]
  split
  · -- Below one: a zero, the point, zeros and the digits.
    have hes : isDigits (Decimal.zeros (-first - 1).toNat ++ ds) = true :=
      isDigits_iff.2 ⟨List.append_ne_nil_of_right_ne_nil _ h.nonempty,
        List.forall_mem_append.2 ⟨fun _ => isDigit_of_mem_zeros, h.digits⟩⟩
    have hzero : isWhole ['0'] = true := rfl
    exact magnitude_point hzero hes
  · by_cases hlong : ds.length ≤ first.toNat + 1
    · rw [if_pos hlong]
      have hwhole := h.append fun c => isDigit_of_mem_zeros (n := first.toNat + 1 - ds.length)
      have hzero : isDigits ['0'] = true := rfl
      exact magnitude_point (isWhole_of_leading hwhole) hzero
    · rw [if_neg hlong]
      have htake : ds.take (first.toNat + 1) ≠ [] := by
        simp [h.nonempty]
      have hdrop : ds.drop (first.toNat + 1) ≠ [] := by
        simpa using hlong
      have hes : isDigits (ds.drop (first.toNat + 1)) = true :=
        isDigits_iff.2 ⟨hdrop, fun c hc => h.digits c (List.mem_of_mem_drop hc)⟩
      exact magnitude_point (isWhole_of_leading (h.of_prefix (List.take_prefix _ _) htake)) hes

/-- The exponent of a number, with its sign. -/
def exponentText (first : Int) : List Char :=
  'e' :: (if first < 0 then '-' else '+') :: Nat.toDigits 10 first.natAbs

theorem isExponent_exponentText (first : Int) : isExponent (exponentText first) = true := by
  have hdigits : isDigits (Nat.toDigits 10 first.natAbs) = true :=
    isDigits_iff.2 ⟨Nat.toDigits_ne_nil,
      fun c hc => Nat.isDigit_of_mem_toDigits (by decide) (by decide) hc⟩
  rw [exponentText]
  split
  · exact hdigits
  · exact hdigits

theorem isWord_exponentText (first : Int) : ∀ c ∈ exponentText first, isWord c = true := by
  refine List.forall_mem_cons.2 ⟨rfl, List.forall_mem_cons.2 ⟨?_, (magnitude_toDigits _).words⟩⟩
  split
  · rfl
  · rfl

theorem breaks_exponentText (first : Int) : Breaks (exponentText first) := breaks_cons rfl

/-- One digit, the others after a point, and the exponent. -/
theorem magnitude_scientific {ds : List Char} (h : Leading ds) (first : Int) :
    Magnitude (Decimal.scientific ds first) := by
  have htake : ds.take 1 ≠ [] := by
    simp [h.nonempty]
  have hone : isWhole (ds.take 1) = true :=
    isWhole_of_leading (h.of_prefix (List.take_prefix _ _) htake)
  have hwords : ∀ c ∈ ds, isWord c = true := fun c hc => isWord_of_isDigit (h.digits c hc)
  have hfirst : ∀ c ∈ ds.take 1, isWord c = true := fun c hc => hwords c (List.mem_of_mem_take hc)
  by_cases hlong : ds.length ≤ 1
  · have hlayout : Decimal.scientific ds first = ds.take 1 ++ exponentText first := by
      simp [Decimal.scientific, exponentText, hlong]
    rw [hlayout]
    exact ⟨isUnsigned_append hone (breaks_exponentText first) (isExponent_exponentText first),
      List.forall_mem_append.2 ⟨hfirst, isWord_exponentText first⟩⟩
  · have hlayout : Decimal.scientific ds first =
        ds.take 1 ++ '.' :: (ds.drop 1 ++ exponentText first) := by
      simp [Decimal.scientific, exponentText, hlong]
    have hdrop : ds.drop 1 ≠ [] := by
      simpa only [ne_eq, List.drop_eq_nil_iff] using hlong
    have hrest : isDigits (ds.drop 1) = true :=
      isDigits_iff.2 ⟨hdrop, fun c hc => h.digits c (List.mem_of_mem_drop hc)⟩
    have hfraction : isFraction ('.' :: (ds.drop 1 ++ exponentText first)) = true :=
      isFraction_point hrest (breaks_exponentText first) (isExponent_exponentText first)
    rw [hlayout]
    refine ⟨isUnsigned_append hone (breaks_cons rfl) hfraction, ?_⟩
    refine List.forall_mem_append.2 ⟨hfirst, List.forall_mem_cons.2 ⟨rfl, ?_⟩⟩
    exact List.forall_mem_append.2
      ⟨fun c hc => hwords c (List.mem_of_mem_drop hc), isWord_exponentText first⟩

/-- Either layout, whichever is taken. -/
theorem magnitude_layout {ds : List Char} (h : Leading ds) (first : Int) (plain : Bool) :
    Magnitude (if plain then numberStyle.positional ds first else Decimal.scientific ds first) := by
  cases plain with
  | true => exact magnitude_positional h first
  | false => exact magnitude_scientific h first

/-- **A finite double is written as a number.** -/
theorem numeral_double {bits : UInt64} {negative : Bool} {mantissa : Nat} {exponent : Int}
    {lowEdge : Bool} (h : Binary64.classify bits = .finite negative mantissa exponent lowEdge) :
    Numeral (numberStyle.text bits).toList := by
  rw [Decimal.Style.text, h]
  dsimp only
  split
  · rw [String.toList_ofList]
    exact (⟨rfl, List.all_eq_true.mp rfl⟩ : Magnitude ['0', '.', '0']).numeral negative
  · next hmantissa =>
    have hdigits := Decimal.leading_shortest hmantissa exponent lowEdge numberStyle.tieToEven
    rw [String.toList_ofList]
    exact (magnitude_layout hdigits _ _).numeral negative

end FlowIntake.Json
