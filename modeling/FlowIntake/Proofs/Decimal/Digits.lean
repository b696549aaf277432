/-
# The digits of numbers

What the layouts of numbers rely on: a number other than zero begins with a digit other than
zero, and the shortest decimal of a double has such a number for its digits, however the search
for it ends.

* `Decimal.head_toDigits`: the first digit of a positive number;
* `Decimal.toDigits_injective`, `Decimal.repr_injective`, `Decimal.toString_injective`: the digits
  determine the number;
* `Decimal.search_pos`: the search finds a positive number;
* `Decimal.Leading`, `Decimal.leading_shortest`: the digits of the shortest decimal.
-/
import FlowIntake.Decimal.Shortest
import Mathlib.Data.List.DropRight

namespace FlowIntake.Decimal

/-! ## 1. Whole numbers -/

/-- The first digit of a positive number is not zero. -/
theorem head_toDigits {n : Nat} (hn : 0 < n) : (Nat.toDigits 10 n).head? ≠ some '0' := by
  induction n using Nat.strongRecOn with
  | ind n ih =>
    rcases Nat.lt_or_ge n 10 with hlt | hge
    · have hsmall : ∀ k < 10, 0 < k → [Nat.digitChar k].head? ≠ some '0' := by decide
      rw [Nat.toDigits_of_lt_base hlt]
      exact hsmall n hlt hn
    · rw [Nat.toDigits_of_base_le (by decide) hge, List.head?_append_of_ne_nil _ Nat.toDigits_ne_nil]
      exact ih (n / 10) (by omega) (by omega)

/-- Numbers of the same digits are the same. -/
theorem toDigits_injective {m n : Nat} (h : Nat.toDigits 10 m = Nat.toDigits 10 n) : m = n := by
  have hread := congrArg (fun ds => Nat.ofDigitChars 10 ds 0) h
  simpa using hread

theorem repr_injective {m n : Nat} (h : m.repr = n.repr) : m = n := by
  rw [← String.toList_inj, Nat.toList_repr, Nat.toList_repr] at h
  exact toDigits_injective h

/-- Digits have no sign in front. -/
theorem repr_ne_negative (m n : Nat) : m.repr ≠ "-" ++ n.repr := by
  intro h
  have hmem : '-' ∈ Nat.toDigits 10 m := by
    rw [← Nat.toList_repr, h, String.toList_append]
    exact List.mem_cons_self
  exact absurd (Nat.isDigit_of_mem_toDigits (by decide) (by decide) hmem) (by decide)

/-- Integers of the same text are the same. -/
theorem toString_injective {m n : Int} (h : toString m = toString n) : m = n := by
  rw [Int.toString_eq_repr, Int.toString_eq_repr, Int.repr_eq_if, Int.repr_eq_if] at h
  split at h
  · split at h
    · have hsize := repr_injective h
      omega
    · exact absurd h (repr_ne_negative _ _)
  · split at h
    · exact absurd h.symm (repr_ne_negative _ _)
    · have hsize := repr_injective ((String.append_right_inj "-").mp h)
      omega

/-- A run of digits that does not begin with zero. -/
structure Leading (ds : List Char) : Prop where
  digits : ∀ c ∈ ds, c.isDigit = true
  nonempty : ds ≠ []
  head : ds.head? ≠ some '0'

theorem leading_toDigits {n : Nat} (hn : 0 < n) : Leading (Nat.toDigits 10 n) where
  digits := fun _ hc => Nat.isDigit_of_mem_toDigits (by decide) (by decide) hc
  nonempty := Nat.toDigits_ne_nil
  head := head_toDigits hn

/-- A prefix that is not empty begins as the whole does. -/
theorem Leading.of_prefix {ds es : List Char} (h : Leading es) (hp : ds <+: es) (hn : ds ≠ []) :
    Leading ds where
  digits := fun c hc => h.digits c (hp.subset hc)
  nonempty := hn
  head := by
    obtain ⟨rest, rfl⟩ := hp
    rw [← List.head?_append_of_ne_nil ds hn]
    exact h.head

/-- More digits may follow. -/
theorem Leading.append {ds es : List Char} (h : Leading ds)
    (hes : ∀ c ∈ es, c.isDigit = true) : Leading (ds ++ es) where
  digits := List.forall_mem_append.2 ⟨h.digits, hes⟩
  nonempty := List.append_ne_nil_of_left_ne_nil h.nonempty es
  head := by
    rw [List.head?_append_of_ne_nil ds h.nonempty]
    exact h.head

/-- Taking the zeros off the end of a positive number leaves something. -/
theorem leading_digits {n : Nat} (hn : 0 < n) : Leading (digits n) := by
  have hlead := leading_toDigits hn
  have hprefix : digits n <+: Nat.toDigits 10 n :=
    List.rdropWhile_prefix (· == '0') (Nat.toDigits 10 n)
  refine hlead.of_prefix hprefix fun hnil => ?_
  have hzeros : ∀ c ∈ Nat.toDigits 10 n, (c == '0') = true := List.rdropWhile_eq_nil_iff.1 hnil
  have hhead := hlead.head
  obtain ⟨c, cs, hcs⟩ := List.exists_cons_of_ne_nil hlead.nonempty
  rw [hcs] at hzeros hhead
  have hc := hzeros c List.mem_cons_self
  simp_all

/-! ## 2. The shortest decimal -/

theorem grid_scale_pos (exponent place : Int) : 0 < (grid exponent place).scale := by
  have hten : 0 < Nat.pow 10 (-place).toNat := Nat.pow_pos (by decide)
  simp only [grid, Nat.one_shiftLeft]
  exact Nat.mul_pos (Nat.two_pow_pos _) hten

/-- Zero lies in no interval that begins above it. -/
theorem Interval.has_zero {i : Interval} (hlow : 0 < i.low) (exponent place : Int) :
    i.has (grid exponent place) 0 = false := by
  have hpos : 0 < i.low * (grid exponent place).scale :=
    Nat.mul_pos hlow (grid_scale_pos exponent place)
  simp only [Interval.has, Nat.zero_mul]
  split
  · simp only [decide_eq_false_iff_not]
    omega
  · simp only [decide_eq_false_iff_not]
    omega

/-- The nearest point lies in the interval. -/
theorem Interval.has_of_nearest? {i : Interval} {g : Grid} {tieToEven : Bool} {n : Nat}
    (h : i.nearest? g tieToEven = some n) : i.has g n = true := by
  simp only [Interval.nearest?] at h
  split at h
  · cases h
  · next hbelow _ => rwa [← Option.some.inj h]
  · next _ habove => rwa [← Option.some.inj h]
  · next hbelow habove =>
    split at h
    · rwa [← Option.some.inj h]
    · rwa [← Option.some.inj h]

/-- The search finds a positive number, also where it gives up. -/
theorem search_pos {i : Interval} (hlow : 0 < i.low) (hvalue : 0 < i.value) (size : Int)
    (tieToEven : Bool) (fuel digits : Nat) : 0 < (search i size tieToEven fuel digits).1 := by
  induction fuel generalizing digits with
  | zero => exact hvalue
  | succ fuel ih =>
    rw [search]
    split
    · next n h =>
      rw [Nat.pos_iff_ne_zero]
      rintro rfl
      have hzero := Interval.has_zero hlow i.exponent (size - digits)
      rw [Interval.has_of_nearest? h] at hzero
      cases hzero
    · exact ih (digits + 1)

/-- The digits of the shortest decimal of a double other than zero. -/
theorem leading_shortest {mantissa : Nat} (h : mantissa ≠ 0) (exponent : Int)
    (lowEdge tieToEven : Bool) : Leading (shortest mantissa exponent lowEdge tieToEven).1 := by
  have hlow : 0 < (interval mantissa exponent lowEdge).low := by
    simp only [interval]
    split <;> omega
  have hvalue : 0 < (interval mantissa exponent lowEdge).value := by
    simp only [interval]
    omega
  exact leading_digits (search_pos hlow hvalue _ tieToEven 17 1)

end FlowIntake.Decimal
