/-
# Singles as doubles

A single is kept as the double of the same number, and is written again by its own four octets.
What number a pattern stands for is said here for any format with a sign, an exponent and a
fraction, without a word on how one pattern is made of another.

* `Interchange`, `Interchange.datum`: a format, and what its patterns stand for;
* `Interchange.eq_of_datum_eq`: no two patterns stand for the same, NaNs apart;
* `Binary32.Widens`, `Binary32.exists_widens`: the four ways in which a single is widened;
* `Binary32.datum_widen`: the double stands for what the single does;
* `Binary64.narrow_widen`: narrowing it gives the single back;
* `Binary32.eq_of_widen_eq`, `Binary32.datum_eq_iff`: the double is one single's, and the only one.
-/
import FlowIntake.Decimal.Binary64
import Mathlib.Algebra.Field.Rat
import Mathlib.Algebra.Order.Field.Basic
import Mathlib.Tactic.NormNum
import Mathlib.Tactic.Ring

namespace FlowIntake

/-! ## 1. Formats -/

/-- What a pattern stands for.  A zero has a sign, and so has an infinity. -/
inductive Datum where
  | nan
  | infinite (negative : Bool)
  | finite (negative : Bool) (magnitude : ℚ)
deriving DecidableEq

/-- A binary format: one bit for the sign, then the exponent, then the fraction. -/
structure Interchange where
  exponentBits : Nat
  fractionBits : Nat

namespace Interchange

/-- The format of singles. -/
def binary32 : Interchange := ⟨8, 23⟩

/-- The format of doubles. -/
def binary64 : Interchange := ⟨11, 52⟩

/-- What is taken off an exponent. -/
def bias (F : Interchange) : Nat := 2 ^ (F.exponentBits - 1) - 1

/-- The fraction with the leading one that stands before it, but where the exponent is zero. -/
def significand (F : Interchange) (e f : Nat) : Nat :=
  if e = 0 then f else 2 ^ F.fractionBits + f

/-- The number of an exponent and a fraction.  The exponent zero scales like one. -/
def magnitude (F : Interchange) (e f : Nat) : ℚ :=
  F.significand e f * 2 ^ ((max e 1 : ℕ) - F.bias - F.fractionBits : ℤ)

/-- What a sign, an exponent and a fraction stand for. -/
def datumOf (F : Interchange) (s e f : Nat) : Datum :=
  if e = 2 ^ F.exponentBits - 1 then if f = 0 then .infinite (s = 1) else .nan
  else .finite (s = 1) (F.magnitude e f)

/-- What a pattern stands for. -/
def datum (F : Interchange) (bits : Nat) : Datum :=
  F.datumOf (bits / 2 ^ F.fractionBits / 2 ^ F.exponentBits)
    (bits / 2 ^ F.fractionBits % 2 ^ F.exponentBits) (bits % 2 ^ F.fractionBits)

/-- How many patterns there are. -/
def patterns (F : Interchange) : Nat := 2 * 2 ^ F.exponentBits * 2 ^ F.fractionBits

/-- The pattern is this sign, this exponent and this fraction, one after another. -/
structure Parts (F : Interchange) (bits s e f : Nat) : Prop where
  sign_lt : s < 2
  exponent_lt : e < 2 ^ F.exponentBits
  fraction_lt : f < 2 ^ F.fractionBits
  whole : bits = (s * 2 ^ F.exponentBits + e) * 2 ^ F.fractionBits + f

variable {F : Interchange} {bits bits' s s' e e' f f' : Nat}

theorem exists_parts (h : bits < F.patterns) : ∃ s e f, F.Parts bits s e f := by
  refine ⟨bits / 2 ^ F.fractionBits / 2 ^ F.exponentBits,
    bits / 2 ^ F.fractionBits % 2 ^ F.exponentBits, bits % 2 ^ F.fractionBits, ?_, ?_, ?_, ?_⟩
  · rw [Nat.div_lt_iff_lt_mul (Nat.two_pow_pos _), Nat.div_lt_iff_lt_mul (Nat.two_pow_pos _)]
    exact h
  · exact Nat.mod_lt _ (Nat.two_pow_pos _)
  · exact Nat.mod_lt _ (Nat.two_pow_pos _)
  · rw [Nat.div_add_mod', Nat.div_add_mod']

theorem div_of_lt {a b m : Nat} (h : b < m) : (a * m + b) / m = a := by
  rw [Nat.mul_comm, Nat.mul_add_div (Nat.zero_lt_of_lt h), Nat.div_eq_of_lt h, Nat.add_zero]

/-- A pattern stands for what its parts do. -/
theorem Parts.datum_eq (h : F.Parts bits s e f) : F.datum bits = F.datumOf s e f := by
  obtain ⟨-, he, hf, rfl⟩ := h
  rw [datum, div_of_lt hf, div_of_lt he, Nat.mul_add_mod_of_lt hf, Nat.mul_add_mod_of_lt he]

/-! ### Numbers determine patterns -/

/-- How many times the smallest number of the format a number is. -/
def steps (F : Interchange) (e f : Nat) : Nat := F.significand e f * 2 ^ (e - 1)

/-- A number is so many times the smallest one. -/
theorem magnitude_eq (F : Interchange) (e f : Nat) :
    F.magnitude e f = F.steps e f * 2 ^ (1 - F.bias - F.fractionBits : ℤ) := by
  have hscale : ((max e 1 : ℕ) - F.bias - F.fractionBits : ℤ)
      = (e - 1 : ℕ) + (1 - F.bias - F.fractionBits : ℤ) := by omega
  rw [magnitude, steps, hscale, zpow_add₀ two_ne_zero, zpow_natCast]
  push_cast
  ring

theorem steps_succ (F : Interchange) (e f : Nat) :
    F.steps (e + 1) f = (2 ^ F.fractionBits + f) * 2 ^ e := rfl

theorem steps_lt (hf : f < 2 ^ F.fractionBits) : F.steps e f < 2 ^ F.fractionBits * 2 ^ e := by
  cases e with
  | zero => simpa [steps, significand] using hf
  | succ e =>
    rw [steps_succ, Nat.pow_succ', ← Nat.mul_assoc]
    exact Nat.mul_lt_mul_of_pos_right (by omega) (Nat.two_pow_pos e)

/-- A larger exponent makes a larger number. -/
theorem steps_lt_steps (hf : f < 2 ^ F.fractionBits) (h : e < e') :
    F.steps e f < F.steps e' f' := by
  obtain ⟨k, rfl⟩ := Nat.exists_eq_add_of_lt h
  calc F.steps e f < 2 ^ F.fractionBits * 2 ^ e := steps_lt hf
    _ ≤ (2 ^ F.fractionBits + f') * 2 ^ (e + k) :=
      Nat.mul_le_mul (Nat.le_add_right _ f')
        (Nat.pow_le_pow_right (by decide) (Nat.le_add_right e k))
    _ = F.steps (e + k + 1) f' := (steps_succ F (e + k) f').symm

/-- A number has one exponent and one fraction. -/
theorem eq_of_steps_eq (hf : f < 2 ^ F.fractionBits) (hf' : f' < 2 ^ F.fractionBits)
    (h : F.steps e f = F.steps e' f') : e = e' ∧ f = f' := by
  rcases Nat.lt_trichotomy e e' with hlt | rfl | hlt
  · exact absurd h (Nat.ne_of_lt (steps_lt_steps hf hlt))
  · have hsame : F.significand e f = F.significand e f' :=
      Nat.eq_of_mul_eq_mul_right (Nat.two_pow_pos _) h
    unfold significand at hsame
    split at hsame <;> exact ⟨rfl, by omega⟩
  · exact absurd h.symm (Nat.ne_of_lt (steps_lt_steps hf' hlt))

theorem datumOf_of_ne (s f : Nat) (he : e ≠ 2 ^ F.exponentBits - 1) :
    F.datumOf s e f = .finite (s = 1) (F.magnitude e f) := if_neg he

/-- The greatest exponent is left to NaNs and infinities. -/
theorem fraction_eq_zero_of_datumOf (h : F.datumOf s e f ≠ .nan) (he : e = 2 ^ F.exponentBits - 1) :
    f = 0 := by
  by_contra hf
  exact h ((if_pos he).trans (if_neg hf))

theorem datumOf_zero (s : Nat) (he : e = 2 ^ F.exponentBits - 1) :
    F.datumOf s e 0 = .infinite (s = 1) := (if_pos he).trans (if_pos rfl)

/-- Parts that stand for the same are the same, if it is no NaN. -/
theorem eq_of_datumOf_eq (hs : s < 2) (hs' : s' < 2) (hf : f < 2 ^ F.fractionBits)
    (hf' : f' < 2 ^ F.fractionBits) (hnan : F.datumOf s e f ≠ .nan)
    (h : F.datumOf s e f = F.datumOf s' e' f') : s = s' ∧ e = e' ∧ f = f' := by
  have hsign : decide (s = 1) = decide (s' = 1) → s = s' := by
    rw [decide_eq_decide]
    omega
  have hnan' := h ▸ hnan
  by_cases he : e = 2 ^ F.exponentBits - 1
  · obtain rfl := fraction_eq_zero_of_datumOf hnan he
    rw [datumOf_zero s he] at h
    by_cases he' : e' = 2 ^ F.exponentBits - 1
    · obtain rfl := fraction_eq_zero_of_datumOf hnan' he'
      rw [datumOf_zero s' he'] at h
      injection h with hnegative
      exact ⟨hsign hnegative, he.trans he'.symm, rfl⟩
    · rw [datumOf_of_ne s' f' he'] at h
      cases h
  · rw [datumOf_of_ne s f he] at h
    by_cases he' : e' = 2 ^ F.exponentBits - 1
    · obtain rfl := fraction_eq_zero_of_datumOf hnan' he'
      rw [datumOf_zero s' he'] at h
      cases h
    · rw [datumOf_of_ne s' f' he', magnitude_eq, magnitude_eq] at h
      injection h with hnegative hmagnitude
      have hunit : (2 : ℚ) ^ (1 - F.bias - F.fractionBits : ℤ) ≠ 0 := zpow_ne_zero _ two_ne_zero
      have hsteps : F.steps e f = F.steps e' f' := by
        exact_mod_cast mul_right_cancel₀ hunit hmagnitude
      exact ⟨hsign hnegative, eq_of_steps_eq hf hf' hsteps⟩

/-- **Patterns that stand for the same are the same**, if it is no NaN. -/
theorem eq_of_datum_eq (hlt : bits < F.patterns) (hlt' : bits' < F.patterns)
    (hnan : F.datum bits ≠ .nan) (h : F.datum bits = F.datum bits') : bits = bits' := by
  obtain ⟨s, e, f, hparts⟩ := exists_parts hlt
  obtain ⟨s', e', f', hparts'⟩ := exists_parts hlt'
  rw [hparts.datum_eq] at h hnan
  rw [hparts'.datum_eq] at h
  obtain ⟨rfl, rfl, rfl⟩ := eq_of_datumOf_eq hparts.sign_lt hparts'.sign_lt hparts.fraction_lt
    hparts'.fraction_lt hnan h
  rw [hparts.whole, hparts'.whole]

end Interchange

open Interchange

/-! ## 2. Widening -/

namespace Binary32

/-- What moves the highest bit of a subnormal to the place of the leading one. -/
theorem two_pow_lead {top : Nat} (h : top < 23) : 2 ^ top * 2 ^ (52 - top) = 2 ^ 52 := by
  rw [← Nat.pow_add, Nat.add_sub_of_le (by omega)]

/-- The exponent and the fraction of the double of the same number, for those of a single. -/
inductive Widens : (e f e' f' : Nat) → Prop where
  | infinite : Widens 255 0 2047 0
  | zero : Widens 0 0 0 0
  /-- The highest bit of a subnormal becomes the leading one. -/
  | subnormal {top r : Nat} : top < 23 → r < 2 ^ top →
      Widens 0 (2 ^ top + r) (top + 874) (r * 2 ^ (52 - top))
  | normal {e f : Nat} : 0 < e → e < 255 → f < 2 ^ 23 → Widens e f (e + 896) (f * 2 ^ 29)

variable {b : UInt32} {s e f e' f' : Nat}

/-- The exponent and the fraction of a single have their bits. -/
theorem Widens.single_lt (h : Widens e f e' f') : e < 2 ^ 8 ∧ f < 2 ^ 23 := by
  cases h with
  | infinite => decide
  | zero => decide
  | @subnormal top r htop hr =>
    have hle : 2 ^ (top + 1) ≤ 2 ^ 23 := Nat.pow_le_pow_right (by decide) htop
    rw [Nat.pow_succ] at hle
    omega
  | normal hpos hlt hf => omega

/-- An infinity is widened to the infinity. -/
theorem Widens.infinite_iff (h : Widens e f e' f') : e' = 2047 ↔ e = 255 := by
  cases h <;> omega

theorem Widens.eq_zero_of_infinite (h : Widens e f e' f') (he : e = 255) : f = 0 ∧ f' = 0 := by
  cases h with
  | infinite => exact ⟨rfl, rfl⟩
  | zero => exact ⟨rfl, rfl⟩
  | subnormal htop hr => exact absurd he (by decide)
  | normal hpos hlt hf => exact absurd he (Nat.ne_of_lt hlt)

/-- A single that is no NaN is widened. -/
theorem exists_widens (he : e < 256) (hf : f < 2 ^ 23) (hnan : e = 255 → f = 0) :
    ∃ e' f', Widens e f e' f' := by
  rcases Nat.eq_zero_or_pos e with rfl | hpos
  · rcases Nat.eq_zero_or_pos f with rfl | hf₀
    · exact ⟨_, _, .zero⟩
    · obtain ⟨r, hr⟩ := Nat.exists_eq_add_of_le (Nat.log2_self_le (Nat.ne_of_gt hf₀))
      have htop : f.log2 < 23 := (Nat.log2_lt (Nat.ne_of_gt hf₀)).mpr hf
      have hrest : r < 2 ^ f.log2 := by
        have hlt : f < 2 ^ (f.log2 + 1) := Nat.lt_log2_self
        rw [Nat.pow_succ] at hlt
        omega
      rw [hr]
      exact ⟨_, _, .subnormal htop hrest⟩
  · rcases Nat.lt_or_eq_of_le (Nat.le_of_lt_succ he) with hlt | rfl
    · exact ⟨_, _, .normal hpos hlt hf⟩
    · rw [hnan rfl]
      exact ⟨_, _, .infinite⟩

/-- The exponent and the fraction of a double have their bits. -/
theorem Widens.lt (h : Widens e f e' f') : e' < 2 ^ 11 ∧ f' < 2 ^ 52 := by
  cases h with
  | infinite => decide
  | zero => decide
  | @subnormal top r htop hr =>
    refine ⟨by omega, ?_⟩
    calc r * 2 ^ (52 - top) < 2 ^ top * 2 ^ (52 - top) :=
          Nat.mul_lt_mul_of_pos_right hr (Nat.two_pow_pos _)
      _ = 2 ^ 52 := two_pow_lead htop
  | normal hpos hlt hf => constructor <;> omega

/-- What widening makes of the parts of a single. -/
theorem parts_widen (h : binary32.Parts b.toNat s e f) (hw : Widens e f e' f') :
    binary64.Parts (widen b).toNat s e' f' := by
  obtain ⟨hs, he, hf, hwhole⟩ := h
  obtain ⟨he', hf'⟩ := hw.lt
  simp only [binary32] at he hf hwhole
  have hsign : b.toNat / signBit = s := by rw [signBit]; omega
  have hexponent : b.toNat / fractions % 256 = e := by rw [fractions]; omega
  have hfraction : b.toNat % fractions = f := by rw [fractions]; omega
  have hbits : widen b
      = UInt64.ofNat (s * Binary64.signBit + (e' * Binary64.fractions + f')) := by
    unfold widen
    simp only [hsign, hexponent, hfraction]
    cases hw with
    | infinite => rfl
    | zero => rfl
    | @subnormal top r htop hr =>
      have hne : 2 ^ top + r ≠ 0 := by
        have := Nat.two_pow_pos top
        omega
      have hlog : (2 ^ top + r).log2 = top := by
        rw [Nat.log2_eq_iff hne, Nat.pow_succ]
        omega
      have hlow : 2 ^ top + r - 1 <<< top = r := by
        rw [Nat.one_shiftLeft, Nat.add_sub_cancel_left]
      rw [if_neg (by decide), if_pos rfl, if_neg hne, hlog, hlow, Nat.shiftLeft_eq]
    | normal hpos hlt hf =>
      rw [if_neg (by omega), if_neg (by omega)]
      rfl
  refine ⟨hs, he', hf', ?_⟩
  rw [hbits, UInt64.toNat_ofNat_of_lt']
  · simp only [binary64, Binary64.signBit, Binary64.fractions]
    omega
  · simp only [UInt64.size, Binary64.signBit, Binary64.fractions]
    omega

theorem steps_succ_single (e f : Nat) : binary32.steps (e + 1) f = (2 ^ 23 + f) * 2 ^ e := rfl

theorem steps_succ_double (e f : Nat) : binary64.steps (e + 1) f = (2 ^ 52 + f) * 2 ^ e := rfl

/-- How many binary places the smallest double lies below the smallest single. -/
def places : Nat := 925

/-- The double is as many of its smallest numbers as the single is, so many places higher. -/
theorem Widens.steps_eq (h : Widens e f e' f') (he : e ≠ 255) :
    binary64.steps e' f' = binary32.steps e f * 2 ^ places := by
  cases h with
  | infinite => exact absurd rfl he
  | zero =>
    have hzero : binary32.steps 0 0 = 0 := rfl
    rw [hzero, Nat.zero_mul]
    rfl
  | @subnormal top r htop hr =>
    have hplaces : 52 - top + (top + 873) = places := by
      unfold places
      omega
    calc
      binary64.steps (top + 874) (r * 2 ^ (52 - top))
        = (2 ^ 52 + r * 2 ^ (52 - top)) * 2 ^ (top + 873) := steps_succ_double (top + 873) _
      _ = (2 ^ top + r) * 2 ^ places := by
        rw [← two_pow_lead htop, ← Nat.add_mul, Nat.mul_assoc, ← Nat.pow_add, hplaces]
      _ = binary32.steps 0 (2 ^ top + r) * 2 ^ places := by
        rw [steps, significand, if_pos rfl, Nat.zero_sub, Nat.pow_zero, Nat.mul_one]
  | @normal e f hpos hlt hf =>
    obtain ⟨k, rfl⟩ := Nat.exists_eq_add_of_le' hpos
    have hplaces : 29 + (k + 896) = k + places := by
      unfold places
      omega
    have hlead : (2 : ℕ) ^ 52 = 2 ^ 23 * 2 ^ 29 := rfl
    calc
      binary64.steps (k + 1 + 896) (f * 2 ^ 29)
        = (2 ^ 52 + f * 2 ^ 29) * 2 ^ (k + 896) := by
        rw [Nat.add_right_comm, steps_succ_double]
      _ = (2 ^ 23 + f) * 2 ^ k * 2 ^ places := by
        rw [hlead, ← Nat.add_mul, Nat.mul_assoc, ← Nat.pow_add, hplaces, Nat.pow_add, Nat.mul_assoc]
      _ = binary32.steps (k + 1) f * 2 ^ places := by rw [steps_succ_single]

theorem Widens.magnitude_eq (h : Widens e f e' f') (he : e ≠ 255) :
    binary64.magnitude e' f' = binary32.magnitude e f := by
  have hunit : (2 : ℚ) ^ places * 2 ^ (1 - binary64.bias - binary64.fractionBits : ℤ)
      = 2 ^ (1 - binary32.bias - binary32.fractionBits : ℤ) := by
    rw [← zpow_natCast, ← zpow_add₀ two_ne_zero]
    rfl
  rw [Interchange.magnitude_eq, Interchange.magnitude_eq, h.steps_eq he, Nat.cast_mul,
    Nat.cast_pow, mul_assoc]
  exact congrArg _ hunit

/-- The parts of a single that is no NaN are widened. -/
theorem exists_widens_of_datum (hparts : binary32.Parts b.toNat s e f)
    (h : binary32.datum b.toNat ≠ .nan) : ∃ e' f', Widens e f e' f' := by
  rw [hparts.datum_eq] at h
  exact exists_widens hparts.exponent_lt hparts.fraction_lt (fraction_eq_zero_of_datumOf h)

/-- **Widening keeps the number**, and the sign of a zero and of an infinity. -/
theorem datum_widen (h : binary32.datum b.toNat ≠ .nan) :
    binary64.datum (widen b).toNat = binary32.datum b.toNat := by
  obtain ⟨s, e, f, hparts⟩ := exists_parts (F := binary32) b.toNat_lt
  obtain ⟨e', f', hw⟩ := exists_widens_of_datum hparts h
  rw [hparts.datum_eq, (parts_widen hparts hw).datum_eq]
  by_cases he : e = 255
  · obtain ⟨rfl, rfl⟩ := hw.eq_zero_of_infinite he
    rw [datumOf_zero s (hw.infinite_iff.mpr he), datumOf_zero s he]
  · rw [datumOf_of_ne s f' (mt hw.infinite_iff.mp he), datumOf_of_ne s f he, hw.magnitude_eq he]

end Binary32

/-! ## 3. Narrowing -/

namespace Binary64

/-- Division without a remainder rounds to the quotient. -/
theorem roundShift_mul (m k : Nat) : roundShift (m * 2 ^ k) k = m := by
  have hpos := Nat.two_pow_pos k
  unfold roundShift
  simp only [Nat.one_shiftLeft, Nat.mul_mod_left, Nat.mul_div_left _ hpos]
  exact if_neg (by omega)

/-- The magnitude that narrowing makes of an exponent and a fraction that are no infinity. -/
theorem narrow_widens {e f e' f' : Nat} (hw : Binary32.Widens e f e' f') (he : e ≠ 255) :
    (max e' 1 - 897) * Binary32.fractions
        + roundShift (if e' = 0 then f' else fractions + f')
          (if max e' 1 ≤ 896 then 926 - max e' 1 else 29)
      = e * 2 ^ 23 + f := by
  cases hw with
  | infinite => exact absurd rfl he
  | zero => rfl
  | @subnormal top r htop hr =>
    have hshift : 926 - (top + 874) = 52 - top := by omega
    have hlead : fractions = 2 ^ top * 2 ^ (52 - top) := (Binary32.two_pow_lead htop).symm
    rw [Nat.max_eq_left (by omega), if_neg (by omega), if_pos (by omega), hshift, hlead,
      ← Nat.add_mul, roundShift_mul, Nat.sub_eq_zero_of_le (by omega)]
    omega
  | @normal e f hpos hlt hf =>
    have hlead : fractions = 2 ^ 23 * 2 ^ 29 := rfl
    rw [Nat.max_eq_left (by omega), if_neg (by omega), if_neg (by omega), hlead, ← Nat.add_mul,
      roundShift_mul, Binary32.fractions]
    omega

/-- Narrowing makes the parts of a single of what widening made of them. -/
theorem parts_narrow {bits : UInt64} {s e f e' f' : Nat} (h : binary64.Parts bits.toNat s e' f')
    (hw : Binary32.Widens e f e' f') :
    binary32.Parts (narrow bits).toNat s e f := by
  obtain ⟨hs, he', hf', hwhole⟩ := h
  simp only [binary64] at he' hf' hwhole
  have hsign : negative bits = decide (s = 1) := by
    rw [negative, signBit, decide_eq_decide]
    omega
  have hexponent : biased bits = e' := by rw [biased, fractions]; omega
  have hfraction : fraction bits = f' := by rw [fraction, fractions]; omega
  obtain ⟨he, hf⟩ := hw.single_lt
  have hbits : narrow bits = UInt32.ofNat (s * Binary32.signBit + (e * 2 ^ 23 + f)) := by
    have hs' : (if decide (s = 1) then Binary32.signBit else 0) = s * Binary32.signBit := by
      rcases Nat.le_one_iff_eq_zero_or_eq_one.mp (Nat.le_of_lt_succ hs) with rfl | rfl <;> rfl
    unfold narrow
    simp only [hsign, hexponent, hfraction, hs']
    by_cases hend : e = 255
    · obtain ⟨rfl, rfl⟩ := hw.eq_zero_of_infinite hend
      rw [if_pos (hw.infinite_iff.mpr hend), hend]
      rfl
    · have hmagnitude := narrow_widens hw hend
      rw [if_neg (mt hw.infinite_iff.mp hend), hmagnitude, Nat.min_eq_right]
      rw [Binary32.infinity]
      omega
  refine ⟨hs, he, hf, ?_⟩
  rw [hbits, UInt32.toNat_ofNat_of_lt']
  · simp only [binary32, Binary32.signBit]
    omega
  · simp only [UInt32.size, Binary32.signBit]
    omega

/-- **Narrowing takes back what widening did.** -/
theorem narrow_widen {b : UInt32} (h : binary32.datum b.toNat ≠ .nan) :
    narrow (Binary32.widen b) = b := by
  obtain ⟨s, e, f, hparts⟩ := exists_parts (F := binary32) b.toNat_lt
  obtain ⟨e', f', hw⟩ := Binary32.exists_widens_of_datum hparts h
  have hback := parts_narrow (Binary32.parts_widen hparts hw) hw
  rw [← UInt32.toNat_inj, hback.whole, hparts.whole]

end Binary64

/-! ## 4. Singles among doubles -/

namespace Binary32

variable {b b' : UInt32}

/-- **No two singles are widened alike.** -/
theorem eq_of_widen_eq (h : binary32.datum b.toNat ≠ .nan) (h' : binary32.datum b'.toNat ≠ .nan)
    (heq : widen b = widen b') : b = b' := by
  rw [← Binary64.narrow_widen h, heq, Binary64.narrow_widen h']

/-- **One double alone stands for what a single does.** -/
theorem datum_eq_iff (h : binary32.datum b.toNat ≠ .nan) (bits : UInt64) :
    binary64.datum bits.toNat = binary32.datum b.toNat ↔ bits = widen b := by
  constructor
  · intro heq
    have hnan : binary64.datum bits.toNat ≠ .nan := heq.trans_ne h
    rw [← UInt64.toNat_inj]
    exact eq_of_datum_eq (F := binary64) bits.toNat_lt (widen b).toNat_lt hnan
      (heq.trans (datum_widen h).symm)
  · rintro rfl
    exact datum_widen h

end Binary32

end FlowIntake
