/-
# Points in time are rounded down, and keep their order

Two data types count seconds since 1900 and parts of a second in units of 1/2³², of which one leaves
the eleven lowest bits undefined.  Their points in time are whole nanoseconds since 1970.  The
conversion is done in words, and nothing in it is lost but what is below the nanosecond: so the
order of points in time is that of seconds and fractions, and the masked bits move a point by less
than half a microsecond.

* `Value.Since1900`: the values of the two types;
* `Value.timestamp?_of_since1900`: each has a point in time, `Value.instant`;
* `Value.instant_le_instant`, `Value.fractionNanos_masked`: order, and the bits that are masked;
* `Value.timestamp?_of_wholeSecond`: whole seconds, by all four types of dates and times;
* `Value.instants_exact`: all of it, with the octets that values are read from.
-/
import FlowIntake.Proofs.Field.WireForm

namespace FlowIntake

/-! ## 1. Points in time in order -/

namespace Timestamp

/-- By seconds, and within a second by nanoseconds. -/
instance : LE Timestamp :=
  ⟨fun t u => t.seconds < u.seconds ∨ t.seconds = u.seconds ∧ t.nanos ≤ u.nanos⟩

theorem le_def {t u : Timestamp} :
    t ≤ u ↔ t.seconds < u.seconds ∨ t.seconds = u.seconds ∧ t.nanos ≤ u.nanos :=
  Iff.rfl

instance (t u : Timestamp) : Decidable (t ≤ u) := decidable_of_iff _ le_def.symm

/-- Seconds that fit four octets have dates, counted from 1900 or from 1970. -/
theorem ofUnix?_of_word {z : Int} {n : Nat} (hlow : -2208988800 ≤ z) (hhigh : z < 2 ^ 32)
    (hn : n < 1000000000) : ofUnix? z n = some ⟨z, n⟩ := by
  refine if_pos ⟨?_, ?_, hn⟩
  · rw [first]; omega
  · rw [last]; omega

end Timestamp

namespace Value

/-! ## 2. Seconds since 1900 -/

/-- The value is `s` seconds since 1900 and `f` parts of 2³² of a second. -/
inductive Since1900 : Value → UInt32 → UInt32 → Prop where
  | microseconds (s f : UInt32) : Since1900 (.microseconds s f) s f
  | nanoseconds (s f : UInt32) : Since1900 (.nanoseconds s f) s f

/-- The words of the conversion hold what it reckons: the difference of the epochs in 64 bits with
a sign, the product in 64 without, and its upper half in 32. -/
structure ExactWords (s f : UInt32) : Prop where
  difference : (unixSeconds s).toInt = (s.toNat : Int) - 2208988800
  product : (f.toUInt64 * 1000000000).toNat = f.toNat * 1000000000
  narrowing : (fractionNanos f).toUInt64 = (f.toUInt64 * 1000000000) >>> 32

theorem exactWords (s f : UInt32) : ExactWords s f where
  difference := toInt_unixSeconds s
  product := toNat_mul_nanos f
  narrowing := by
    rw [← UInt64.toNat_inj, UInt32.toNat_toUInt64, toNat_fractionNanos,
      toNat_mul_nanos_shiftRight]

/-- The point in time of `s` seconds since 1900 and `f` parts of a second. -/
def instant (s f : UInt32) : Timestamp := ⟨(unixSeconds s).toInt, (fractionNanos f).toNat⟩

theorem fractionNanos_lt (f : UInt32) : (fractionNanos f).toNat < 1000000000 := by
  have hlt : f.toNat < 4294967296 := f.toNat_lt
  rw [toNat_fractionNanos]
  omega

/-- **Every value of the two types has a point in time.** -/
theorem timestamp?_of_since1900 {v : Value} {s f : UInt32} (h : v.Since1900 s f) :
    v.timestamp? = some (instant s f) := by
  have hs : s.toNat < 4294967296 := s.toNat_lt
  have hunix := toInt_unixSeconds s
  have hdated : Timestamp.ofUnix? (unixSeconds s).toInt (fractionNanos f).toNat
      = some (instant s f) :=
    Timestamp.ofUnix?_of_word (by omega) (by omega) (fractionNanos_lt f)
  cases h with
  | microseconds => exact hdated
  | nanoseconds => exact hdated

/-- It is the last nanosecond that is not after the fraction. -/
theorem nanos_floor (f : UInt32) :
    (fractionNanos f).toNat * 2 ^ 32 ≤ f.toNat * 1000000000 ∧
      f.toNat * 1000000000 < ((fractionNanos f).toNat + 1) * 2 ^ 32 := by
  rw [toNat_fractionNanos]
  constructor
  · exact Nat.div_mul_le_self _ _
  · rw [mul_comm _ (2 ^ 32)]
    exact Nat.lt_mul_div_succ _ (by decide)

/-- A later fraction has no earlier nanosecond. -/
theorem fractionNanos_mono {f f' : UInt32} (h : f ≤ f') :
    (fractionNanos f).toNat ≤ (fractionNanos f').toNat := by
  rw [toNat_fractionNanos, toNat_fractionNanos]
  exact Nat.div_le_div_right (Nat.mul_le_mul_right _ (UInt32.le_iff_toNat_le.mp h))

/-- **Points in time come in the order of seconds and fractions.** -/
theorem instant_le_instant {s f s' f' : UInt32} (h : s < s' ∨ s = s' ∧ f ≤ f') :
    instant s f ≤ instant s' f' := by
  rw [Timestamp.le_def]
  rcases h with hearlier | ⟨rfl, hfraction⟩
  · refine Or.inl ?_
    have hlt := UInt32.lt_iff_toNat_lt.mp hearlier
    change (unixSeconds s).toInt < (unixSeconds s').toInt
    rw [toInt_unixSeconds, toInt_unixSeconds]
    omega
  · exact Or.inr ⟨rfl, fractionNanos_mono hfraction⟩

/-- Eleven bits are less than 477 nanoseconds, and rounding adds less than one. -/
theorem fractionNanos_masked (f : UInt32) :
    (fractionNanos (f &&& DataType.microsecondMask)).toNat ≤ (fractionNanos f).toNat ∧
      (fractionNanos f).toNat ≤ (fractionNanos (f &&& DataType.microsecondMask)).toNat + 477 := by
  rw [toNat_fractionNanos, toNat_fractionNanos, toNat_and_microsecondMask]
  omega

/-! ## 3. Whole seconds -/

/-- The second `u` since 1970 as a value of each type of dates and times. -/
def wholeSecond (u : Nat) : List (DataType × Value) :=
  [(.dateTimeSeconds, .seconds (UInt32.ofNat u)),
    (.dateTimeMilliseconds, .milliseconds (UInt64.ofNat (1000 * u))),
    (.dateTimeMicroseconds, .microseconds (UInt32.ofNat (u + 2208988800)) 0),
    (.dateTimeNanoseconds, .nanoseconds (UInt32.ofNat (u + 2208988800)) 0)]

/-- **All four stand for one point in time**, as long as four octets hold the seconds since 1900. -/
theorem timestamp?_of_wholeSecond {u : Nat} (h : u + 2208988800 < 2 ^ 32) {p : DataType × Value}
    (hp : p ∈ wholeSecond u) : p.2.timestamp? = some ⟨u, 0⟩ := by
  have hdated : Timestamp.ofUnix? u 0 = some ⟨u, 0⟩ :=
    Timestamp.ofUnix?_of_word (by omega) (by omega) (by decide)
  have hword : u < 2 ^ 32 := by omega
  have hthousand : 1000 * u < 2 ^ 64 := by omega
  have hseconds : (UInt32.ofNat u).toNat = u := UInt32.toNat_ofNat_of_lt' hword
  have hmilliseconds : (UInt64.ofNat (1000 * u)).toNat = 1000 * u :=
    UInt64.toNat_ofNat_of_lt' hthousand
  have hepoch : instant (UInt32.ofNat (u + 2208988800)) 0 = ⟨u, 0⟩ := by
    have hsince : (UInt32.ofNat (u + 2208988800)).toNat = u + 2208988800 :=
      UInt32.toNat_ofNat_of_lt' h
    rw [instant, toInt_unixSeconds, toNat_fractionNanos, hsince]
    simp
  simp only [wholeSecond, List.mem_cons, List.not_mem_nil, or_false] at hp
  rcases hp with rfl | rfl | rfl | rfl
  · rw [timestamp?, hseconds, hdated]
  · rw [timestamp?, hmilliseconds, Nat.mul_div_cancel_left _ (by decide), Nat.mul_mod_right,
      Nat.zero_mul, hdated]
  · rw [timestamp?_of_since1900 (.microseconds _ _), hepoch]
  · rw [timestamp?_of_since1900 (.nanoseconds _ _), hepoch]

/-- Each suits a field of its type. -/
theorem suits_of_mem_wholeSecond {u : Nat} {p : DataType × Value} (hp : p ∈ wholeSecond u) :
    p.2.Suits p.1 p.1.maxLength := by
  simp only [wholeSecond, List.mem_cons, List.not_mem_nil, or_false] at hp
  rcases hp with rfl | rfl | rfl | rfl
  · rfl
  · rfl
  · exact ⟨rfl, rfl⟩
  · rfl

end Value

/-! ## 4. From the wire -/

namespace DataType

/-- The type reads a field of these octets as this point in time. -/
def ReadsInstant (t : DataType) (name : String) (bs : Bytes) (instant : Timestamp) : Prop :=
  ∃ v, t.decode name bs.length (Cursor.ofBytes bs) = .ok v ⟨bs.length, []⟩ ∧
    v.timestamp? = some instant

/-- **Eight octets stand for a point in time with their undefined bits and without**, in the same
second, and without them for no later one. -/
theorem readsInstant_of_eight (name : String) {bs : Bytes} (h : bs.length = 8) :
    ∃ t t', dateTimeMicroseconds.ReadsInstant name bs t ∧
      dateTimeNanoseconds.ReadsInstant name bs t' ∧
      t ≤ t' ∧ t.seconds = t'.seconds ∧ t'.nanos ≤ t.nanos + 477 := by
  have hmicro : dateTimeMicroseconds.Accepts bs.length := by rw [h]; decide
  have hnano : dateTimeNanoseconds.Accepts bs.length := by rw [h]; decide
  obtain ⟨hnotlater, hclose⟩ :=
    Value.fractionNanos_masked (UInt32.ofNat (Bytes.value (bs.drop 4)))
  have hmasked := Value.timestamp?_of_since1900 (.microseconds
    (UInt32.ofNat (Bytes.value (bs.take 4)))
    (UInt32.ofNat (Bytes.value (bs.drop 4)) &&& microsecondMask))
  have hwhole := Value.timestamp?_of_since1900 (.nanoseconds
    (UInt32.ofNat (Bytes.value (bs.take 4))) (UInt32.ofNat (Bytes.value (bs.drop 4))))
  exact ⟨_, _, ⟨_, decode_ofBytes name hmicro rfl, hmasked⟩,
    ⟨_, decode_ofBytes name hnano rfl, hwhole⟩, Or.inr ⟨rfl, hnotlater⟩, rfl, hclose⟩

end DataType

namespace Value

/-- **The conversion to points in time is an exact floor, and keeps order.**  Every value in seconds
since 1900 and parts of a second has a point in time: its second is exact, its nanosecond is rounded
down, and no word overflows on the way.  Points in time come in the order of the values.  Eight
octets that are read with the low bits of the fraction masked, and as they are, stand for the same
second and for nanoseconds at most 477 apart, the masked ones first.  The four types of dates and
times write a whole second each in its way, and what they write is read as that second. -/
theorem instants_exact (name : String) :
    (∀ v s f, Since1900 v s f → ExactWords s f ∧ ∃ t, v.timestamp? = some t ∧
      t.seconds = (s.toNat : Int) - 2208988800 ∧ t.nanos < 1000000000 ∧
      t.nanos * 2 ^ 32 ≤ f.toNat * 1000000000 ∧
      f.toNat * 1000000000 < (t.nanos + 1) * 2 ^ 32) ∧
    (∀ v s f v' s' f', Since1900 v s f → Since1900 v' s' f' → (s < s' ∨ s = s' ∧ f ≤ f') →
      ∃ t t', v.timestamp? = some t ∧ v'.timestamp? = some t' ∧ t ≤ t') ∧
    (∀ bs : Bytes, bs.length = 8 →
      ∃ t t', DataType.dateTimeMicroseconds.ReadsInstant name bs t ∧
        DataType.dateTimeNanoseconds.ReadsInstant name bs t' ∧
        t ≤ t' ∧ t.seconds = t'.seconds ∧ t'.nanos ≤ t.nanos + 477) ∧
    ∀ u : Nat, u + 2208988800 < 2 ^ 32 → ∀ p ∈ wholeSecond u,
      p.2.timestamp? = some ⟨u, 0⟩ ∧ ∃ bs, p.2.encode? p.1.maxLength = some bs ∧
        bs.length = p.1.maxLength ∧ p.1.ReadsInstant name bs ⟨u, 0⟩ := by
  refine ⟨?_, ?_, ?_, ?_⟩
  · intro v s f hv
    exact ⟨exactWords s f, instant s f, timestamp?_of_since1900 hv, toInt_unixSeconds s,
      fractionNanos_lt f, nanos_floor f⟩
  · intro v s f v' s' f' hv hv' horder
    exact ⟨instant s f, instant s' f', timestamp?_of_since1900 hv, timestamp?_of_since1900 hv',
      instant_le_instant horder⟩
  · intro bs hlength
    exact DataType.readsInstant_of_eight name hlength
  · intro u hu p hp
    have hinstant := timestamp?_of_wholeSecond hu hp
    have haccepts := p.1.accepts_maxLength
    obtain ⟨bs, hencode, hlength, hvalue⟩ :=
      exists_encode haccepts (suits_of_mem_wholeSecond hp)
    rw [← hlength] at haccepts
    exact ⟨hinstant, bs, hencode, hlength, p.2, DataType.decode_ofBytes name haccepts hvalue,
      hinstant⟩

/-- The last second that four octets count from 1900, close before its end: of these octets the
masked bits move the point in time by all of 477 nanoseconds. -/
theorem instants_at_range_end :
    let fraction : UInt32 := 0xFFFFEFFF
    let bs : Bytes := [0xFF, 0xFF, 0xFF, 0xFF, 0xFF, 0xFF, 0xEF, 0xFF]
    (∃ t, (nanoseconds 0xFFFFFFFF fraction).timestamp? = some t ∧ t.seconds = 2085978495 ∧
      t.nanos * 2 ^ 32 ≤ 4294963199 * 1000000000 ∧
      4294963199 * 1000000000 < (t.nanos + 1) * 2 ^ 32) ∧
    (∃ t t', (nanoseconds 0xFFFFFFFE fraction).timestamp? = some t ∧
      (microseconds 0xFFFFFFFF 0).timestamp? = some t' ∧ t ≤ t') ∧
    (∃ t t', DataType.dateTimeMicroseconds.ReadsInstant "flowStartMicroseconds" bs t ∧
      DataType.dateTimeNanoseconds.ReadsInstant "flowStartMicroseconds" bs t' ∧
      t ≤ t' ∧ t'.nanos ≤ t.nanos + 477) ∧
    (fractionNanos fraction).toNat
      = (fractionNanos (fraction &&& DataType.microsecondMask)).toNat + 477 ∧
    ∃ octets, (milliseconds 2085978495000).encode? 8 = some octets ∧
      DataType.dateTimeMilliseconds.ReadsInstant "flowStartMicroseconds" octets ⟨2085978495, 0⟩ := by
  intro fraction bs
  obtain ⟨hfloor, horder, hwire, hwhole⟩ := instants_exact "flowStartMicroseconds"
  refine ⟨?_, ?_, ?_, by decide, ?_⟩
  · obtain ⟨-, t, ht, hseconds, -, hlow, hhigh⟩ := hfloor _ _ _ (.nanoseconds 0xFFFFFFFF fraction)
    exact ⟨t, ht, hseconds, hlow, hhigh⟩
  · exact horder _ _ _ _ _ _ (.nanoseconds 0xFFFFFFFE fraction) (.microseconds 0xFFFFFFFF 0)
      (Or.inl (by decide))
  · obtain ⟨t, t', hmicro, hnano, hle, -, hclose⟩ := hwire bs rfl
    exact ⟨t, t', hmicro, hnano, hle, hclose⟩
  · obtain ⟨-, octets, hencode, -, hreads⟩ := hwhole 2085978495 (by decide)
      (.dateTimeMilliseconds, .milliseconds 2085978495000) (by decide)
    exact ⟨octets, hencode, hreads⟩

end Value

end FlowIntake
