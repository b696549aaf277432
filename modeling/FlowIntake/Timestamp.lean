/-
# Points in time

A `Timestamp` counts seconds from 1970-01-01T00:00:00Z, with nanoseconds on top, up to the end
of the year 262142.

* `Timestamp.ofUnix?`: the point in time of a count, if it lies in the range;
* `Date.ofDays`: the date of the proleptic Gregorian calendar;
* `Timestamp.text`: date and time of day as RFC 3339 writes them.
-/

namespace FlowIntake

/-! ## 1. Dates -/

/-- A date of the Gregorian calendar, extended to all years. -/
structure Date where
  year : Int
  month : Nat
  day : Nat
deriving DecidableEq

/-- The date `days` days after 1970-01-01.  Years are counted from March, so that a leap day is
the last day of its year. -/
def Date.ofDays (days : Int) : Date :=
  -- Days since 0000-03-01; 146097 days make 400 years.
  let z := days + 719468
  let era := z.fdiv 146097
  let inEra := (z - era * 146097).toNat
  let yearInEra := (inEra - inEra / 1460 + inEra / 36524 - inEra / 146096) / 365
  let inYear := inEra - (365 * yearInEra + yearInEra / 4 - yearInEra / 100)
  let month := (5 * inYear + 2) / 153
  let day := inYear - (153 * month + 2) / 5 + 1
  let year := era * 400 + yearInEra
  if month < 10 then ⟨year, month + 3, day⟩ else ⟨year + 1, month - 9, day⟩

example : Date.ofDays 0 = ⟨1970, 1, 1⟩ := by decide
example : Date.ofDays 11016 = ⟨2000, 2, 29⟩ := by decide
example : Date.ofDays (-25567) = ⟨1900, 1, 1⟩ := by decide

/-- The last `n` decimal digits of `v`. -/
def decimalDigits : Nat → Nat → List Char
  | 0, _ => []
  | n + 1, v => decimalDigits n (v / 10) ++ [Char.ofNat ('0'.toNat + v % 10)]

/-- A year of four digits stands alone; any other has its sign in front. -/
def Date.yearText (year : Int) : List Char :=
  if 0 ≤ year ∧ year ≤ 9999 then decimalDigits 4 year.toNat
  else
    let ds := Nat.toDigits 10 year.natAbs
    (if year < 0 then '-' else '+') :: (List.replicate (4 - ds.length) '0' ++ ds)

/-- Year, month and day with hyphens between them. -/
def Date.text (d : Date) : List Char :=
  yearText d.year ++ '-' :: decimalDigits 2 d.month ++ '-' :: decimalDigits 2 d.day

/-! ## 2. Timestamps -/

/-- Seconds since 1970-01-01T00:00:00Z, and nanoseconds. -/
structure Timestamp where
  seconds : Int
  nanos : Nat
deriving DecidableEq

namespace Timestamp

/-- The first second of the year -262143. -/
def first : Int := -8334601228800

/-- The last second of the year 262142. -/
def last : Int := 8210266876799

example : Date.ofDays (last.fdiv 86400) = ⟨262142, 12, 31⟩ := by decide

/-- The point in time `seconds` and `nanos` after the epoch, if it has a date. -/
def ofUnix? (seconds : Int) (nanos : Nat) : Option Timestamp :=
  if first ≤ seconds ∧ seconds ≤ last ∧ nanos < 1000000000 then some ⟨seconds, nanos⟩ else none

/-- The digits after the second: none, three, six or nine of them, the fewest that suffice. -/
def fractionText (nanos : Nat) : List Char :=
  if nanos = 0 then []
  else if nanos % 1000000 = 0 then '.' :: decimalDigits 3 (nanos / 1000000)
  else if nanos % 1000 = 0 then '.' :: decimalDigits 6 (nanos / 1000)
  else '.' :: decimalDigits 9 nanos

/-- Date and time of day in UTC, with the given mark for the zone. -/
def text (t : Timestamp) (zone : String) : String :=
  let days := t.seconds.fdiv 86400
  let inDay := (t.seconds - days * 86400).toNat
  String.ofList ((Date.ofDays days).text ++ 'T' :: decimalDigits 2 (inDay / 3600) ++
    ':' :: decimalDigits 2 (inDay / 60 % 60) ++ ':' :: decimalDigits 2 (inDay % 60) ++
    fractionText t.nanos) ++ zone

example : text ⟨1600000000, 0⟩ "Z" = "2020-09-13T12:26:40Z" := by decide +kernel

end Timestamp

end FlowIntake
