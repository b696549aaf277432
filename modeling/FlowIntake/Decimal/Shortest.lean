/-
# The fewest digits that read back

Each finite double is the nearest double to an interval of numbers, ends included when its
mantissa is even.  Of the decimals with the fewest digits in that interval the nearest to the
double is its shortest text; a `Style` says which of two equally near ones is taken and how
digits and exponent are laid out.

* `Interval`: the double and the two ends of its interval, in one unit;
* `shortest`: digits and decimal exponent;
* `Style.text`: the text of a pattern.
-/
import FlowIntake.Decimal.Binary64

namespace FlowIntake.Decimal

/-! ## 1. The interval of a double -/

/-- `low ≤ value ≤ high`, each times `2 ^ exponent`; the ends belong to it when `closed`. -/
structure Interval where
  low : Nat
  value : Nat
  high : Nat
  exponent : Int
  closed : Bool
deriving DecidableEq

/-- The numbers that read as `mantissa · 2 ^ exponent`. -/
def interval (mantissa : Nat) (exponent : Int) (lowEdge : Bool) : Interval :=
  ⟨if lowEdge then 4 * mantissa - 1 else 4 * mantissa - 2, 4 * mantissa, 4 * mantissa + 2,
    exponent - 2, mantissa % 2 = 0⟩

/-! ## 2. Decimal grids -/

/-- The value as a fraction `numerator / denominator` of the grid step `10 ^ place`, for one of
the interval's numbers: all of them share the denominator. -/
structure Grid where
  scale : Nat
  step : Nat

/-- The grid of the multiples of `10 ^ place`: the interval's `n` stands for
`n * scale / step` steps. -/
def grid (exponent place : Int) : Grid :=
  ⟨(1 <<< exponent.toNat) * Nat.pow 10 (-place).toNat,
    (1 <<< (-exponent).toNat) * Nat.pow 10 place.toNat⟩

/-- Whether `n` steps of the grid lie in the interval. -/
def Interval.has (i : Interval) (g : Grid) (n : Nat) : Bool :=
  let x := n * g.step
  if i.closed then i.low * g.scale ≤ x ∧ x ≤ i.high * g.scale
  else i.low * g.scale < x ∧ x < i.high * g.scale

/-- The point of the grid in the interval that is nearest to the value, if there is one.  Of two
equally near ones the even one is taken when `tieToEven`, else the upper one. -/
def Interval.nearest? (i : Interval) (g : Grid) (tieToEven : Bool) : Option Nat :=
  let v := i.value * g.scale
  let below := v / g.step
  let above := below + 1
  let down := v - below * g.step
  let up := above * g.step - v
  match i.has g below, i.has g above with
  | false, false => none
  | true, false => some below
  | false, true => some above
  | true, true =>
    if down < up ∨ (down = up ∧ tieToEven ∧ below % 2 = 0) then some below else some above

/-- How many digits the whole part of `value · 2 ^ exponent` has, less the zeros that follow the
point when there is none: the value lies below `10 ^ size` and not below a tenth of that. -/
def Interval.size (i : Interval) : Int :=
  let guess := (((i.value.log2 : Int) + i.exponent) * 30103).fdiv 100000
  let reaches (place : Int) : Bool :=
    let g := grid i.exponent place
    g.step ≤ i.value * g.scale
  if reaches (guess + 1) then guess + 2 else if reaches guess then guess + 1 else guess

/-! ## 3. The shortest decimal -/

/-- The first grid with a point in the interval, from one digit on: that point and the place. -/
def search (i : Interval) (size : Int) (tieToEven : Bool) : (fuel digits : Nat) → Nat × Int
  | 0, digits => (i.value, size - digits)
  | fuel + 1, digits =>
    let place := size - digits
    match i.nearest? (grid i.exponent place) tieToEven with
    | some n => (n, place)
    | none => search i size tieToEven fuel (digits + 1)

/-- The digits of a number, without the zeros at its end. -/
def digits (n : Nat) : List Char :=
  ((Nat.toDigits 10 n).reverse.dropWhile (· == '0')).reverse

/-- The digits of the shortest decimal and the power of ten of the first of them. -/
def shortest (mantissa : Nat) (exponent : Int) (lowEdge tieToEven : Bool) : List Char × Int :=
  let i := interval mantissa exponent lowEdge
  let (n, place) := search i i.size tieToEven 17 1
  (digits n, place + (Nat.toDigits 10 n).length - 1)

/-! ## 4. Layout -/

/-- How a double is written. -/
structure Style where
  /-- The powers of ten of the first digit that are written without an exponent; all of them
  when absent. -/
  plain : Option (Int × Int)
  /-- Whether a whole number ends in `.0`. -/
  pointZero : Bool
  /-- Whether the even one of two equally near decimals is taken, else the larger one. -/
  tieToEven : Bool
  nan : String
  infinite : Bool → String

/-- `n` zeros. -/
def zeros (n : Nat) : List Char := List.replicate n '0'

/-- The digits with the point where the power `first` of the first digit puts it. -/
def Style.positional (s : Style) (ds : List Char) (first : Int) : List Char :=
  if first < 0 then '0' :: '.' :: zeros (-first - 1).toNat ++ ds
  else
    let whole := first.toNat + 1
    if ds.length ≤ whole then
      ds ++ zeros (whole - ds.length) ++ if s.pointZero then ['.', '0'] else []
    else ds.take whole ++ '.' :: ds.drop whole

/-- One digit, a point when more follow, and the exponent with its sign. -/
def scientific (ds : List Char) (first : Int) : List Char :=
  ds.take 1 ++ (if ds.length ≤ 1 then [] else '.' :: ds.drop 1) ++
    'e' :: (if first < 0 then '-' else '+') :: Nat.toDigits 10 first.natAbs

/-- The text of a pattern. -/
def Style.text (s : Style) (bits : UInt64) : String :=
  match Binary64.classify bits with
  | .nan => s.nan
  | .infinite negative => s.infinite negative
  | .finite negative mantissa exponent lowEdge =>
    let sign := if negative then ['-'] else []
    if mantissa = 0 then String.ofList (sign ++ '0' :: if s.pointZero then ['.', '0'] else [])
    else
      let (ds, first) := shortest mantissa exponent lowEdge s.tieToEven
      let plain := match s.plain with
        | none => true
        | some (least, greatest) => least ≤ first ∧ first ≤ greatest
      String.ofList (sign ++ if plain then s.positional ds first else scientific ds first)

end FlowIntake.Decimal
