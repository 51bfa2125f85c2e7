import UnusedExpr.Binary64

/-!
# Decimals

The shortest decimal of a double is the one with the fewest digits among those that round to it, and
the nearest to it among those. For one digit, two digits and so on, only the value's two neighbours on
the grid of decimals with that many digits can qualify first; the arithmetic is exact. A decimal is written
positionally while its leading power is in a given range, and otherwise with one digit before the point and
a signed exponent.
-/

namespace UnusedExpr

/-- The decimal `digits · 10^power`. -/
structure Decimal where
  digits : Nat
  power : Int
deriving DecidableEq, Repr

namespace Decimal

/-- The decimal digits of a number, most significant first. -/
def figures (n : Nat) : List Char :=
  Nat.toDigits 10 n

/-- The greatest power of ten that is at most `num / den`, for a positive fraction. -/
def leadingPower (num den : Nat) : Int :=
  if num / den = 0 then -((figures ((den + num - 1) / num - 1)).length : Int)
  else (figures (num / den)).length - 1

/-- The reals that round to a double, in quarters of its last place. -/
structure Interval where
  low : Nat
  value : Nat
  high : Nat
  /-- Whether the two ends round to the double as well. -/
  closed : Bool

/-- Where the spacing of doubles narrows below a power of two, the interval reaches half as far down. -/
def Interval.of (x : Magnitude) : Interval :=
  let m := x.significand
  let low := if m = twoTo 52 ∧ x.exponent > Magnitude.leastExponent then 4 * m - 1 else 4 * m - 2
  ⟨low, 4 * m, 4 * m + 2, m % 2 = 0⟩

/-- A common unit for a double and a grid of decimals: one quarter of the double's last place is `quarter`
    units, and one step of the grid is `grid` units. -/
structure Scale where
  quarter : Nat
  grid : Nat

/-- The scale for a double whose last place is `2^exponent` and decimals whose last place is `10^power`. -/
def Scale.of (exponent power : Int) : Scale :=
  let binary := exponent - 2
  ⟨twoTo binary.toNat * tenTo (-power).toNat, tenTo power.toNat * twoTo (-binary).toNat⟩

/-- Whether the decimal rounds to the double. -/
def Interval.holds (i : Interval) (s : Scale) (digits : Nat) : Bool :=
  let here := digits * s.grid
  let low := i.low * s.quarter
  let high := i.high * s.quarter
  if i.closed then low ≤ here && here ≤ high else low < here && here < high

/-- The better of the value's two neighbours on a grid: one that rounds to the double, the nearer if
    both do, and the even one on a tie. -/
def Interval.choose (i : Interval) (s : Scale) : Option Nat :=
  let below := i.value * s.quarter / s.grid
  let above := below + 1
  match i.holds s below, i.holds s above with
  | true, false => some below
  | false, true => some above
  | false, false => none
  | true, true =>
    let down := i.value * s.quarter - below * s.grid
    let up := above * s.grid - i.value * s.quarter
    if down < up ∨ (down = up ∧ below % 2 = 0) then some below else some above

/-- Removes zeros at the end, at most `fuel` of them. -/
def trim : Nat → Decimal → Decimal
  | 0, d => d
  | fuel + 1, d => if d.digits ≠ 0 ∧ d.digits % 10 = 0 then trim fuel ⟨d.digits / 10, d.power + 1⟩ else d

/-- The shortest decimal of a positive double. Seventeen digits always suffice. -/
def shortest (x : Magnitude) : Decimal :=
  let lead := leadingPower x.ratio.1 x.ratio.2
  let interval := Interval.of x
  let found := (List.range 17).findSome? fun (n : Nat) =>
    let power := lead - n
    (interval.choose (Scale.of x.exponent power)).map fun digits => (⟨digits, power⟩ : Decimal)
  trim 17 (found.getD ⟨0, 0⟩)

/-! ### Writing -/

/-- The choices that a format leaves open. -/
structure Layout where
  /-- The least leading power written positionally. -/
  leastPositional : Int
  /-- The least leading power above those written positionally. -/
  endPositional : Int
  /-- Written after a whole number in positional notation. -/
  wholeMark : String
  /-- Written between the digits and a non-negative exponent. -/
  upMark : String
  /-- Written between the digits and a negative exponent. -/
  downMark : String

/-- The digits with a point after the first `whole` of them. -/
def point (figures : List Char) (whole : Nat) : String :=
  String.ofList (figures.take whole) ++ "." ++ String.ofList (figures.drop whole)

/-- The positional form of `figures · 10^power`. -/
def positional (l : Layout) (figures : List Char) (power : Int) : String :=
  let zeros (k : Int) := List.replicate k.toNat '0'
  let whole := figures.length + power
  if 0 ≤ power then String.ofList (figures ++ zeros power) ++ l.wholeMark
  else if 0 < whole then point figures whole.toNat
  else "0." ++ String.ofList (zeros (-whole) ++ figures)

def scientific (l : Layout) (figures : List Char) (leading : Int) : String :=
  let mantissa := if figures.length = 1 then String.ofList figures else point figures 1
  let mark := if leading < 0 then l.downMark else l.upMark
  mantissa ++ mark ++ String.ofList (Decimal.figures leading.natAbs)

def write (l : Layout) (d : Decimal) : String :=
  let figures := Decimal.figures d.digits
  let leading := figures.length - 1 + d.power
  if l.leastPositional ≤ leading ∧ leading < l.endPositional then positional l figures d.power
  else scientific l figures leading

end Decimal

end UnusedExpr
