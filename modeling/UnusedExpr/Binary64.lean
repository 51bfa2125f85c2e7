/-!
# Double-precision numbers

A finite double is `±significand · 2^exponent` with a significand below `2^53` and an exponent of at
least `-1074`. Every operation computes the exact rational result and rounds it once, to the nearest
double and to an even significand on a tie, so no hardware arithmetic is needed to say what a number is.
-/

namespace UnusedExpr

/-- The powers of two. -/
def twoTo (k : Nat) : Nat := Nat.pow 2 k

/-- The powers of ten. -/
def tenTo (k : Nat) : Nat := Nat.pow 10 k

/-- The value of a finite, non-negative double: `significand · 2^exponent`. -/
structure Magnitude where
  significand : Nat
  exponent : Int
deriving DecidableEq, Repr

/-- A finite double. Zero has both signs. -/
structure Binary64 where
  negative : Bool
  magnitude : Magnitude
deriving DecidableEq, Repr

namespace Magnitude

/-- The least exponent of a double; numbers that have it may use fewer than 53 bits. -/
def leastExponent : Int := -1074

/-- The greatest exponent of a double. -/
def greatestExponent : Int := 971

def zero : Magnitude := ⟨0, leastExponent⟩

/-- The quotient `num / den`, rounded to the nearest whole number and to the even one on a tie. -/
def roundDiv (num den : Nat) : Nat :=
  let quotient := num / den
  let twice := 2 * (num % den)
  if twice > den ∨ (twice = den ∧ quotient % 2 = 1) then quotient + 1 else quotient

/-- The fraction `num / den / 2^exponent`, as a numerator and a denominator. -/
def unscale (num den : Nat) (exponent : Int) : Nat × Nat :=
  if exponent < 0 then (num * twoTo (-exponent).toNat, den) else (num, den * twoTo exponent.toNat)

/-- The exponent at which `num / den` has a whole part of 53 bits, but never less than the least one. -/
def exponentOf (num den : Nat) : Int :=
  let guess : Int := (Nat.log2 num : Int) - Nat.log2 den - 52
  let (n, d) := unscale num den guess
  max leastExponent (if n / d < twoTo 52 then guess - 1 else guess)

/-- The double nearest to `num / den`, or `none` if it is too large for a double. -/
def ofRatio (num den : Nat) : Option Magnitude :=
  if num = 0 then some zero
  else
    let exponent := exponentOf num den
    let (n, d) := unscale num den exponent
    let significand := roundDiv n d
    let rounded : Magnitude :=
      if significand = twoTo 53 then ⟨twoTo 52, exponent + 1⟩ else ⟨significand, exponent⟩
    if rounded.exponent > greatestExponent then none else some rounded

/-- The exact value, as a numerator and a denominator. -/
def ratio (x : Magnitude) : Nat × Nat :=
  if x.exponent < 0 then (x.significand, twoTo (-x.exponent).toNat)
  else (x.significand * twoTo x.exponent.toNat, 1)

def ofNat (n : Nat) : Option Magnitude :=
  ofRatio n 1

def mul (x y : Magnitude) : Option Magnitude :=
  ofRatio (x.ratio.1 * y.ratio.1) (x.ratio.2 * y.ratio.2)

def div (x y : Magnitude) : Option Magnitude :=
  ofRatio (x.ratio.1 * y.ratio.2) (x.ratio.2 * y.ratio.1)

/-- The largest power of ten that is a finite double. -/
def decimalRange : Nat := 308

/-- `x / 10^power`, by divisors within the range of doubles. -/
def shrink (x : Magnitude) (power : Nat) : Option Magnitude :=
  if power ≤ decimalRange then do x.div (← ofNat (tenTo power))
  else if x.significand = 0 then some x
  else do
    let y ← x.div (← ofNat (tenTo decimalRange))
    y.shrink (power - decimalRange)
termination_by power
decreasing_by all_goals simp only [decimalRange] at *; omega

/-- The double read from `digits · 10^power`: the digits become a double first, which one multiplication
    or division by a power of ten then scales. `none` if the result is too large. -/
def ofDecimal (digits : Nat) (power : Int) : Option Magnitude := do
  let x ← ofNat digits
  if power < 0 then x.shrink (-power).toNat
  else if power.toNat ≤ decimalRange then x.mul (← ofNat (tenTo power.toNat))
  else if digits = 0 then some x
  else none

end Magnitude

end UnusedExpr
