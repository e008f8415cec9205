/-!
Finite binary floating point numbers of 53 significant bits, in exact integer arithmetic. Every
operation rounds the exact result once, to the nearest number, a tie going to the even significand.
-/

namespace EngineClient

/-- The number `± significand · 2 ^ exponent`. A nonzero significand has 53 bits unless the exponent
is the least one, so that a number has one representation for each sign. -/
structure Binary64 where
  negative : Bool
  significand : Nat
  exponent : Int
  deriving DecidableEq, Repr

namespace Binary64

def leastExponent : Int := -1074

def greatestExponent : Int := 971

def zero : Binary64 := ⟨false, 0, leastExponent⟩

def neg (x : Binary64) : Binary64 := { x with negative := !x.negative }

def withSign (negative : Bool) (x : Binary64) : Binary64 := if negative then x.neg else x

def isZero (x : Binary64) : Bool := x.significand == 0

/-- The quotient rounded to the nearest integer, a half going to the even neighbour. -/
def roundHalfEven (numerator denominator : Nat) : Nat :=
  let floor := numerator / denominator
  let twice := 2 * (numerator % denominator)
  if twice < denominator ∨ twice = denominator ∧ floor % 2 = 0 then floor else floor + 1

def scaleDown (numerator denominator : Nat) (exponent : Int) : Nat × Nat :=
  if exponent < 0 then (numerator * Nat.pow 2 exponent.natAbs, denominator)
  else (numerator, denominator * Nat.pow 2 exponent.natAbs)

/-- The number nearest to a nonnegative fraction, or `none` above the greatest finite number. -/
def ofFraction? (numerator denominator : Nat) : Option Binary64 :=
  if numerator = 0 then some zero
  else
    let estimate : Int := (numerator.log2 : Int) - denominator.log2
    let (n, d) := scaleDown numerator denominator estimate
    let exponent := max (if n < d then estimate - 53 else estimate - 52) leastExponent
    let (n, d) := scaleDown numerator denominator exponent
    let significand := roundHalfEven n d
    let (significand, exponent) :=
      if significand = 0x20000000000000 then (0x10000000000000, exponent + 1)
      else (significand, exponent)
    if greatestExponent < exponent then none else some ⟨false, significand, exponent⟩

def toFraction (x : Binary64) : Nat × Nat :=
  scaleDown x.significand 1 (-x.exponent)

def powerOfTen? (power : Nat) : Option Binary64 := ofFraction? (Nat.pow 10 power) 1

def mul? (x y : Binary64) : Option Binary64 :=
  let (a, b) := x.toFraction
  let (c, d) := y.toFraction
  (ofFraction? (a * c) (b * d)).map (withSign (x.negative != y.negative))

def div? (x y : Binary64) : Option Binary64 :=
  let (a, b) := x.toFraction
  let (c, d) := y.toFraction
  if c = 0 then none else (ofFraction? (a * d) (b * c)).map (withSign (x.negative != y.negative))

def greatestPower : Nat := 308

def divPowerOfTen? (x : Binary64) (power : Nat) : Option Binary64 :=
  if power ≤ greatestPower then powerOfTen? power >>= x.div?
  else if x.isZero then some x
  else do
    let y ← x.div? (← powerOfTen? greatestPower)
    divPowerOfTen? y (power - greatestPower)
termination_by power
decreasing_by simp [greatestPower] at *; omega

def mulPowerOfTen? (x : Binary64) (power : Nat) : Option Binary64 :=
  if power ≤ greatestPower then powerOfTen? power >>= x.mul?
  else if x.isZero then some x
  else none

/-- The value read for `significand · 10 ^ exponent`: the significand is rounded first and the power
of ten applied to it, so the result can be a neighbour of the nearest number. -/
def ofDecimal? (significand : Nat) (exponent : Int) : Option Binary64 := do
  let x ← ofFraction? significand 1
  if 0 ≤ exponent then x.mulPowerOfTen? exponent.natAbs else x.divPowerOfTen? exponent.natAbs

end Binary64

end EngineClient
