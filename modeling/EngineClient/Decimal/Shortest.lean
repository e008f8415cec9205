import EngineClient.Decimal.Binary64
import EngineClient.Text.Numeral

/-!
The fewest decimal digits that read back as a given binary number, nearest to it among those, and
their positional or scientific notation.
-/

namespace EngineClient

structure Decimal where
  digits : List Nat
  exponent : Int
  deriving DecidableEq, Repr

namespace Decimal

structure Interval where
  lower : Nat
  middle : Nat
  upper : Nat
  denominator : Nat
  closed : Bool

/-- Half the distance to each neighbour; below a power of two the neighbour is twice as close. -/
def Interval.around (x : Binary64) : Interval :=
  let below :=
    if x.significand = 0x10000000000000 ∧ Binary64.leastExponent < x.exponent then 1 else 2
  let scale := Nat.pow 2 (x.exponent - 2).natAbs
  let up := if 2 ≤ x.exponent then scale else 1
  let down := if 2 ≤ x.exponent then 1 else scale
  { lower := (4 * x.significand - below) * up
    middle := 4 * x.significand * up
    upper := (4 * x.significand + 2) * up
    denominator := down
    closed := x.significand % 2 = 0 }

def Interval.holds (interval : Interval) (numerator denominator : Nat) : Bool :=
  let scaled := numerator * interval.denominator
  if interval.closed then
    interval.lower * denominator ≤ scaled && scaled ≤ interval.upper * denominator
  else interval.lower * denominator < scaled && scaled < interval.upper * denominator

def leadingPlaces : Nat → Nat → Nat → Nat
  | 0, _, _ => 0
  | fuel + 1, numerator, denominator =>
    if denominator ≤ numerator then 0
    else leadingPlaces fuel (numerator * 10) denominator + 1

def scientificExponent (numerator denominator : Nat) : Int :=
  if denominator ≤ numerator then
    ((Numeral.digits 10 (numerator / denominator)).length : Int) - 1
  else -(leadingPlaces 400 numerator denominator : Int)

/-- The neighbour of the middle on the grid of step `10 ^ place` that lies in the interval; of two the
nearer one, and of two equally near the even one. -/
def Interval.onGrid? (interval : Interval) (place : Int) : Option Nat :=
  let up := if 0 ≤ place then Nat.pow 10 place.natAbs else 1
  let down := if 0 ≤ place then 1 else Nat.pow 10 place.natAbs
  let step := interval.denominator * up
  let scaled := interval.middle * down
  let floor := scaled / step
  let twice := 2 * (scaled % step)
  let low := interval.holds (floor * up) down
  let high := interval.holds ((floor + 1) * up) down
  if low && high then
    some (if twice < step ∨ twice = step ∧ floor % 2 = 0 then floor else floor + 1)
  else if low then some floor
  else if high then some (floor + 1)
  else none

def dropTrailingZeros (digits : List Nat) : List Nat :=
  match (digits.reverse.dropWhile (· == 0)).reverse with
  | [] => [0]
  | kept => kept

def search : Nat → Interval → Int → Decimal
  | 0, _, exponent => ⟨[0], exponent⟩
  | rounds + 1, interval, exponent =>
    let place := exponent - (17 - (rounds + 1) : Nat)
    match interval.onGrid? place with
    | some count =>
      let digits := Numeral.digits 10 count
      ⟨dropTrailingZeros digits, place + digits.length - 1⟩
    | none => search rounds interval exponent

def shortest (x : Binary64) : Decimal :=
  if x.isZero then ⟨[0], 0⟩
  else
    let interval := Interval.around x
    search 17 interval (scientificExponent interval.middle interval.denominator)

def digitText (digits : List Nat) : List Char := digits.map Numeral.digitChar

def positional (decimal : Decimal) : List Char :=
  if decimal.exponent < 0 then
    "0.".toList ++ List.replicate (decimal.exponent.natAbs - 1) '0' ++ digitText decimal.digits
  else
    let whole := decimal.exponent.natAbs + 1
    let padded := decimal.digits ++ List.replicate (whole - decimal.digits.length) 0
    match padded.drop whole with
    | [] => digitText padded ++ ".0".toList
    | fraction => digitText (padded.take whole) ++ '.' :: digitText fraction

def scientific (decimal : Decimal) : List Char :=
  let mantissa := match decimal.digits with
    | [] => ['0']
    | [digit] => [Numeral.digitChar digit]
    | digit :: fraction => Numeral.digitChar digit :: '.' :: digitText fraction
  let sign := if decimal.exponent < 0 then '-' else '+'
  mantissa ++ 'e' :: sign :: Numeral.decimal decimal.exponent.natAbs

/-- Exponents from -5 to 15 are written positionally. -/
def text (decimal : Decimal) : List Char :=
  if -5 ≤ decimal.exponent ∧ decimal.exponent < 16 then decimal.positional else decimal.scientific

end Decimal

def Binary64.text (x : Binary64) : List Char :=
  if x.negative then '-' :: (Decimal.shortest x).text else (Decimal.shortest x).text

end EngineClient
