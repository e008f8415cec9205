/-!
Positional numerals: the digits of a number in a base, most significant first, and their texts.
-/

namespace EngineClient.Numeral

def digitsWithin : Nat → Nat → Nat → List Nat
  | 0, _, value => [value]
  | fuel + 1, base, value =>
    if value < base then [value] else digitsWithin fuel base (value / base) ++ [value % base]

/-- The digits of `value`, most significant first; zero has the single digit zero. -/
def digits (base value : Nat) : List Nat := digitsWithin value base value

def value (base : Nat) (digits : List Nat) : Nat :=
  digits.foldl (fun total digit => total * base + digit) 0

def digitChar (digit : Nat) : Char :=
  if digit < 10 then Char.ofNat (0x30 + digit) else Char.ofNat (0x57 + digit)

def text (base value : Nat) : List Char := (digits base value).map digitChar

def decimal (value : Nat) : List Char := text 10 value

def hexadecimal (value : Nat) : List Char := text 16 value

def decimalInt (value : Int) : List Char :=
  if value < 0 then '-' :: decimal value.natAbs else decimal value.natAbs

end EngineClient.Numeral
