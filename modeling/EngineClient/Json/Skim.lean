import EngineClient.Json.Scalar

/-!
Passing over a value without building it. Nesting is unlimited, numbers have no range and strings are
checked neither for their encoding nor for the pairing of surrogates.
-/

namespace EngineClient.Json.Skim

def string : Bytes → Except Error Bytes
  | [] => .error .endInString
  | octet :: rest =>
    if octet = Octet.quote then .ok rest
    else if octet = Octet.backslash then
      match rest with
      | [] => .error .endInString
      | letter :: rest =>
        if letter = Octet.letterU then
          match rest with
          | a :: b :: c :: d :: rest =>
            if (hexUnit? a b c d).isSome then string rest else .error .invalidEscape
          | _ => .error .endInString
        else if (escaped? letter).isSome then string rest
        else .error .invalidEscape
    else if octet < 0x20 then .error .controlCharacter
    else string rest

def someDigits (input : Bytes) : Except Error Bytes :=
  if startsWith Octet.isDigit input then .ok (skipDigits input) else .error .invalidNumber

def exponent (input : Bytes) : Except Error Bytes := someDigits (exponentSign input).2

def optionalExponent : Bytes → Except Error Bytes
  | [] => .ok []
  | octet :: rest => if Octet.isExponentMark octet then exponent rest else .ok (octet :: rest)

def afterWhole : Bytes → Except Error Bytes
  | [] => .ok []
  | octet :: rest =>
    if octet = Octet.point then someDigits rest >>= optionalExponent
    else optionalExponent (octet :: rest)

def number : Bytes → Except Error Bytes
  | [] => .error .invalidNumber
  | octet :: rest =>
    if octet = Octet.zero then
      if startsWith Octet.isDigit rest then .error .invalidNumber else afterWhole rest
    else if Octet.isDigit octet then afterWhole (skipDigits rest)
    else .error .invalidNumber

def scalar (octet : UInt8) (rest : Bytes) : Except Error Bytes :=
  if octet = Octet.letterN then readLetters afterN rest
  else if octet = Octet.letterT then readLetters afterT rest
  else if octet = Octet.letterF then readLetters afterF rest
  else if octet = Octet.minus then number rest
  else if Octet.isDigit octet then number (octet :: rest)
  else if octet = Octet.quote then string rest
  else .error .expectedValue

inductive Nest where
  | list
  | object
  deriving DecidableEq

def Nest.close : Nest → UInt8
  | .list => Octet.closeList
  | .object => Octet.closeObject

def Nest.atEnd : Nest → Error
  | .list => .endInList
  | .object => .endInObject

def Nest.expected : Nest → Error
  | .list => .expectedListSeparator
  | .object => .expectedObjectSeparator

/-- What stands before the next value: nothing in a list, a key and its colon in an object. -/
def Nest.entry (nest : Nest) (input : Bytes) : Except Error Bytes :=
  match nest with
  | .list => .ok input
  | .object =>
    match skipBlanks input with
    | [] => .error .endInObject
    | octet :: rest => if octet = Octet.quote then string rest >>= colon else .error .keyNotString

/-- Either a value is due, or what may follow one: a comma unless the container was just opened. -/
inductive Stage where
  | value
  | after (comma : Bool)
  deriving DecidableEq

/-- Runs to the end of the outermost value. Two rounds take at least one byte, so `fuel` of twice the
input's length is never used up. -/
def run : Nat → Stage → List Nest → Bytes → Except Error Bytes
  | 0, _, _, _ => .error .endInValue
  | fuel + 1, .value, nests, input =>
    match skipBlanks input with
    | [] => .error .endInValue
    | octet :: rest =>
      if octet = Octet.openList then run fuel (.after false) (.list :: nests) rest
      else if octet = Octet.openObject then run fuel (.after false) (.object :: nests) rest
      else scalar octet rest >>= run fuel (.after true) nests
  | _ + 1, .after _, [], input => .ok input
  | fuel + 1, .after comma, nest :: nests, input =>
    match skipBlanks input with
    | [] => .error nest.atEnd
    | octet :: rest =>
      if comma ∧ octet = Octet.comma then nest.entry rest >>= run fuel .value (nest :: nests)
      else if octet = nest.close then run fuel (.after true) nests rest
      else if comma then .error nest.expected
      else nest.entry (octet :: rest) >>= run fuel .value (nest :: nests)

def value (input : Bytes) : Except Error Bytes :=
  run (2 * input.length + 2) .value [] input

end EngineClient.Json.Skim
