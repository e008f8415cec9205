import EngineClient.Json.Error

/-!
Readers of the words, numbers and strings of JSON. A reader takes the input from its position on and
returns what it read with the rest; the first fault from the left is the one reported.
-/

namespace EngineClient.Json

abbrev Reader (α : Type) := Bytes → Except Error (α × Bytes)

def isBlank (octet : UInt8) : Bool :=
  octet == Octet.space || octet == Octet.lineFeed || octet == Octet.tab ||
    octet == Octet.carriageReturn

def skipBlanks (input : Bytes) : Bytes := input.dropWhile isBlank

def readLetters : Bytes → Bytes → Except Error Bytes
  | [], input => .ok input
  | _ :: _, [] => .error .endInValue
  | letter :: letters, octet :: rest =>
    if octet = letter then readLetters letters rest else .error .expectedIdent

def afterN : Bytes := [0x75, 0x6C, 0x6C]

def afterT : Bytes := [0x72, 0x75, 0x65]

def afterF : Bytes := [0x61, 0x6C, 0x73, 0x65]

def colon (input : Bytes) : Except Error Bytes :=
  match skipBlanks input with
  | [] => .error .endInObject
  | octet :: rest => if octet = Octet.colon then .ok rest else .error .expectedColon

def fits (significand : Nat) (octet : UInt8) : Bool :=
  significand * 10 + Octet.digit octet < 0x10000000000000000

def startsWith (test : UInt8 → Bool) : Bytes → Bool
  | [] => false
  | octet :: _ => test octet

def skipDigits (input : Bytes) : Bytes := input.dropWhile Octet.isDigit

/-- The number behind its sign, from a decimal significand and exponent. -/
def assemble (positive : Bool) (significand : Nat) (exponent : Int) (rest : Bytes) :
    Except Error (Number × Bytes) :=
  match Binary64.ofDecimal? significand exponent with
  | some x => .ok (.double (x.withSign (!positive)), rest)
  | none => .error .numberOutOfRange

/-- Greatest exponent that is counted; beyond it only the sign of the exponent matters. -/
def greatestExponent : Nat := 0x7FFFFFFF

def readExponentDigits (positive : Bool) (significand : Nat) (exponent : Int) (raises : Bool)
    (total : Nat) : Reader Number
  | [] => assemble positive significand (if raises then exponent + total else exponent - total) []
  | octet :: rest =>
    if Octet.isDigit octet then
      if greatestExponent < total * 10 + Octet.digit octet then
        if significand ≠ 0 ∧ raises then .error .numberOutOfRange
        else .ok (.double (Binary64.zero.withSign (!positive)), skipDigits rest)
      else
        readExponentDigits positive significand exponent raises
          (total * 10 + Octet.digit octet) rest
    else
      assemble positive significand (if raises then exponent + total else exponent - total)
        (octet :: rest)

def exponentSign : Bytes → Bool × Bytes
  | [] => (true, [])
  | octet :: rest =>
    if octet = Octet.plus then (true, rest)
    else if octet = Octet.minus then (false, rest)
    else (true, octet :: rest)

def readExponent (positive : Bool) (significand : Nat) (exponent : Int) (input : Bytes) :
    Except Error (Number × Bytes) :=
  let (raises, digits) := exponentSign input
  match digits with
  | [] => .error .endInValue
  | octet :: rest =>
    if Octet.isDigit octet then
      readExponentDigits positive significand exponent raises (Octet.digit octet) rest
    else .error .invalidNumber

def finish (positive : Bool) (significand : Nat) (exponent : Int) : Reader Number
  | [] => assemble positive significand exponent []
  | octet :: rest =>
    if Octet.isExponentMark octet then readExponent positive significand exponent rest
    else assemble positive significand exponent (octet :: rest)

/-- The digits after the point. Digits beyond 64 bits are checked and dropped. -/
def readFraction (positive : Bool) (significand : Nat) (exponent : Int) (begun : Bool) :
    Reader Number
  | [] => if begun then finish positive significand exponent [] else .error .endInValue
  | octet :: rest =>
    if Octet.isDigit octet then
      if fits significand octet then
        readFraction positive (significand * 10 + Octet.digit octet) (exponent - 1) true rest
      else finish positive significand exponent (skipDigits rest)
    else if begun then finish positive significand exponent (octet :: rest)
    else .error .invalidNumber

/-- The digits before the point that no longer fit; each raises the exponent instead. -/
def readExcess (positive : Bool) (significand : Nat) (exponent : Int) : Reader Number
  | [] => finish positive significand exponent []
  | octet :: rest =>
    if Octet.isDigit octet then readExcess positive significand (exponent + 1) rest
    else if octet = Octet.point then readFraction positive significand exponent false rest
    else finish positive significand exponent (octet :: rest)

/-- A number with neither point nor exponent. Zero behind a minus keeps its sign as floating point. -/
def whole (positive : Bool) (significand : Nat) : Number :=
  if within : positive ∧ significand < 0x10000000000000000 then .integer ⟨significand, by omega⟩
  else if within : 0 < significand ∧ significand ≤ 0x8000000000000000 then
    .integer ⟨-(significand : Int), by omega⟩
  else
    .double (((Binary64.ofFraction? significand 1).getD Binary64.zero).withSign (!positive))

def afterWhole (positive : Bool) (significand : Nat) : Reader Number
  | [] => .ok (whole positive significand, [])
  | octet :: rest =>
    if octet = Octet.point then readFraction positive significand 0 false rest
    else if Octet.isExponentMark octet then readExponent positive significand 0 rest
    else .ok (whole positive significand, octet :: rest)

def readWhole (positive : Bool) (significand : Nat) : Reader Number
  | [] => afterWhole positive significand []
  | octet :: rest =>
    if Octet.isDigit octet then
      if fits significand octet then
        readWhole positive (significand * 10 + Octet.digit octet) rest
      else readExcess positive significand 1 rest
    else afterWhole positive significand (octet :: rest)

def readNumber (positive : Bool) : Reader Number
  | [] => .error .endInValue
  | octet :: rest =>
    if octet = Octet.zero then
      if startsWith Octet.isDigit rest then .error .invalidNumber else afterWhole positive 0 rest
    else if Octet.isDigit octet then readWhole positive (Octet.digit octet) rest
    else .error .invalidNumber

def escaped? (octet : UInt8) : Option UInt8 :=
  match octet with
  | Octet.quote => some Octet.quote
  | Octet.backslash => some Octet.backslash
  | Octet.slash => some Octet.slash
  | Octet.letterB => some 0x08
  | Octet.letterF => some 0x0C
  | Octet.letterN => some Octet.lineFeed
  | Octet.letterR => some Octet.carriageReturn
  | Octet.letterT => some Octet.tab
  | _ => none

def hexUnit? (a b c d : UInt8) : Option Nat := do
  let a ← Octet.hexDigit? a
  let b ← Octet.hexDigit? b
  let c ← Octet.hexDigit? c
  let d ← Octet.hexDigit? d
  return a * 0x1000 + b * 0x100 + c * 0x10 + d

def isLeading (unit : Nat) : Bool := 0xD800 ≤ unit && unit ≤ 0xDBFF

def isTrailing (unit : Nat) : Bool := 0xDC00 ≤ unit && unit ≤ 0xDFFF

def paired (leading trailing : Nat) : Char :=
  Char.ofNat ((leading - 0xD800) * 0x400 + (trailing - 0xDC00) + 0x10000)

def prepend (bytes : Bytes) (reading : Except Error (Bytes × Bytes)) :
    Except Error (Bytes × Bytes) :=
  reading.map fun (body, rest) => (bytes ++ body, rest)

/-- The bytes of a string up to its closing quote, escapes replaced. A leading surrogate needs an escaped
trailing one right behind it. -/
def readBody : Reader Bytes
  | [] => .error .endInString
  | octet :: rest =>
    if octet = Octet.quote then .ok ([], rest)
    else if octet = Octet.backslash then
      match rest with
      | [] => .error .endInString
      | letter :: rest =>
        if letter = Octet.letterU then
          match rest with
          | a :: b :: c :: d :: rest =>
            match hexUnit? a b c d with
            | none => .error .invalidEscape
            | some unit =>
              if isTrailing unit then .error .loneSurrogate
              else if isLeading unit then
                match rest with
                | [] => .error .endInString
                | mark :: rest =>
                  if mark = Octet.backslash then
                    match rest with
                    | [] => .error .endInString
                    | letter :: rest =>
                      if letter = Octet.letterU then
                        match rest with
                        | a :: b :: c :: d :: rest =>
                          match hexUnit? a b c d with
                          | none => .error .invalidEscape
                          | some second =>
                            if isTrailing second then
                              prepend (Utf8.encodeChar (paired unit second)) (readBody rest)
                            else .error .loneSurrogate
                        | _ => .error .endInString
                      else .error .endOfHexEscape
                  else .error .endOfHexEscape
              else prepend (Utf8.encodeChar (Char.ofNat unit)) (readBody rest)
          | _ => .error .endInString
        else
          match escaped? letter with
          | some plain => prepend [plain] (readBody rest)
          | none => .error .invalidEscape
    else if octet < 0x20 then .error .controlCharacter
    else prepend [octet] (readBody rest)

def readString (input : Bytes) : Except Error (String × Bytes) := do
  let (body, rest) ← readBody input
  match Utf8.string? body with
  | some text => .ok (text, rest)
  | none => .error .invalidText

end EngineClient.Json
