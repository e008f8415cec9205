import EngineClient.Text.Numeral

/-!
Socket addresses: reading `host:port` and the canonical text. A host is four octets, or eight groups
in brackets of which one run of zeros may be left out and the last two may be written as octets.
-/

namespace EngineClient

inductive Host where
  | v4 (octets : List Nat)
  | v6 (groups : List Nat) (scope : Nat)
  deriving DecidableEq, Repr

structure Address where
  host : Host
  port : Nat
  deriving DecidableEq, Repr

namespace Address

def digitValue? (base : Nat) (c : Char) : Option Nat :=
  let code := c.toNat
  let value :=
    if 0x30 ≤ code ∧ code ≤ 0x39 then some (code - 0x30)
    else if 0x61 ≤ code ∧ code ≤ 0x7A then some (code - 0x57)
    else if 0x41 ≤ code ∧ code ≤ 0x5A then some (code - 0x37)
    else none
  value.filter (· < base)

def readDigits (base : Nat) : List Char → List Nat × List Char
  | [] => ([], [])
  | c :: rest =>
    match digitValue? base c with
    | some digit =>
      let (digits, rest) := readDigits base rest
      (digit :: digits, rest)
    | none => ([], c :: rest)

/-- A run of digits of which the number, and the length where one is given, stay in bounds. -/
def readNumber? (base limit : Nat) (longest : Option Nat) (leadingZeros : Bool)
    (input : List Char) : Option (Nat × List Char) :=
  let (digits, rest) := readDigits base input
  let value := Numeral.value base digits
  if digits.isEmpty || limit < value || longest.any (· < digits.length) ||
      (!leadingZeros && digits.head? == some 0 && 1 < digits.length) then none
  else some (value, rest)

def expect? (c : Char) : List Char → Option (List Char)
  | [] => none
  | d :: rest => if c = d then some rest else none

def readOctet? : List Char → Option (Nat × List Char) := readNumber? 10 255 (some 3) false

def readOctets? (input : List Char) : Option (List Nat × List Char) := do
  let (a, rest) ← readOctet? input
  let (b, rest) ← expect? '.' rest >>= readOctet?
  let (c, rest) ← expect? '.' rest >>= readOctet?
  let (d, rest) ← expect? '.' rest >>= readOctet?
  return ([a, b, c, d], rest)

def readPort? (input : List Char) : Option (Nat × List Char) :=
  expect? ':' input >>= readNumber? 10 0xFFFF none true

def groupsOfOctets : List Nat → List Nat
  | [a, b, c, d] => [a * 0x100 + b, c * 0x100 + d]
  | _ => []

/-- As many groups as can be read, at most `room`; octets end them and need room for two groups. -/
def readGroups : (room : Nat) → (first : Bool) → List Char → List Nat × Bool × List Char
  | 0, _, input => ([], false, input)
  | room + 1, first, input =>
    let entry := if first then some input else expect? ':' input
    match (if room = 0 then none else entry >>= readOctets?) with
    | some (octets, rest) => (groupsOfOctets octets, true, rest)
    | none =>
      match entry >>= readNumber? 16 0xFFFF (some 4) true with
      | some (group, rest) =>
        let (groups, octets, rest) := readGroups room false rest
        (group :: groups, octets, rest)
      | none => ([], false, input)

def readAllGroups? (input : List Char) : Option (List Nat × List Char) :=
  let (head, octets, rest) := readGroups 8 true input
  if head.length = 8 then some (head, rest)
  else if octets then none
  else do
    let rest ← expect? ':' rest >>= expect? ':'
    let (tail, _, rest) := readGroups (7 - head.length) true rest
    return (head ++ List.replicate (8 - head.length - tail.length) 0 ++ tail, rest)

def readScope (input : List Char) : Nat × List Char :=
  match expect? '%' input >>= readNumber? 10 0xFFFFFFFF none true with
  | some (scope, rest) => (scope, rest)
  | none => (0, input)

def readV4? (input : List Char) : Option (Address × List Char) := do
  let (octets, rest) ← readOctets? input
  let (port, rest) ← readPort? rest
  return (⟨.v4 octets, port⟩, rest)

def readV6? (input : List Char) : Option (Address × List Char) := do
  let (groups, rest) ← expect? '[' input >>= readAllGroups?
  let (scope, rest) := readScope rest
  let (port, rest) ← expect? ']' rest >>= readPort?
  return (⟨.v6 groups scope, port⟩, rest)

def parse? (text : String) : Option Address :=
  match readV4? text.toList <|> readV6? text.toList with
  | some (address, []) => some address
  | _ => none

def isV6 (address : Address) : Bool :=
  match address.host with
  | .v4 _ => false
  | .v6 _ _ => true

def joined (separator : Char) : List (List Char) → List Char
  | [] => []
  | [piece] => piece
  | piece :: rest => piece ++ separator :: joined separator rest

def octetsText (octets : List Nat) : List Char := joined '.' (octets.map Numeral.decimal)

def groupsPart (groups : List Nat) : List Char := joined ':' (groups.map Numeral.hexadecimal)

def zerosAhead (groups : List Nat) : Nat := (groups.takeWhile (· == 0)).length

def longestZeros (groups : List Nat) : Nat × Nat :=
  (List.range groups.length).foldl
    (fun best start =>
      let length := zerosAhead (groups.drop start)
      if best.2 < length then (start, length) else best)
    (0, 0)

/-- A run of two or more zeros is left out; the form that embeds octets keeps them as octets. -/
def groupsText (groups : List Nat) : List Char :=
  match groups with
  | [0, 0, 0, 0, 0, 0xFFFF, high, low] =>
    "::ffff:".toList ++ octetsText [high / 0x100, high % 0x100, low / 0x100, low % 0x100]
  | _ =>
    let (start, length) := longestZeros groups
    if 1 < length then
      groupsPart (groups.take start) ++ "::".toList ++ groupsPart (groups.drop (start + length))
    else groupsPart groups

def Host.text : Host → List Char
  | .v4 octets => octetsText octets
  | .v6 groups 0 => '[' :: groupsText groups ++ [']']
  | .v6 groups scope => '[' :: groupsText groups ++ '%' :: Numeral.decimal scope ++ [']']

def text (address : Address) : String :=
  String.ofList (Host.text address.host ++ ':' :: Numeral.decimal address.port)

def default : Address := ⟨.v4 [127, 0, 0, 1], 7842⟩

end Address

end EngineClient
