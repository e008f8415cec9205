import EngineClient.Json.Reader

/-!
Reading values of a fixed shape straight from the text: strings, optional values, and records given as
an object of named members or as a list of positions.
-/

namespace EngineClient.Json

/-- The fault of a value that is not of the expected shape. A word, number or string is read first, and
a fault inside it comes before the fault of its shape. -/
def mismatch (expected : String) (octet : UInt8) (rest : Bytes) : Error :=
  let of {α : Type} (found : α → Found) (reading : Except Error α) : Error :=
    match reading with
    | .ok value => .invalidType (found value) expected
    | .error fault => fault
  if octet = Octet.letterN then of (fun _ => .null) (readLetters afterN rest)
  else if octet = Octet.letterT then of (fun _ => .bool true) (readLetters afterT rest)
  else if octet = Octet.letterF then of (fun _ => .bool false) (readLetters afterF rest)
  else if octet = Octet.minus then of (fun read => .number read.1) (readNumber false rest)
  else if Octet.isDigit octet then of (fun read => .number read.1) (readNumber true (octet :: rest))
  else if octet = Octet.quote then of (fun read => .string read.1) (readString rest)
  else if octet = Octet.openList then .invalidType .list expected
  else if octet = Octet.openObject then .invalidType .object expected
  else .expectedValue

def readStringAs (expected : String) (input : Bytes) : Except Error (String × Bytes) :=
  match skipBlanks input with
  | [] => .error .endInValue
  | octet :: rest =>
    if octet = Octet.quote then readString rest else .error (mismatch expected octet rest)

def readUnit (input : Bytes) : Except Error Bytes :=
  match skipBlanks input with
  | [] => .error .endInValue
  | octet :: rest =>
    if octet = Octet.letterN then readLetters afterN rest else .error (mismatch "unit" octet rest)

def readOptional {α : Type} (item : Reader α) (input : Bytes) : Except Error (Option α × Bytes) :=
  match skipBlanks input with
  | [] => .error .endInValue
  | octet :: rest =>
    if octet = Octet.letterN then do return (none, ← readLetters afterN rest)
    else do
      let (value, rest) ← item (octet :: rest)
      return (some value, rest)

def readOptionalString : Reader (Option String) := readOptional (readStringAs "a string")

/-- The value of a member that may be given once; `slot` tells whether it already was. -/
def once {α : Type} (name : String) (slot : Option α) (item : Reader α) (input : Bytes) :
    Except Error (Option α × Bytes) :=
  if slot.isSome then .error (.duplicateField name)
  else do
    let rest ← colon input
    let (value, rest) ← item rest
    return (some value, rest)

def skimMember {σ : Type} (state : σ) (input : Bytes) : Except Error (σ × Bytes) := do
  let rest ← colon input
  return (state, ← Skim.value rest)

def position {α : Type} (first : Bool) (item : Reader α) (input : Bytes) :
    Except Error (Option α × Bytes) := do
  match ← nextItem first input with
  | .close rest => return (none, rest)
  | .entry rest =>
    let (value, rest) ← item rest
    return (some value, rest)

/-- How the named shape is read inside an object and inside a list, for the levels left below it. -/
structure Shape (α : Type) where
  expected : String
  members : Nat → Reader α
  positions : Nat → Reader α

def collect {σ α : Type} (member : σ → String → Reader σ) (start : σ)
    (build : σ → Except Error α) (input : Bytes) : Except Error (α × Bytes) := do
  let (slots, rest) ← readMembers member (Octet.openObject :: input) true start input
  return (← build slots, rest)

def readRecord {α : Type} (shape : Shape α) (levels : Nat) (input : Bytes) :
    Except Error (α × Bytes) :=
  match skipBlanks input with
  | [] => .error .endInValue
  | octet :: rest =>
    if octet = Octet.openList then
      match levels with
      | 0 => .error .tooDeep
      | levels + 1 => do
        let (value, rest) ← shape.positions levels rest
        return (value, ← endList rest)
    else if octet = Octet.openObject then
      match levels with
      | 0 => .error .tooDeep
      | levels + 1 => do
        let (value, rest) ← shape.members levels rest
        return (value, ← endObject rest)
    else .error (mismatch shape.expected octet rest)

end EngineClient.Json
