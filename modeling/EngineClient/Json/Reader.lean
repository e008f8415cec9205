import EngineClient.Json.Skim

/-!
Readers of lists, objects and whole values. Containers nest at most `Json.deepest` deep.
-/

namespace EngineClient.Json

/-- Where a container stands: before a further entry, or at its closing bracket. -/
inductive Next where
  | entry (rest : Bytes)
  | close (rest : Bytes)

/-- A comma stands between two items, never before the closing bracket. -/
def nextItem (first : Bool) (input : Bytes) : Except Error Next :=
  match skipBlanks input with
  | [] => .error .endInList
  | octet :: rest =>
    if octet = Octet.closeList then .ok (.close (octet :: rest))
    else if first then .ok (.entry (octet :: rest))
    else if octet = Octet.comma then
      match skipBlanks rest with
      | [] => .error .endInValue
      | octet :: rest =>
        if octet = Octet.closeList then .error .trailingComma else .ok (.entry (octet :: rest))
    else .error .expectedListSeparator

def nextKey (first : Bool) (input : Bytes) : Except Error Next :=
  match skipBlanks input with
  | [] => .error .endInObject
  | octet :: rest =>
    if octet = Octet.closeObject then .ok (.close (octet :: rest))
    else if first then
      if octet = Octet.quote then .ok (.entry rest) else .error .keyNotString
    else if octet = Octet.comma then
      match skipBlanks rest with
      | [] => .error .endInValue
      | octet :: rest =>
        if octet = Octet.quote then .ok (.entry rest)
        else if octet = Octet.closeObject then .error .trailingComma
        else .error .keyNotString
    else .error .expectedObjectSeparator

def endList (input : Bytes) : Except Error Bytes :=
  match skipBlanks input with
  | [] => .error .endInList
  | octet :: rest =>
    if octet = Octet.closeList then .ok rest
    else if octet = Octet.comma then
      if startsWith (· == Octet.closeList) (skipBlanks rest) then .error .trailingComma
      else .error .trailingCharacters
    else .error .trailingCharacters

def endObject (input : Bytes) : Except Error Bytes :=
  match skipBlanks input with
  | [] => .error .endInObject
  | octet :: rest =>
    if octet = Octet.closeObject then .ok rest
    else if octet = Octet.comma then .error .trailingComma
    else .error .trailingCharacters

/-- Items up to the closing bracket. Each takes a byte at least, so a `track` longer than the input is
never used up; only its length matters. -/
def readItems {α : Type} (item : Reader α) : (track : Bytes) → Bool → Reader (List α)
  | [], _, _ => .error .endInList
  | _ :: track, first, input => do
    match ← nextItem first input with
    | .close rest => return ([], rest)
    | .entry rest =>
      let (value, rest) ← item rest
      let (values, rest) ← readItems item track false rest
      return (value :: values, rest)

def readMembers {σ : Type} (member : σ → String → Reader σ) :
    (track : Bytes) → Bool → σ → Reader σ
  | [], _, _, _ => .error .endInObject
  | _ :: track, first, state, input => do
    match ← nextKey first input with
    | .close rest => return (state, rest)
    | .entry rest =>
      let (key, rest) ← readString rest
      let (state, rest) ← member state key rest
      readMembers member track false state rest

def addMember (value : Reader Json) (members : Members) (key : String) : Reader Members :=
  fun input => do
    let rest ← colon input
    let (json, rest) ← value rest
    return (insert key json members, rest)

def readList {α : Type} (item : Reader α) (input : Bytes) : Except Error (List α × Bytes) := do
  let (items, rest) ← readItems item (Octet.openList :: input) true input
  return (items, ← endList rest)

def readObject (value : Reader Json) (input : Bytes) : Except Error (Members × Bytes) := do
  let (members, rest) ← readMembers (addMember value) (Octet.openObject :: input) true [] input
  return (members, ← endObject rest)

def readValue (levels : Nat) (input : Bytes) : Except Error (Json × Bytes) :=
  match skipBlanks input with
  | [] => .error .endInValue
  | octet :: rest =>
    if octet = Octet.letterN then do return (.null, ← readLetters afterN rest)
    else if octet = Octet.letterT then do return (.bool true, ← readLetters afterT rest)
    else if octet = Octet.letterF then do return (.bool false, ← readLetters afterF rest)
    else if octet = Octet.minus then do
      let (n, rest) ← readNumber false rest
      return (.number n, rest)
    else if Octet.isDigit octet then do
      let (n, rest) ← readNumber true (octet :: rest)
      return (.number n, rest)
    else if octet = Octet.quote then do
      let (text, rest) ← readString rest
      return (.string text, rest)
    else if octet = Octet.openList then
      match levels with
      | 0 => .error .tooDeep
      | levels + 1 => do
        let (items, rest) ← readList (readValue levels) rest
        return (.list items, rest)
    else if octet = Octet.openObject then
      match levels with
      | 0 => .error .tooDeep
      | levels + 1 => do
        let (members, rest) ← readObject (readValue levels) rest
        return (.object members, rest)
    else .error .expectedValue

def deepest : Nat := 127

def readText {α : Type} (reader : Reader α) (input : Bytes) : Except Error α := do
  let (value, rest) ← reader input
  match skipBlanks rest with
  | [] => return value
  | _ :: _ => throw .trailingCharacters

def parse (input : Bytes) : Except Error Json := readText (readValue deepest) input

end EngineClient.Json
