import EngineClient.Json.Error

/-!
Entries of the file system as responses report them. An entry is an object with a name and three
flags, or a list of the same in order; flags that are left out are false.
-/

namespace EngineClient

structure Entry where
  name : String
  isDirectory : Bool
  isFile : Bool
  isVirtual : Bool
  deriving DecidableEq, Repr

namespace Entry

def toJson (entry : Entry) : Json :=
  .object [("name", .string entry.name), ("is_dir", .bool entry.isDirectory),
    ("is_file", .bool entry.isFile), ("is_virtual", .bool entry.isVirtual)]

def asName (json : Json) : Except Json.Error String :=
  match json with
  | .string name => .ok name
  | other => .error (.invalidType other.found "a string")

def asFlag (json : Json) : Except Json.Error Bool :=
  match json with
  | .bool flag => .ok flag
  | other => .error (.invalidType other.found "a boolean")

structure Slots where
  name : Option String
  entry : Entry

/-- Takes one member; those that an entry does not have are ignored. -/
def Slots.take (slots : Slots) (key : String) (value : Json) : Except Json.Error Slots :=
  if key = "name" then (asName value).map fun name => { slots with name := some name }
  else if key = "is_dir" then
    (asFlag value).map fun flag => { slots with entry.isDirectory := flag }
  else if key = "is_file" then
    (asFlag value).map fun flag => { slots with entry.isFile := flag }
  else if key = "is_virtual" then
    (asFlag value).map fun flag => { slots with entry.isVirtual := flag }
  else .ok slots

def Slots.takeAll : Slots → Json.Members → Except Json.Error Slots
  | slots, [] => .ok slots
  | slots, (key, value) :: rest => slots.take key value >>= fun slots => takeAll slots rest

def ofMembers (members : Json.Members) : Except Json.Error Entry := do
  let slots ← Slots.takeAll ⟨none, ⟨"", false, false, false⟩⟩ members
  match slots.name with
  | some name => return { slots.entry with name }
  | none => throw (.missingField "name")

/-- The next flag of a positional entry, false when the list is at its end. -/
def nextFlag : List Json → Except Json.Error (Bool × List Json)
  | [] => .ok (false, [])
  | item :: rest => (asFlag item).map (·, rest)

def ofItems (items : List Json) : Except Json.Error Entry :=
  match items with
  | [] => .error (.invalidLength 0 "struct Entry with 4 elements")
  | item :: rest => do
    let name ← asName item
    let (isDirectory, rest) ← nextFlag rest
    let (isFile, rest) ← nextFlag rest
    let (isVirtual, rest) ← nextFlag rest
    match rest with
    | [] => return ⟨name, isDirectory, isFile, isVirtual⟩
    | _ :: _ => throw (.invalidLength items.length "fewer elements in array")

def ofJson (json : Json) : Except Json.Error Entry :=
  match json with
  | .object members => ofMembers members
  | .list items => ofItems items
  | other => .error (.invalidType other.found "struct Entry")

def allOfJson : List Json → Except Json.Error (List Entry)
  | [] => .ok []
  | item :: rest => do return (← ofJson item) :: (← allOfJson rest)

end Entry

end EngineClient
