import EngineClient.Message.Request

/-!
Messages that the engine pushes without a matching request.
-/

namespace EngineClient

structure Event where
  id : Option String
  header : String
  payload : Json
  deriving Repr

namespace Event

def toJson (event : Event) : Json :=
  .object (Request.optionalMember "id" (event.id.map .string) ++
    [("header", .string event.header), ("payload", event.payload)])

def frame (event : Event) : Frame := ⟨.event, event.toJson.bytes⟩

structure Slots where
  id : Option (Option String)
  header : Option String
  payload : Option Json

def readMember (levels : Nat) (slots : Slots) (key : String) (input : Bytes) :
    Except Json.Error (Slots × Bytes) :=
  if key = "id" then do
    let (value, rest) ← Json.once "id" slots.id Json.readOptionalString input
    return ({ slots with id := value }, rest)
  else if key = "header" then do
    let (value, rest) ← Json.once "header" slots.header (Json.readStringAs "a string") input
    return ({ slots with header := value }, rest)
  else if key = "payload" then do
    let (value, rest) ← Json.once "payload" slots.payload (Json.readValue levels) input
    return ({ slots with payload := value }, rest)
  else Json.skimMember slots input

def ofSlots (slots : Slots) : Except Json.Error Event :=
  match slots.header with
  | none => .error (.missingField "header")
  | some header => .ok ⟨slots.id.getD none, header, slots.payload.getD .null⟩

def readPositions (levels : Nat) (input : Bytes) : Except Json.Error (Event × Bytes) := do
  let (id, rest) ← Json.position true Json.readOptionalString input
  let (header, rest) ← Json.position (id.isNone) (Json.readStringAs "a string") rest
  match header with
  | none => throw (.invalidLength 1 "struct Event with 3 elements")
  | some header =>
    let (payload, rest) ← Json.position false (Json.readValue levels) rest
    return (⟨id.getD none, header, payload.getD .null⟩, rest)

def shape : Json.Shape Event where
  expected := "struct Event"
  members levels := Json.collect (readMember levels) ⟨none, none, none⟩ ofSlots
  positions := readPositions

def parse (body : Bytes) : Except Json.Error Event :=
  Json.readText (Json.readRecord shape Json.deepest) body

end Event

end EngineClient
