import EngineClient.Call.Error
import EngineClient.Message.Entry
import EngineClient.Message.Request

/-!
Replies of the engine: their wire form, and what their content means.
-/

namespace EngineClient

inductive Status where
  | success
  | fail
  deriving DecidableEq, Repr

def Status.text : Status → String
  | .success => "Success"
  | .fail => "Fail"

structure Response where
  id : Option String
  status : Status
  kind : Option String
  content : Option Json
  error : Option String
  deriving Repr

namespace Response

def collectionKind : String := "Collection"

def entryKind : String := "Entry"

def success (id kind : String) (content : Json) : Response :=
  ⟨some id, .success, some kind, some content, none⟩

def fail (id error : String) : Response := ⟨some id, .fail, none, none, some error⟩

def isSuccess (response : Response) : Bool := response.status == .success

def isFail (response : Response) : Bool := response.status == .fail

def shownContent (response : Response) : Option Json :=
  match response.status with
  | .success => response.content
  | .fail => none

/-- Text of a failure: its error, else a content that is a string, else a general text. -/
def errorMessage (response : Response) : String :=
  ((response.error <|> response.content >>= Json.string?).getD
    "engine reported a failure without a message")

inductive Result where
  | collection (entries : List Entry)
  | entry (entry : Option Entry)
  | other (content : Json)

def entriesOf (content : Json) : Except Call.Error (List Entry) :=
  let fault (error : Json.Error) : Call.Error :=
    .protocol ("Invalid entry collection: " ++ error.message)
  match content with
  | .null => .ok []
  | .list items => (Entry.allOfJson items).mapError fault
  | other => .error (fault (.invalidType other.found "a sequence"))

/-- One entry: the first of a list, nothing for no content, or the content itself. -/
def entryOf (content : Json) : Except Call.Error (Option Entry) :=
  match content with
  | .null => .ok none
  | .list items => (entriesOf (.list items)).map List.head?
  | single =>
    match Entry.ofJson single with
    | .ok entry => .ok (some entry)
    | .error error => .error (.protocol ("Invalid entry in response: " ++ error.message))

def result (response : Response) : Except Call.Error Result :=
  match response.status with
  | .fail => .error (.engine response.errorMessage)
  | .success =>
    let content := response.content.getD .null
    if response.kind = some collectionKind then (entriesOf content).map .collection
    else if response.kind = some entryKind then (entryOf content).map .entry
    else .ok (.other content)

def entries (response : Response) : Except Call.Error (List Entry) := do
  match ← response.result with
  | .collection entries => return entries
  | .entry entry => return entry.toList
  | .other _ =>
    throw (.protocol ("Expected entries, got " ++ response.kind.getD "untagged" ++ " result"))

def toJson (response : Response) : Json :=
  .object (Request.optionalMember "id" (response.id.map .string) ++
    [("status", .string response.status.text)] ++
    Request.optionalMember "kind" (response.kind.map .string) ++
    Request.optionalMember "content" response.content ++
    Request.optionalMember "error" (response.error.map .string))

def frame (response : Response) : Frame := ⟨.response, response.toJson.bytes⟩

def statusOf (name : String) : Except Json.Error Status :=
  if name = "Success" then .ok .success
  else if name = "Fail" then .ok .fail
  else .error (.unknownVariant name "`Success` or `Fail`")

def readStatusMember (input : Bytes) : Except Json.Error (Status × Bytes) := do
  match ← Json.nextKey true input with
  | .close _ => throw .expectedValue
  | .entry rest =>
    let (name, rest) ← Json.readString rest
    let status ← statusOf name
    let rest ← Json.colon rest >>= Json.readUnit
    match Json.skipBlanks rest with
    | [] => throw .endInObject
    | octet :: rest =>
      if octet = Octet.closeObject then return (status, rest) else throw .expectedValue

def readStatus (levels : Nat) (input : Bytes) : Except Json.Error (Status × Bytes) :=
  match Json.skipBlanks input with
  | [] => .error .endInValue
  | octet :: rest =>
    if octet = Octet.openObject then
      if levels = 0 then .error .tooDeep else readStatusMember rest
    else if octet = Octet.quote then do
      let (name, rest) ← Json.readString rest
      return (← statusOf name, rest)
    else .error .expectedValue

structure Slots where
  id : Option (Option String)
  status : Option Status
  kind : Option (Option String)
  content : Option (Option Json)
  error : Option (Option String)

def readMember (levels : Nat) (slots : Slots) (key : String) (input : Bytes) :
    Except Json.Error (Slots × Bytes) :=
  if key = "id" then do
    let (value, rest) ← Json.once "id" slots.id Json.readOptionalString input
    return ({ slots with id := value }, rest)
  else if key = "status" then do
    let (value, rest) ← Json.once "status" slots.status (readStatus levels) input
    return ({ slots with status := value }, rest)
  else if key = "kind" ∨ key = "header" then do
    let (value, rest) ← Json.once "kind" slots.kind Json.readOptionalString input
    return ({ slots with kind := value }, rest)
  else if key = "content" ∨ key = "body" then do
    let (value, rest) ←
      Json.once "content" slots.content (Json.readOptional (Json.readValue levels)) input
    return ({ slots with content := value }, rest)
  else if key = "error" then do
    let (value, rest) ← Json.once "error" slots.error Json.readOptionalString input
    return ({ slots with error := value }, rest)
  else Json.skimMember slots input

def ofSlots (slots : Slots) : Except Json.Error Response :=
  match slots.status with
  | none => .error (.missingField "status")
  | some status =>
    .ok ⟨slots.id.getD none, status, slots.kind.getD none, slots.content.getD none,
      slots.error.getD none⟩

def readPositions (levels : Nat) (input : Bytes) : Except Json.Error (Response × Bytes) := do
  let (id, rest) ← Json.position true Json.readOptionalString input
  let (status, rest) ← Json.position (id.isNone) (readStatus levels) rest
  match status with
  | none => throw (.invalidLength 1 "struct Response with 5 elements")
  | some status =>
    let (kind, rest) ← Json.position false Json.readOptionalString rest
    let (content, rest) ← Json.position false (Json.readOptional (Json.readValue levels)) rest
    let (error, rest) ← Json.position false Json.readOptionalString rest
    return (⟨id.getD none, status, kind.getD none, content.getD none, error.getD none⟩, rest)

def shape : Json.Shape Response where
  expected := "struct Response"
  members levels := Json.collect (readMember levels) ⟨none, none, none, none, none⟩ ofSlots
  positions := readPositions

def parse (body : Bytes) : Except Json.Error Response :=
  Json.readText (Json.readRecord shape Json.deepest) body

end Response

end EngineClient
