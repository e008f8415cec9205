import EngineClient.Frame.Basic
import EngineClient.Json.Record

/-!
Requests to the engine.
-/

namespace EngineClient

structure Request where
  id : Option String
  header : String
  payload : Json.Members
  deriving Repr

namespace Request

def new (header : String) : Request := ⟨none, header, []⟩

def withId (request : Request) (id : String) : Request := { request with id := some id }

def withParam (request : Request) (key : String) (value : Json) : Request :=
  { request with payload := Json.insert key value request.payload }

def directoryOpen (path : String) : Request :=
  (new "DirectoryOpen").withParam "path" (.string path)

def directoryCreate (path : String) (recursive overwrite : Bool) : Request :=
  (((new "DirectoryCreate").withParam "path" (.string path)).withParam "recursive"
    (.bool recursive)).withParam "overwrite" (.bool overwrite)

def fileCreate (path : String) (recursive overwrite : Bool) : Request :=
  (((new "FileCreate").withParam "path" (.string path)).withParam "recursive"
    (.bool recursive)).withParam "overwrite" (.bool overwrite)

def entryRemove (path : String) (recursive : Bool) : Request :=
  ((new "EntryRemove").withParam "path" (.string path)).withParam "recursive" (.bool recursive)

def transfer (header source destination : String) (merge overwrite : Bool) : Request :=
  ((((new header).withParam "source" (.string source)).withParam "destination"
    (.string destination)).withParam "merge" (.bool merge)).withParam "overwrite" (.bool overwrite)

def entryCopy (source destination : String) (merge overwrite : Bool) : Request :=
  transfer "EntryCopy" source destination merge overwrite

def entryMove (source destination : String) (merge overwrite : Bool) : Request :=
  transfer "EntryMove" source destination merge overwrite

def save (path : String) (overwrite : Bool) : Request :=
  ((new "Save").withParam "path" (.string path)).withParam "overwrite" (.bool overwrite)

def optionalMember (key : String) (value : Option Json) : Json.Members :=
  match value with
  | some json => [(key, json)]
  | none => []

def toJson (request : Request) : Json :=
  .object (optionalMember "id" (request.id.map .string) ++
    [("header", .string request.header), ("payload", .object request.payload)])

def frame (request : Request) : Frame := ⟨.request, request.toJson.bytes⟩

structure Slots where
  id : Option (Option String)
  header : Option String
  payload : Option Json.Members

def readPayload (levels : Nat) (input : Bytes) : Except Json.Error (Json.Members × Bytes) :=
  match Json.skipBlanks input with
  | [] => .error .endInValue
  | octet :: rest =>
    if octet = Octet.openObject then
      match levels with
      | 0 => .error .tooDeep
      | levels + 1 => Json.readObject (Json.readValue levels) rest
    else .error (Json.mismatch "a map" octet rest)

def readMember (levels : Nat) (slots : Slots) (key : String) (input : Bytes) :
    Except Json.Error (Slots × Bytes) :=
  if key = "id" then do
    let (value, rest) ← Json.once "id" slots.id Json.readOptionalString input
    return ({ slots with id := value }, rest)
  else if key = "header" then do
    let (value, rest) ← Json.once "header" slots.header (Json.readStringAs "a string") input
    return ({ slots with header := value }, rest)
  else if key = "payload" then do
    let (value, rest) ← Json.once "payload" slots.payload (readPayload levels) input
    return ({ slots with payload := value }, rest)
  else Json.skimMember slots input

def ofSlots (slots : Slots) : Except Json.Error Request :=
  match slots.header with
  | none => .error (.missingField "header")
  | some header => .ok ⟨slots.id.getD none, header, slots.payload.getD []⟩

def readPositions (levels : Nat) (input : Bytes) : Except Json.Error (Request × Bytes) := do
  let (id, rest) ← Json.position true Json.readOptionalString input
  let (header, rest) ← Json.position (id.isNone) (Json.readStringAs "a string") rest
  match header with
  | none => throw (.invalidLength 1 "struct Request with 3 elements")
  | some header =>
    let (payload, rest) ← Json.position false (readPayload levels) rest
    return (⟨id.getD none, header, payload.getD []⟩, rest)

def shape : Json.Shape Request where
  expected := "struct Request"
  members levels := Json.collect (readMember levels) ⟨none, none, none⟩ ofSlots
  positions := readPositions

def parse (body : Bytes) : Except Json.Error Request :=
  Json.readText (Json.readRecord shape Json.deepest) body

end Request

end EngineClient
