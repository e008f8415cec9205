import EngineClient.Message.Request
import EngineClient.Settings

/-!
The arguments of the command line: options may stand anywhere, the first other argument is the header
of a request or `watch`, and the others are parameters of the request.
-/

namespace EngineClient.CommandLine

inductive Invocation where
  | send (request : Request)
  | watch (path : String)

inductive ArgumentError where
  | usage
  | notAssignment (argument : String)
  deriving DecidableEq, Repr

def usageText : String :=
  "usage: fc-client [--socket|--process] <Header> [key=value ...]\n" ++
    "       fc-client [--socket|--process] watch [path]"

def ArgumentError.message : ArgumentError → String
  | .usage => usageText
  | .notAssignment argument => "Expected key=value, got " ++ Text.quoted argument

/-- Takes out the options; the last kind that is named holds. -/
def takeOptions (settings : Settings) :
    List String → Except ArgumentError (Settings × List String)
  | [] => .ok (settings, [])
  | argument :: rest =>
    if argument = "--socket" then takeOptions (settings.withKind .socket) rest
    else if argument = "--process" then takeOptions (settings.withKind .process) rest
    else if argument = "-h" ∨ argument = "--help" then .error .usage
    else (takeOptions settings rest).map fun (settings, others) => (settings, argument :: others)

def splitAssignment? : List Char → Option (List Char × List Char)
  | [] => none
  | c :: rest =>
    if c = '=' then some ([], rest)
    else (splitAssignment? rest).map fun (key, value) => (c :: key, value)

def valueOf (text : String) : Json :=
  if text = "true" then .bool true
  else if text = "false" then .bool false
  else .string text

def addParameter (request : Request) (argument : String) : Except ArgumentError Request :=
  match splitAssignment? argument.toList with
  | some (key, value) =>
    .ok (request.withParam (String.ofList key) (valueOf (String.ofList value)))
  | none => .error (.notAssignment argument)

def addParameters (request : Request) : List String → Except ArgumentError Request
  | [] => .ok request
  | argument :: rest => addParameter request argument >>= fun request => addParameters request rest

def parse (settings : Settings) (arguments : List String) :
    Except ArgumentError (Settings × Invocation) := do
  match ← takeOptions settings arguments with
  | (_, []) => throw .usage
  | (settings, header :: others) =>
    if header = "watch" then return (settings, .watch (others.headD "."))
    else return (settings, .send (← addParameters (Request.new header) others))

end EngineClient.CommandLine
