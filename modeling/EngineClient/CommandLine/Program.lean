import EngineClient.Call.Settlement
import EngineClient.CommandLine.Arguments
import EngineClient.Message.Inbound

/-!
The command line apart from its link: what is asked of the engine, what is printed for its answers, and
how failures are reported.
-/

namespace EngineClient.CommandLine

inductive Failure where
  | settings (error : Settings.Error)
  | arguments (error : ArgumentError)
  | call (error : Call.Error)
  | opening (path : String) (error : Call.Error)

def Failure.chain : Failure → List String
  | .settings error => "Failed to load client configuration" :: error.chain
  | .arguments error => [error.message]
  | .call error => [error.message]
  | .opening path error => ["Failed to open " ++ path, error.message]

def indentLines (first margin : List Char) (text : String) : List Char :=
  first ++ text.toList.flatMap fun c => if c = '\n' then '\n' :: margin else [c]

def numbered (number : Nat) : List Char :=
  let digits := Numeral.decimal number
  List.replicate (5 - digits.length) ' ' ++ digits ++ ": ".toList

def causeLines : List String → List (List Char)
  | [cause] => [indentLines (List.replicate 4 ' ') (List.replicate 4 ' ') cause]
  | causes => causes.zipIdx.map fun (cause, number) =>
    indentLines (numbered number) (List.replicate 7 ' ') cause

/-- The report of a failure: its message, and its causes below, numbered if there are several. -/
def Failure.report (failure : Failure) : String :=
  match failure.chain with
  | [] => "Error: \n"
  | [message] => "Error: " ++ message ++ "\n"
  | message :: causes =>
    "Error: " ++ message ++ "\n\nCaused by:\n" ++
      String.ofList ((causeLines causes).flatMap fun cause => cause ++ ['\n'])

def prepare (environment : String → Option String) (installed : Option String)
    (arguments : List String) : Except Failure (Settings × Invocation) := do
  let settings ← (Settings.ofEnvironment environment installed).mapError .settings
  (parse settings arguments).mapError .arguments

def Invocation.request : Invocation → Request
  | .send request => request
  | .watch path => Request.directoryOpen path

def entryLine (entry : Entry) : String := entry.name ++ (if entry.isDirectory then "/\n" else "\n")

/-- What is printed for the outcome of the request: the names of a collection, any other response in
full; nothing when watching, whatever the directory holds. -/
def Invocation.printed (invocation : Invocation) (outcome : Call.Outcome) :
    Except Failure String :=
  match invocation with
  | .send _ => do
    let response ← outcome.mapError .call
    if response.kind = some Response.collectionKind then
      let entries ← response.entries.mapError .call
      return String.join (entries.map entryLine)
    else return response.toJson.indentedText ++ "\n"
  | .watch path => (Call.listing outcome).mapError (.opening path) |>.map fun _ => ""

def Invocation.isWatch : Invocation → Bool
  | .send _ => false
  | .watch _ => true

def watchNotice : String := "Watching engine messages, Ctrl-C to stop\n"

def messageLine (message : Inbound) : String := message.header ++ " " ++ message.toJson.text

end EngineClient.CommandLine
