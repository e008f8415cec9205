import EngineClient.Restart.Policy
import EngineClient.Text.Blank
import EngineClient.Text.Quoted

/-!
What a client is told by its environment: how the engine is reached, and where it is.
-/

namespace EngineClient

structure Settings where
  kind : Link.Kind
  program : String
  arguments : List String
  address : Address
  /-- Takes the place of the policy for the kind. -/
  restart : Option Restart.Policy
  deriving DecidableEq, Repr

namespace Settings

def kindVariable : String := "FUTURECOMMANDER_TRANSPORT"

def programVariable : String := "FUTURECOMMANDER_DAEMON"

def addressVariable : String := "FUTURECOMMANDER_ADDR"

def programsVariable : String := "XDG_BIN_HOME"

def homeVariable : String := "HOME"

def defaultProgram : String := "futurecommander"

def serveArgument : String := "daemon"

inductive Error where
  | kind (value : String)
  | address
  deriving DecidableEq, Repr

def Error.chain : Error → List String
  | .kind value =>
    ["Invalid " ++ kindVariable ++ ": " ++ Text.quoted value ++ " (expected process or socket)"]
  | .address =>
    ["Invalid " ++ addressVariable ++ " (expected host:port)", "invalid socket address syntax"]

/-- Reads the name of a kind, blanks around it and the case of its letters aside. -/
def kindOf (value : String) : Except Error Link.Kind :=
  let name := String.ofList (Text.lowerAscii (Text.trim value.toList))
  if name = "process" ∨ name = "" then .ok .process
  else if name = "socket" ∨ name = "tcp" then .ok .socket
  else .error (.kind name)

def addressOf (value : String) : Except Error Address :=
  match Address.parse? value with
  | some address => .ok address
  | none => .error .address

/-- The engine that the environment names, else one that is installed, else the bare name. -/
def programOf (named installed : Option String) : String :=
  match named.filter (· ≠ "") with
  | some program => program
  | none => installed.getD defaultProgram

/-- The user's directory of programs: the one that is named, if its path is absolute, else the usual
one below the home directory. -/
def userDirectory? (environment : String → Option String) : Option String :=
  (environment programsVariable).filter (·.startsWith "/") <|>
    ((environment homeVariable).filter (· ≠ "")).map (· ++ "/.local/bin")

/-- Settings from variables; `installed` is the engine that lies beside the client or in the user's
directory of programs. -/
def ofEnvironment (environment : String → Option String) (installed : Option String) :
    Except Error Settings := do
  let kind ← match environment kindVariable with
    | some value => kindOf value
    | none => .ok .process
  let address ← match environment addressVariable with
    | some value => addressOf value
    | none => .ok .default
  return {
    kind := kind
    program := programOf (environment programVariable) installed
    arguments := [serveArgument]
    address := address
    restart := none }

def withKind (settings : Settings) (kind : Link.Kind) : Settings := { settings with kind }

def policy (settings : Settings) : Restart.Policy :=
  settings.restart.getD (.ofKind settings.kind)

end Settings

end EngineClient
