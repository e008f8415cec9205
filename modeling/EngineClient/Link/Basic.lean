import EngineClient.Link.Address
import EngineClient.Text.Octet

/-!
Links to the engine: their kinds, the signals they report, and how opening or writing one can fail.
-/

namespace EngineClient

namespace Link

inductive Kind where
  | process
  | socket
  deriving DecidableEq, Repr

def Kind.text : Kind → String
  | .process => "process"
  | .socket => "socket"

/-- A number for each attempt to open a link, so that signals of older links are told apart. -/
abbrev Generation := Nat

inductive CloseReason where
  | exited (code : Int)
  | killed
  | disconnected
  deriving DecidableEq, Repr

def CloseReason.text : CloseReason → String
  | .exited code => "engine exited with code " ++ String.ofList (Numeral.decimalInt code)
  | .killed => "engine terminated by signal"
  | .disconnected => "connection closed by engine"

/-- What a link reports. Nothing of the reader follows a close or a failure. -/
inductive Signal where
  | data (bytes : Bytes)
  | closed (reason : CloseReason)
  | failed (detail : String)
  deriving DecidableEq, Repr

inductive Error where
  | closed
  | io (detail : String)
  | spawn (program detail : String)
  | connect (address : Address) (detail : String)
  deriving DecidableEq, Repr

def Error.message : Error → String
  | .closed => "Transport closed"
  | .io detail => "I/O error: " ++ detail
  | .spawn program detail => "Failed to spawn " ++ program ++ ": " ++ detail
  | .connect address detail => "Failed to connect to " ++ address.text ++ ": " ++ detail

end Link

end EngineClient
