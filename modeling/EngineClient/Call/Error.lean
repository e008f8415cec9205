import EngineClient.Frame.Basic
import EngineClient.Json.Error
import EngineClient.Link.Basic

/-!
How a call fails.
-/

namespace EngineClient.Call

inductive Error where
  | protocol (detail : String)
  | engine (message : String)
  | linkLost (reason : String)
  | duplicateId (id : String)
  | connectionFailed (detail : String)
  | encoding (fault : Json.Error)
  | clientClosed
  deriving DecidableEq, Repr

inductive Error.Kind where
  | protocol
  | engine
  | linkLost
  | duplicateId
  | connectionFailed
  | encoding
  | clientClosed
  deriving DecidableEq, Repr

def Error.kind : Error → Error.Kind
  | .protocol _ => .protocol
  | .engine _ => .engine
  | .linkLost _ => .linkLost
  | .duplicateId _ => .duplicateId
  | .connectionFailed _ => .connectionFailed
  | .encoding _ => .encoding
  | .clientClosed => .clientClosed

def Error.message : Error → String
  | .protocol detail => "Protocol error: " ++ detail
  | .engine message => message
  | .linkLost reason => "Transport lost: " ++ reason
  | .duplicateId id => "Duplicate request id: " ++ id
  | .connectionFailed detail => "Connection failed: " ++ detail
  | .encoding fault => "Failed to encode request: " ++ fault.message
  | .clientClosed => "Client closed"

/-- The error as it is handed to many calls at once; a fault of encoding belongs to one call only and
becomes a protocol error of the same text. -/
def Error.shared : Error → Error
  | .encoding fault => .protocol fault.message
  | error => error

/-- An engine that cannot be reached is told apart from a link that broke. -/
def Error.ofLink (error : Link.Error) : Error :=
  match error with
  | .spawn _ _ => .connectionFailed error.message
  | .connect _ _ => .connectionFailed error.message
  | .closed => .linkLost error.message
  | .io _ => .linkLost error.message

def Error.ofFrame (error : Frame.Error) : Error := .protocol error.message

end EngineClient.Call
