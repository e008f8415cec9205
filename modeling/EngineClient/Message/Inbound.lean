import EngineClient.Message.Event
import EngineClient.Message.Response

/-!
What the bodies of frames say, on the client's side and on the engine's.
-/

namespace EngineClient

inductive Inbound where
  | response (reply : Response)
  | event (push : Event)
  deriving Repr

namespace Inbound

def id : Inbound → Option String
  | .response reply => reply.id
  | .event push => push.id

/-- The kind of a response stands in for its header. -/
def header : Inbound → String
  | .response reply => reply.kind.getD "Response"
  | .event push => push.header

def subjectPath : Inbound → Option String
  | .response _ => none
  | .event push => push.payload.get? "path" >>= Json.string?

def toJson : Inbound → Json
  | .response reply => reply.toJson
  | .event push => push.toJson

end Inbound

namespace Frame

/-- A body that is no message; the stream goes on behind it. -/
def malformed (what : String) (fault : Json.Error) : Call.Error :=
  .protocol ("Invalid " ++ what ++ " body: " ++ fault.message)

def inbound (frame : Frame) : Except Call.Error Inbound :=
  match frame.tag with
  | .response => ((Response.parse frame.body).map .response).mapError (malformed "response")
  | .event => ((Event.parse frame.body).map .event).mapError (malformed "event")
  | .request => .error (.protocol "Engine sent a request frame to the client")

def outbound (frame : Frame) : Except Call.Error Request :=
  match frame.tag with
  | .request => (Request.parse frame.body).mapError (malformed "request")
  | tag => .error (.protocol ("Expected request frame, got " ++ tag.text))

end Frame

end EngineClient
