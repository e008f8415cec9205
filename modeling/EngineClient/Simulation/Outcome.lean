import EngineClient.Link.Tasks

/-!
Scripted outcomes of attempts to open a link.
-/

namespace EngineClient.Simulation

inductive Outcome where
  | ok
  /-- The peer is already gone: the reader is at the end of the stream. -/
  | dead
  | readFailure (detail : String)
  | writeFailure (detail : String)
  | refused (error : Link.Error)
  deriving DecidableEq, Repr

namespace Outcome

def attempt : Outcome → Link.Attempt
  | .ok => .ok .silent
  | .dead => .ok { Link.Peer.silent with arrivals := [.ended .disconnected] }
  | .readFailure detail => .ok { Link.Peer.silent with arrivals := [.failure detail] }
  | .writeFailure detail => .ok { Link.Peer.silent with room := some 0, fault := detail }
  | .refused error => .error error

def isAttached (outcome : Outcome) : Bool := outcome == .ok

def next (outcomes : List Outcome) : Outcome := outcomes.headD .ok

end Outcome

end EngineClient.Simulation
