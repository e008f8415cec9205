import EngineClient.Restart.Policy

/-!
The one live link of a client: it is opened on demand, its failures in a row are counted, and the
policy turns the count into a decision when it is lost.
-/

namespace EngineClient

structure Connection where
  policy : Restart.Policy
  live : Option Link.Generation
  /-- Failed starts and losses since a link last delivered a frame. -/
  failures : UInt32
  /-- Attempts to open a link so far, and so the generation of the last one. -/
  generation : Link.Generation
  deriving DecidableEq, Repr

namespace Connection

def new (policy : Restart.Policy) : Connection := ⟨policy, none, 0, 0⟩

def isLive (connection : Connection) : Bool := connection.live.isSome

def isCurrent (connection : Connection) (generation : Link.Generation) : Bool :=
  connection.live == some generation

def decision (connection : Connection) : Restart.Decision :=
  connection.policy.decision connection.failures

/-- Keeps the live link, or makes one attempt with the given result. A start that succeeds leaves the
failures as they are until the link delivers. -/
def ensureLive (connection : Connection) (attempt : Except Link.Error Unit) :
    Except Link.Error Link.Generation × Connection :=
  match connection.live with
  | some generation => (.ok generation, connection)
  | none =>
    let generation := connection.generation + 1
    match attempt with
    | .ok () => (.ok generation, { connection with generation, live := some generation })
    | .error error =>
      (.error error, { connection with generation, failures := connection.failures + 1 })

/-- A complete frame has arrived. Other generations than the live one are ignored. -/
def markHealthy (connection : Connection) (generation : Link.Generation) : Connection :=
  if connection.isCurrent generation then { connection with failures := 0 } else connection

/-- Gives up the live link; the loss of another generation is ignored. -/
def lose (connection : Connection) (generation : Link.Generation) :
    Option (Restart.Decision × Connection) :=
  if connection.isCurrent generation then
    let connection := { connection with live := none, failures := connection.failures + 1 }
    some (connection.decision, connection)
  else none

def shutdown (connection : Connection) : Connection := { connection with live := none }

end Connection

end EngineClient
