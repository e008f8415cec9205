import EngineClient.CommandLine.Program

/-!
What an invocation prints while it runs. Messages that arrive before watching begins are held back
until then.
-/

namespace EngineClient.CommandLine

inductive Printed where
  | output (text : String)
  | errors (text : String)
  | exit (code : UInt32)
  deriving DecidableEq, Repr

structure Console where
  invocation : Invocation
  settled : Bool
  held : List Inbound

namespace Console

def start (invocation : Invocation) : Console := ⟨invocation, false, []⟩

def printLine (message : Inbound) : Printed := .output (messageLine message ++ "\n")

def deliver (console : Console) (message : Inbound) : Console × List Printed :=
  if !console.invocation.isWatch then (console, [])
  else if console.settled then (console, [printLine message])
  else ({ console with held := console.held ++ [message] }, [])

/-- The outcome of the request ends the invocation, unless it goes on to watch. -/
def settle (console : Console) (outcome : Call.Outcome) : Console × List Printed :=
  let settled := { console with settled := true, held := [] }
  match console.invocation.printed outcome with
  | .error failure => (settled, [.errors failure.report, .exit 1])
  | .ok text =>
    if console.invocation.isWatch then
      (settled, .errors watchNotice :: console.held.map printLine)
    else (settled, [.output text, .exit 0])

end Console

end EngineClient.CommandLine
