import EngineClient.Client
import EngineClient.Simulation.Outcome
import EngineClient.Subscriber

/-!
A client over scripted engines on a virtual clock. After each step the client moves until it is idle.
-/

namespace EngineClient.Simulation

structure Engine where
  attached : Bool
  closed : Bool
  inbox : Frame.Decoder

structure Session where
  client : Client
  script : List Outcome
  engines : List Engine
  subscriber : Subscriber
  listings : List Call.Number
  gone : List Call.Number

namespace Session

inductive Step where
  | send (requests : List Request)
  | list (path : String)
  | reply (bytes : Bytes) (attempt : Option Nat)
  | close (attempt : Option Nat) (reason : Link.CloseReason)
  | advance (millis : Nat)
  | leave (call : Call.Number)
  | shutdown

inductive Result where
  | response (outcome : Call.Outcome)
  | entries (listing : Except Call.Error (List Entry))

structure Report where
  /-- For each attempt, whether an engine is attached. -/
  connects : List Bool
  /-- The frames that engines received, with the numbers of their attempts. -/
  received : List (Nat × Except Frame.Error Frame)
  settled : List (Call.Number × Result)
  delivered : List Inbound
  /-- None once the client has stopped. -/
  stats : Option Dispatcher.Stats

/-- Stands for the prefix of generated ids. -/
def prefixSign : String := "@"

def startTime : Nat := 24 * 60 * 60 * 1000000000

def new (kind : Link.Kind) (policy : Restart.Policy) (script : List Outcome)
    (subscriber : Subscriber) : Session :=
  ⟨.new prefixSign kind policy startTime, script, [], subscriber, [], []⟩

def note (session : Session) (output : Client.Output) : Session :=
  match output with
  | .effect (.attempted _ _) =>
    let outcome := Outcome.next session.script
    { session with
      script := session.script.tail
      engines := session.engines ++ [⟨outcome.isAttached, false, .empty⟩] }
  | .effect (.delivered message) =>
    { session with subscriber := session.subscriber.deliver message }
  | .poured generation bytes =>
    { session with engines := session.engines.modify (generation - 1) fun engine =>
        { engine with inbox := engine.inbox.feed bytes } }
  | _ => session

def perform (session : Session) (move : Client.Move) : Session × List Client.Output :=
  let (client, outputs) := session.client.perform move
  (outputs.foldl note { session with client }, outputs)

def moveUpTo : Nat → Session → Session × List Client.Output
  | 0, session => (session, [])
  | fuel + 1, session =>
    match session.client.nextMove? (Outcome.next session.script).attempt with
    | none => (session, [])
    | some move =>
      let (next, outputs) := session.perform move
      let (last, later) := moveUpTo fuel next
      (last, outputs ++ later)

/-- A bound on the moves that are left. -/
def workload (session : Session) : Nat :=
  let client := session.client
  10 * (client.commands.length + session.script.length + client.signals.length + 4) +
    2 * (client.link.map Link.workload).getD 0

def settle (session : Session) : Session × List Client.Output :=
  moveUpTo session.workload session

def act (session : Session) (moves : List Client.Move) : Session × List Client.Output :=
  let (session, outputs) := moves.foldl
    (fun (session, outputs) move =>
      let (session, more) := session.perform move
      (session, outputs ++ more))
    (session, [])
  let (session, later) := session.settle
  (session, outputs ++ later)

def nanosPerMilli : Nat := 1000000

/-- Timers fire at whole milliseconds. -/
def wholeMillis (nanos : Nat) : Nat :=
  (nanos + nanosPerMilli - 1) / nanosPerMilli * nanosPerMilli

def advanceTo : Nat → Nat → Session → Session × List Client.Output
  | 0, target, session => session.act [.wait (target - session.client.now)]
  | fuel + 1, target, session =>
    match session.client.dispatcher.restartAt.map wholeMillis with
    | none => session.act [.wait (target - session.client.now)]
    | some due =>
      if target < due then session.act [.wait (target - session.client.now)]
      else
        let (session, outputs) := session.act [.wait (due - session.client.now)]
        let (session, later) := advanceTo fuel target session
        (session, outputs ++ later)

def newestEngine? (session : Session) : Option Nat :=
  (List.range session.engines.length).reverse.find? fun attempt =>
    session.engines[attempt]?.any fun engine => engine.attached && !engine.closed

def engine? (session : Session) (attempt : Option Nat) : Option Nat :=
  (attempt <|> session.newestEngine?).filter fun attempt =>
    session.engines[attempt]?.any fun engine => engine.attached && !engine.closed

def fromEngine (session : Session) (attempt : Nat) (arrival : Link.Arrival) :
    Session × List Client.Output :=
  if session.client.link.any (·.generation == attempt + 1) then session.act [.arrive arrival]
  else (session, [])

def performStep (session : Session) : Step → Session × List Client.Output
  | .send requests => session.act (requests.map .send)
  | .list path =>
    { session with listings := session.client.issued :: session.listings }.act
      [.send (Request.directoryOpen path)]
  | .reply bytes attempt =>
    match session.engine? attempt, bytes with
    | some engine, _ :: _ => session.fromEngine engine (.bytes bytes)
    | _, _ => (session, [])
  | .close attempt reason =>
    match session.engine? attempt with
    | none => (session, [])
    | some engine =>
      { session with
        engines := session.engines.modify engine fun engine => { engine with closed := true }
      }.fromEngine engine (.ended reason)
  | .advance millis =>
    advanceTo (session.script.length + 4) (session.client.now + millis * nanosPerMilli) session
  | .leave call => ({ session with gone := call :: session.gone }, [])
  | .shutdown => session.act [.shutdown]

def result? (session : Session) (settlement : Call.Settlement) :
    Option (Call.Number × Result) :=
  if session.gone.contains settlement.call then none
  else if session.listings.contains settlement.call then
    some (settlement.call, .entries (Call.listing settlement.outcome))
  else some (settlement.call, .response settlement.outcome)

def takeReceived (session : Session) : List (Nat × Except Frame.Error Frame) × Session :=
  let taken := session.engines.map fun engine => engine.inbox.pullAll
  let received := (taken.zipIdx.map fun ((items, _), attempt) =>
    if session.engines[attempt]?.any (·.attached) then items.map (attempt, ·) else []).flatten
  let engines := session.engines.zipWith
    (fun engine (_, inbox) => { engine with inbox }) taken
  (received, { session with engines })

def stats? (session : Session) : Option Dispatcher.Stats :=
  if session.client.running then some session.client.dispatcher.stats else none

def step (session : Session) (step : Step) : Report × Session :=
  let before := session.engines.length
  let (session, outputs) := session.performStep step
  let (received, session) := session.takeReceived
  let (delivered, subscriber) := session.subscriber.drain
  let settled := outputs.filterMap fun output =>
    match output with
    | .effect (.settled settlement) => session.result? settlement
    | _ => none
  ({ connects := (session.engines.drop before).map (·.attached)
     received := received
     settled := settled.mergeSort fun a b => a.1 ≤ b.1
     delivered := delivered
     stats := session.stats? },
    { session with subscriber })

end Session

end EngineClient.Simulation
