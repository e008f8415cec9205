import EngineClient.Call.Identifier
import EngineClient.Dispatcher

/-!
The running client: callers queue commands, the tasks of the live link queue signals, and the
dispatcher handles one of them at a time. A run is any sequence of moves; a move that is not possible
in a state leaves it as it is.
-/

namespace EngineClient

inductive Client.Command where
  | call (number : Call.Number) (request : Request)
  | stats
  | shutdown

structure Client where
  idPrefix : String
  kind : Link.Kind
  counter : UInt64
  issued : Nat
  /-- The time, in nanoseconds. -/
  now : Nat
  commands : List Client.Command
  signals : List (Link.Generation × Link.Signal)
  dispatcher : Dispatcher
  running : Bool
  link : Option Link

namespace Client

def new (idPrefix : String) (kind : Link.Kind) (policy : Restart.Policy) (now : Nat) : Client :=
  ⟨idPrefix, kind, 0, 0, now, [], [], .new policy, true, none⟩

inductive Output where
  | effect (effect : Dispatcher.Effect)
  /-- Bytes that the peer of the link has taken. -/
  | poured (generation : Link.Generation) (bytes : Bytes)

inductive Move where
  /-- A caller sends a request, asks for counts, or asks for the shutdown. -/
  | send (request : Request)
  | stats
  | shutdown
  /-- The dispatcher handles the next command, the next signal, or the restart timer. -/
  | command (attempt : Link.Attempt)
  | signal
  | timer (attempt : Link.Attempt)
  | read
  | pour (amount : Nat)
  | arrive (arrival : Link.Arrival)
  /-- A task reports for the link of a generation, be it the live one or one that was dropped. -/
  | report (generation : Link.Generation) (signal : Link.Signal)
  | wait (nanos : Nat)

def identify (client : Client) (request : Request) : Request × Client :=
  match request.id with
  | some _ => (request, client)
  | none =>
    (request.withId (Call.generatedId client.idPrefix client.counter),
      { client with counter := client.counter + 1 })

/-- Issues a call. Once the dispatcher has stopped it is settled at once. -/
def send (client : Client) (request : Request) : Client × List Output :=
  let (request, client) := client.identify request
  let number := client.issued
  let client := { client with issued := number + 1 }
  if client.running then
    ({ client with commands := client.commands ++ [.call number request] }, [])
  else (client, [.effect (.settled ⟨number, .error .clientClosed⟩)])

def enqueue (client : Client) (command : Command) : Client :=
  if client.running then { client with commands := client.commands ++ [command] } else client

/-- What an effect does to the link; `attempt` is where a link that was opened leads. -/
def apply (attempt : Link.Attempt) (client : Client) (effect : Dispatcher.Effect) : Client :=
  match effect with
  | .attempted generation true =>
    match attempt with
    | .ok peer => { client with link := some (Link.start peer client.kind generation) }
    | .error _ => client
  | .queued _ _ chunk =>
    { client with link := client.link.map fun link =>
        match link.write chunk with
        | .ok link => link
        | .error _ => link }
  | .dropped _ => { client with link := none }
  | .stopped => { client with running := false }
  | _ => client

def Command.abandon : Command → List Output
  | .call number _ => [.effect (.settled ⟨number, .error .clientClosed⟩)]
  | .stats => []
  | .shutdown => []

/-- The dispatcher handles a stimulus, and its effects are carried out. The reading of the clock is the
time at which the attempt that the stimulus may lead to has ended: an attempt takes no time of its own,
and what it takes is waited before the move. If the dispatcher stops, the commands that are left are
abandoned. -/
def handle (client : Client) (attempt : Link.Attempt) (stimulus : Dispatcher.Stimulus) :
    Client × List Output :=
  let (dispatcher, effects) := client.dispatcher.handle client.now stimulus
  let after := effects.foldl (apply attempt) { client with dispatcher }
  if after.running then (after, effects.map .effect)
  else
    ({ after with commands := [] },
      effects.map .effect ++ after.commands.flatMap Command.abandon)

def command (client : Client) (attempt : Link.Attempt) : Client × List Output :=
  match client.commands with
  | [] => (client, [])
  | command :: rest =>
    let client := { client with commands := rest }
    match command with
    | .call number request =>
      client.handle attempt
        (.call number request (attempt.map fun _ => ()) (client.link.any (!·.isClosed)))
    | .stats => client.handle attempt .stats
    | .shutdown => client.handle attempt .shutdown

def signal (client : Client) : Client × List Output :=
  match client.signals with
  | [] => (client, [])
  | (generation, signal) :: rest =>
    if client.running then
      { client with signals := rest }.handle (.error .closed) (.signal generation signal)
    else ({ client with signals := rest }, [])

def timer (client : Client) (attempt : Link.Attempt) : Client × List Output :=
  if client.running then client.handle attempt (.timer (attempt.map fun _ => ()))
  else (client, [])

def report (client : Client) (link : Link) (signal : Option Link.Signal) : Client :=
  { client with
    link := some link
    signals := client.signals ++ signal.toList.map (link.generation, ·) }

def read (client : Client) : Client :=
  match client.link with
  | none => client
  | some link =>
    match link.read? with
    | none => client
    | some (signal, link) => client.report link signal

def pour (client : Client) (amount : Nat) : Client × List Output :=
  match client.link with
  | none => (client, [])
  | some link =>
    match link.pour? amount with
    | none => (client, [])
    | some (signal, after) =>
      (client.report after signal,
        [.poured link.generation (after.writer.taken.drop link.writer.taken.length)])

def perform (client : Client) : Move → Client × List Output
  | .send request => client.send request
  | .stats => (client.enqueue .stats, [])
  | .shutdown => (client.enqueue .shutdown, [])
  | .command attempt => client.command attempt
  | .signal => client.signal
  | .timer attempt => client.timer attempt
  | .read => (client.read, [])
  | .pour amount => client.pour amount
  | .arrive arrival => ({ client with link := client.link.map (·.receive arrival) }, [])
  | .report generation signal =>
    ({ client with signals := client.signals ++ [(generation, signal)] }, [])
  | .wait nanos => ({ client with now := client.now + nanos }, [])

def run (client : Client) : List Move → Client × List Output
  | [] => (client, [])
  | move :: moves =>
    let (next, outputs) := client.perform move
    let (last, later) := next.run moves
    (last, outputs ++ later)

/-- The next move of a client that is left to itself: commands first, then the reader and the writer of
the link, then signals, then the restart timer. -/
def nextMove? (client : Client) (attempt : Link.Attempt) : Option Move :=
  if !client.commands.isEmpty then some (.command attempt)
  else if (client.link >>= Link.read?).isSome then some .read
  else
    let amount := (client.link.map (·.writer.hand.length)).getD 0
    if (client.link >>= (·.pour? amount)).isSome then some (.pour amount)
    else if !client.signals.isEmpty then some .signal
    else if client.running && client.dispatcher.isDue client.now then some (.timer attempt)
    else none

def isIdle (client : Client) : Bool := (client.nextMove? (.error .closed)).isNone

end Client

end EngineClient
