import EngineClient.Call.Pending
import EngineClient.Connection
import EngineClient.Frame.Decoder
import EngineClient.Link.Tasks
import EngineClient.Message.Inbound

/-!
The core of the client: it handles calls, signals of links and the restart timer one at a time, and
answers each with effects in order. It does no input or output of its own; the outcome of opening or
writing a link comes with what it handles.
-/

namespace EngineClient

structure Dispatcher where
  connection : Connection
  pending : Call.Pending
  decoder : Frame.Decoder
  /-- When the link is restarted without waiting for a call, in nanoseconds. -/
  restartAt : Option Nat

namespace Dispatcher

structure Stats where
  pending : Nat
  failures : UInt32
  generation : Link.Generation
  live : Bool
  deriving DecidableEq, Repr

inductive Effect where
  /-- An attempt to open a link of this generation, and whether it succeeded. -/
  | attempted (generation : Link.Generation) (opened : Bool)
  /-- The frame of a call, queued on the link of this generation. -/
  | queued (generation : Link.Generation) (call : Call.Number) (chunk : Bytes)
  | settled (settlement : Call.Settlement)
  | delivered (message : Inbound)
  /-- What the policy decided after a failure. -/
  | decided (decision : Restart.Decision)
  | dropped (generation : Link.Generation)
  | stopped
  | reported (stats : Stats)

/-- What the dispatcher handles. `attempt` is the result of opening a link, if it comes to that, and
`writable` tells whether a link that is live already takes a chunk. -/
inductive Stimulus where
  | call (number : Call.Number) (request : Request) (attempt : Except Link.Error Unit)
      (writable : Bool)
  | signal (generation : Link.Generation) (signal : Link.Signal)
  | timer (attempt : Except Link.Error Unit)
  | stats
  | shutdown

def new (policy : Restart.Policy) : Dispatcher := ⟨.new policy, .empty, .empty, none⟩

def stats (dispatcher : Dispatcher) : Stats :=
  ⟨dispatcher.pending.size, dispatcher.connection.failures, dispatcher.connection.generation,
    dispatcher.connection.isLive⟩

def shutdown (dispatcher : Dispatcher) : Dispatcher × List Effect :=
  let settled := dispatcher.pending.rejectAll .clientClosed
  (⟨dispatcher.connection.shutdown, .empty, .empty, none⟩,
    settled.map .settled ++ dispatcher.connection.live.toList.map .dropped ++ [.stopped])

/-- The end of the clock, which counts seconds in 63 bits. -/
def clockEnd : Nat := 0x8000000000000000 * 1000000000

/-- Takes a decision of the policy. Only one for a delay moves the timer; if the restart would lie
beyond the end of the clock, it ends in a shutdown instead. -/
def schedule (dispatcher : Dispatcher) (now : Nat) (decision : Restart.Decision) :
    Dispatcher × List Effect :=
  match decision with
  | .after delay =>
    if now + delay.nanos < clockEnd then
      ({ dispatcher with restartAt := some (now + delay.nanos) }, [.decided decision])
    else
      let (stopped, effects) := dispatcher.shutdown
      (stopped, .decided decision :: effects)
  | .suppressed => (dispatcher, [.decided decision])
  | .gaveUp => (dispatcher, [.decided decision])

def ensureLive (dispatcher : Dispatcher) (attempt : Except Link.Error Unit) :
    Except Link.Error Link.Generation × Dispatcher × List Effect :=
  match dispatcher.connection.ensureLive attempt with
  | (.ok generation, connection) =>
    (.ok generation, { dispatcher with connection },
      if dispatcher.connection.isLive then [] else [.attempted connection.generation true])
  | (.error error, connection) =>
    (.error error, { dispatcher with connection }, [.attempted connection.generation false])

def rejectCall (dispatcher : Dispatcher) (id : String) (error : Call.Error) :
    Dispatcher × List Effect :=
  match dispatcher.pending.reject id error with
  | some (settlement, pending) => ({ dispatcher with pending }, [.settled settlement])
  | none => (dispatcher, [])

/-- A call is registered, a link is opened if none is live, and the frame is queued on it. A link that
cannot be opened fails the call and is put to the policy. -/
def call (dispatcher : Dispatcher) (now : Nat) (number : Call.Number) (request : Request)
    (attempt : Except Link.Error Unit) (writable : Bool) : Dispatcher × List Effect :=
  let id := request.id.getD ""
  match dispatcher.pending.register id number with
  | .error error => (dispatcher, [.settled ⟨number, .error error⟩])
  | .ok pending =>
    let registered := { dispatcher with pending }
    match registered.ensureLive attempt with
    | (.error error, failed, effects) =>
      let (rejected, settled) := failed.rejectCall id (.ofLink error)
      let (scheduled, decided) := rejected.schedule now rejected.connection.decision
      (scheduled, effects ++ settled ++ decided)
    | (.ok generation, live, effects) =>
      if dispatcher.connection.isLive && !writable then
        live.rejectCall id (.linkLost Link.Error.closed.message)
      else (live, effects ++ [.queued generation number request.frame.encode])

/-- Rejects every pending call, forgets the partial frame, and puts the loss to the policy. -/
def lose (dispatcher : Dispatcher) (now : Nat) (generation : Link.Generation) (reason : String) :
    Dispatcher × List Effect :=
  match dispatcher.connection.lose generation with
  | none => (dispatcher, [])
  | some (decision, connection) =>
    let settled := dispatcher.pending.rejectAll (.linkLost reason)
    let dropped := { dispatcher with connection, pending := .empty, decoder := .empty }
    let (scheduled, decided) := dropped.schedule now decision
    (scheduled, .dropped generation :: settled.map .settled ++ decided)

/-- A message goes to the call that waits for it, or is delivered; a malformed body is skipped. -/
def dispatch (dispatcher : Dispatcher) (frame : Frame) : Dispatcher × List Effect :=
  match frame.inbound with
  | .error _ => (dispatcher, [])
  | .ok (.event push) => (dispatcher, [.delivered (.event push)])
  | .ok (.response reply) =>
    match dispatcher.pending.resolve reply with
    | some (settlement, pending) => ({ dispatcher with pending }, [.settled settlement])
    | none => (dispatcher, [.delivered (.response reply)])

/-- Frames mark the link healthy and are dispatched; a framing fault loses the link. -/
def takeFrames (dispatcher : Dispatcher) (now : Nat) (generation : Link.Generation) :
    List (Except Frame.Error Frame) → Dispatcher × List Effect
  | [] => (dispatcher, [])
  | .error fault :: _ => dispatcher.lose now generation ("protocol error: " ++ fault.message)
  | .ok frame :: rest =>
    let healthy := { dispatcher with connection := dispatcher.connection.markHealthy generation }
    let (dispatched, effects) := healthy.dispatch frame
    let (after, later) := takeFrames dispatched now generation rest
    (after, effects ++ later)

def takeData (dispatcher : Dispatcher) (now : Nat) (generation : Link.Generation)
    (chunk : Bytes) : Dispatcher × List Effect :=
  let (items, decoder) := dispatcher.decoder.step chunk
  { dispatcher with decoder }.takeFrames now generation items

def signal (dispatcher : Dispatcher) (now : Nat) (generation : Link.Generation)
    (signal : Link.Signal) : Dispatcher × List Effect :=
  if dispatcher.connection.isCurrent generation then
    match signal with
    | .data chunk => dispatcher.takeData now generation chunk
    | .closed reason => dispatcher.lose now generation reason.text
    | .failed detail => dispatcher.lose now generation detail
  else (dispatcher, [])

def isDue (dispatcher : Dispatcher) (now : Nat) : Bool := dispatcher.restartAt.any (· ≤ now)

/-- A timer that is due fires once: a link is opened unless one is live, and a failure is put to the
policy. -/
def restart (dispatcher : Dispatcher) (now : Nat) (attempt : Except Link.Error Unit) :
    Dispatcher × List Effect :=
  if dispatcher.isDue now then
    let fired := { dispatcher with restartAt := none }
    if fired.connection.isLive then (fired, [])
    else
      match fired.ensureLive attempt with
      | (.ok _, live, effects) => (live, effects)
      | (.error _, failed, effects) =>
        let (scheduled, decided) := failed.schedule now failed.connection.decision
        (scheduled, effects ++ decided)
  else (dispatcher, [])

def handle (dispatcher : Dispatcher) (now : Nat) : Stimulus → Dispatcher × List Effect
  | .call number request attempt writable => dispatcher.call now number request attempt writable
  | .signal generation signal => dispatcher.signal now generation signal
  | .timer attempt => dispatcher.restart now attempt
  | .stats => (dispatcher, [.reported dispatcher.stats])
  | .shutdown => dispatcher.shutdown

end Dispatcher

end EngineClient
