import EngineClient.Link.Reader
import EngineClient.Link.Writer

/-!
A link in use: its reader and writer run on their own until the link is dropped. Signals carry the
generation of the link; they are lost when nobody listens.
-/

namespace EngineClient

structure Link where
  generation : Link.Generation
  kind : Link.Kind
  reader : Link.Reader
  writer : Link.Writer
  dropped : Bool
  listening : Bool

namespace Link

/-- The far end of a link that could be opened: what it sends, how many bytes it takes and how many
flushes succeed, if there is a limit, and how it fails then. -/
structure Peer where
  arrivals : List Arrival
  room : Option Nat
  flushes : Option Nat
  fault : String

def Peer.silent : Peer := ⟨[], none, none, ""⟩

abbrev Attempt := Except Error Peer

def start (peer : Peer) (kind : Kind) (generation : Generation) : Link where
  generation := generation
  kind := kind
  reader := Reader.start peer.arrivals
  writer := Writer.start peer.room peer.flushes peer.fault
  dropped := false
  listening := true

def isClosed (link : Link) : Bool := link.dropped || link.writer.isClosed

def write (link : Link) (chunk : Bytes) : Except Error Link :=
  if link.dropped then .error .closed
  else (link.writer.write chunk).map fun writer => { link with writer }

def close (link : Link) : Link := { link with writer := link.writer.close }

def drop (link : Link) : Link := { link with dropped := true }

/-- Nobody takes signals any more; the reader stops at its next data. -/
def deafen (link : Link) : Link := { link with listening := false }

def receive (link : Link) (arrival : Arrival) : Link :=
  { link with reader := link.reader.receive arrival }

def read? (link : Link) : Option (Option Signal × Link) :=
  if link.dropped then none
  else link.reader.step?.map fun (signal, reader) =>
    if link.listening then (some signal, { link with reader })
    else (none, { link with reader := { reader with finished := true } })

def pour? (link : Link) (amount : Nat) : Option (Option Signal × Link) :=
  if link.dropped then none
  else (link.writer.step? amount).map fun (signal, writer) =>
    (if link.listening then signal else none, { link with writer })

def settle : Nat → Link → List Signal × Link
  | 0, link => ([], link)
  | fuel + 1, link =>
    match link.read? <|> link.pour? (link.writer.hand.length) with
    | none => ([], link)
    | some (signal, link) =>
      let (signals, link) := settle fuel link
      (signal.toList ++ signals, link)

/-- A bound on the steps that a link has left. -/
def workload (link : Link) : Nat :=
  let arrived := link.reader.arrivals.map fun arrival =>
    match arrival with
    | .bytes chunk => chunk.length + 1
    | .ended _ => 1
    | .failure _ => 1
  arrived.foldl (· + ·) 0 + 3 * link.writer.queue.length + 5

def run (link : Link) : List Signal × Link := settle link.workload link

end Link

end EngineClient
