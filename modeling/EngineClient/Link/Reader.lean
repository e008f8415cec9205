import EngineClient.Link.Basic

/-!
The reading side of a link: it forwards what arrives in bounded chunks and reports the end once.
-/

namespace EngineClient.Link

/-- What the next reads of a link yield. The end of the stream comes as zero bytes where no process was
spawned; where one was, it comes as the outcome of waiting for the process, which is an end with its exit or a
failure. -/
inductive Arrival where
  | bytes (chunk : Bytes)
  | ended (reason : CloseReason)
  | failure (detail : String)
  deriving DecidableEq, Repr

structure Reader where
  arrivals : List Arrival
  finished : Bool
  deriving DecidableEq, Repr

namespace Reader

/-- Most bytes that one read takes. -/
def chunkLimit : Nat := 8192

def start (arrivals : List Arrival) : Reader := ⟨arrivals, false⟩

def receive (reader : Reader) (arrival : Arrival) : Reader :=
  { reader with arrivals := reader.arrivals ++ [arrival] }

/-- One read, unless there is nothing to read. What does not fit stays for the next read. The kind of the
link plays no part: which end a process leaves is what has arrived. -/
def step? (reader : Reader) : Option (Signal × Reader) :=
  if reader.finished then none
  else match reader.arrivals with
    | [] => none
    | .failure detail :: _ => some (.failed detail, { reader with finished := true })
    | .ended reason :: _ => some (.closed reason, { reader with finished := true })
    | .bytes [] :: _ => some (.closed .disconnected, { reader with finished := true })
    | .bytes (octet :: chunk) :: rest =>
      let later := chunk.drop (chunkLimit - 1)
      let arrivals := if later.isEmpty then rest else .bytes later :: rest
      some (.data ((octet :: chunk).take chunkLimit), { reader with arrivals })

end Reader

end EngineClient.Link
