import EngineClient.Link.Basic

/-!
The writing side of a link: chunks are queued, written in order, and flushed one by one. The peer takes
any number of bytes at a time, and may stop taking any; a flush may fail, too.
-/

namespace EngineClient.Link

inductive Writer.Status where
  | running
  | failed
  | shut
  deriving DecidableEq, Repr

structure Writer where
  queue : List Bytes
  /-- What is left of the chunk that is being written. -/
  hand : Bytes
  /-- Whether the flush behind this chunk is still to come. -/
  unflushed : Bool
  accepting : Bool
  /-- How many bytes the peer still takes, if there is a limit. -/
  room : Option Nat
  /-- How many flushes still succeed, if there is a limit. -/
  flushes : Option Nat
  /-- The text of the failure once either limit is reached. -/
  fault : String
  taken : Bytes
  status : Writer.Status
  deriving DecidableEq, Repr

namespace Writer

def start (room flushes : Option Nat) (fault : String) : Writer :=
  ⟨[], [], false, true, room, flushes, fault, [], .running⟩

def isClosed (writer : Writer) : Bool := !writer.accepting || writer.status != .running

/-- Chunks are refused after `close` and once the writer has stopped. -/
def write (writer : Writer) (chunk : Bytes) : Except Error Writer :=
  if writer.isClosed then .error .closed
  else .ok { writer with queue := writer.queue ++ [chunk] }

/-- Refuses further chunks; those already queued are still written. -/
def close (writer : Writer) : Writer := { writer with accepting := false }

/-- One step, unless there is nothing to do: takes up a chunk, writes at most `amount` bytes of it and
at least one, flushes behind its last byte, fails where the peer takes no more or does not flush, or
shuts down when all is written after `close`. -/
def step? (writer : Writer) (amount : Nat) : Option (Option Signal × Writer) :=
  match writer.status with
  | .failed => none
  | .shut => none
  | .running =>
    match writer.hand with
    | [] =>
      if writer.unflushed then
        if writer.flushes = some 0 then
          some (some (.failed writer.fault), { writer with status := .failed })
        else
          some (none, { writer with
            unflushed := false
            flushes := writer.flushes.map (· - 1) })
      else
        match writer.queue with
        | chunk :: queue => some (none, { writer with queue, hand := chunk, unflushed := true })
        | [] => if writer.accepting then none else some (none, { writer with status := .shut })
    | octet :: hand =>
      if writer.room = some 0 then
        some (some (.failed writer.fault), { writer with status := .failed })
      else
        let most := match writer.room with
          | none => max 1 amount
          | some room => min room (max 1 amount)
        some (none, { writer with
          hand := (octet :: hand).drop most
          taken := writer.taken ++ (octet :: hand).take most
          room := writer.room.map (· - ((octet :: hand).take most).length) })

end Writer

end EngineClient.Link
