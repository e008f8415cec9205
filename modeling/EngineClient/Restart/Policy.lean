import EngineClient.Link.Basic
import EngineClient.Restart.Duration

/-!
When a lost link is brought back without waiting for a call, and after how long.
-/

namespace EngineClient.Restart

structure Policy where
  /-- Failures that are tolerated before the first eager restart. -/
  threshold : UInt32
  base : Duration
  longest : Duration
  /-- Failures after which eager restarts stop. -/
  giveUpAfter : Option UInt32
  deriving DecidableEq, Repr

inductive Decision where
  | suppressed
  | after (delay : Duration)
  | gaveUp
  deriving DecidableEq, Repr

namespace Policy

def socket : Policy := ⟨0, .millis 100, .seconds 5, some 32⟩

/-- Tolerates a few crashes of a spawned engine. -/
def process : Policy := { socket with threshold := 5 }

def ofKind : Link.Kind → Policy
  | .process => process
  | .socket => socket

/-- The delay doubles with each attempt; past 32 bits the factor stays at its greatest value. -/
def factor (attempt : UInt32) : UInt32 :=
  if attempt < 32 then 1 <<< attempt else 0xFFFFFFFF

def delay (policy : Policy) (attempt : UInt32) : Duration :=
  match policy.base.times? (factor attempt) with
  | some span => span.shorter policy.longest
  | none => policy.longest

def decision (policy : Policy) (failures : UInt32) : Decision :=
  if failures ≤ policy.threshold then .suppressed
  else if policy.giveUpAfter.any (· < failures) then .gaveUp
  else .after (policy.delay (failures - policy.threshold - 1))

end Policy

end EngineClient.Restart
