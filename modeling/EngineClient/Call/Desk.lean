import EngineClient.Call.Pending

/-!
Pending calls with their callers: calls are numbered as they come, those that are refused included, and
a caller that has gone away no longer hears its outcome.
-/

namespace EngineClient.Call

structure Desk where
  pending : Pending
  issued : Number
  gone : List Number

namespace Desk

inductive Operation where
  | register (id : String)
  | resolve (response : Response)
  | reject (id : String) (error : Error)
  | rejectAll (error : Error)
  | contains (id : String)
  | leave (call : Number)

inductive Answer where
  | registered
  | refused (error : Error)
  | resolved
  | unclaimed (response : Response)
  | found (isPending : Bool)
  | rejected (count : Nat)
  | left

def empty : Desk := ⟨.empty, 0, []⟩

/-- The answer to an operation, the calls it settles, and the desk after it. -/
def apply (desk : Desk) : Operation → Answer × List Settlement × Desk
  | .register id =>
    let next := { desk with issued := desk.issued + 1 }
    match desk.pending.register id desk.issued with
    | .ok pending => (.registered, [], { next with pending })
    | .error error => (.refused error, [⟨desk.issued, .error error⟩], next)
  | .resolve response =>
    match desk.pending.resolve response with
    | some (settlement, pending) => (.resolved, [settlement], { desk with pending })
    | none => (.unclaimed response, [], desk)
  | .reject id error =>
    match desk.pending.reject id error with
    | some (settlement, pending) => (.found true, [settlement], { desk with pending })
    | none => (.found false, [], desk)
  | .rejectAll error =>
    (.rejected desk.pending.size, desk.pending.rejectAll error, { desk with pending := .empty })
  | .contains id => (.found (desk.pending.contains id), [], desk)
  | .leave call => (.left, [], { desk with gone := call :: desk.gone })

def heard (desk : Desk) (settlements : List Settlement) : List Settlement :=
  settlements.filter fun settlement => !desk.gone.contains settlement.call

end Desk

end EngineClient.Call
