import EngineClient.Call.Settlement

/-!
The calls that wait for a response, each under the id of its request.
-/

namespace EngineClient.Call

/-- Pending calls in the order in which they were registered; no id occurs twice. -/
structure Pending where
  calls : List (String × Number)
  deriving DecidableEq, Repr

namespace Pending

def empty : Pending := ⟨[]⟩

def size (pending : Pending) : Nat := pending.calls.length

def isEmpty (pending : Pending) : Bool := pending.calls.isEmpty

def ids (pending : Pending) : List String := pending.calls.map Prod.fst

def find? (pending : Pending) (id : String) : Option Number :=
  (pending.calls.find? fun entry => entry.1 == id).map Prod.snd

def contains (pending : Pending) (id : String) : Bool := (pending.find? id).isSome

def erase (pending : Pending) (id : String) : Pending :=
  ⟨pending.calls.filter fun entry => entry.1 != id⟩

/-- An id that is pending is refused to a second call. -/
def register (pending : Pending) (id : String) (call : Number) : Except Error Pending :=
  if pending.contains id then .error (.duplicateId id)
  else .ok ⟨pending.calls ++ [(id, call)]⟩

def settle (pending : Pending) (id : String) (outcome : Outcome) :
    Option (Settlement × Pending) :=
  (pending.find? id).map fun call => (⟨call, outcome⟩, pending.erase id)

def resolve (pending : Pending) (response : Response) : Option (Settlement × Pending) :=
  response.id.bind fun id => pending.settle id (outcomeOf response)

def reject (pending : Pending) (id : String) (error : Error) : Option (Settlement × Pending) :=
  pending.settle id (.error error)

def rejectAll (pending : Pending) (error : Error) : List Settlement :=
  pending.calls.map fun entry => ⟨entry.2, .error error.shared⟩

end Pending

end EngineClient.Call
