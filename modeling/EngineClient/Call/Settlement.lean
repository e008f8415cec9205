import EngineClient.Message.Response

/-!
Calls are numbered in the order in which they are issued. A call is settled by one outcome.
-/

namespace EngineClient.Call

abbrev Number := Nat

abbrev Outcome := Except Error Response

structure Settlement where
  call : Number
  outcome : Outcome

def outcomeOf (response : Response) : Outcome :=
  match response.status with
  | .success => .ok response
  | .fail => .error (.engine response.errorMessage)

def listing (outcome : Outcome) : Except Error (List Entry) := outcome >>= Response.entries

end EngineClient.Call
