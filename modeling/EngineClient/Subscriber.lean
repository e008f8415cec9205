import EngineClient.Message.Inbound

/-!
Who receives the messages that no call waits for.
-/

namespace EngineClient

inductive Subscriber where
  | queue (received : List Inbound)
  /-- A queue that nobody reads any more; messages vanish. -/
  | hungUp
  | discard

namespace Subscriber

def deliver (subscriber : Subscriber) (message : Inbound) : Subscriber :=
  match subscriber with
  | .queue received => .queue (received ++ [message])
  | .hungUp => .hungUp
  | .discard => .discard

def drain : Subscriber → List Inbound × Subscriber
  | .queue received => (received, .queue [])
  | .hungUp => ([], .hungUp)
  | .discard => ([], .discard)

end Subscriber

end EngineClient
