import EngineClient.Text.Utf8

/-!
What the peer of a client does.
-/

namespace EngineClient.Simulation

inductive Action where
  | read
  | write (bytes : Bytes)
  /-- Writes to its errors, which the client does not show. -/
  | complain (text : String)
  /-- Ends the connection, and with it a program that was spawned. -/
  | close
  | closeOutput
  | exit (code : Int)
  | die
  deriving DecidableEq, Repr

abbrev Script := List Action

end EngineClient.Simulation
