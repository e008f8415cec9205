import EngineClient.Text.Numeral

/-!
Generated request ids: a prefix for the client, a hyphen, and a counter in base 36.
-/

namespace EngineClient.Call

def base36 (value : UInt64) : String := String.ofList (Numeral.text 36 value.toNat)

/-- The prefix of a client from the clock and from the number of the client in its process. -/
def clientPrefix (millis sequence : UInt64) : String := base36 millis ++ base36 sequence

def generatedId (client : String) (counter : UInt64) : String := client ++ "-" ++ base36 counter

end EngineClient.Call
