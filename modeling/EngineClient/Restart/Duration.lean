/-!
Spans of time in nanoseconds. The whole seconds of a span fit in 64 bits.
-/

namespace EngineClient

structure Duration where
  nanos : Nat
  bounded : nanos < 0x10000000000000000 * 1000000000
  deriving DecidableEq, Repr

namespace Duration

def ofNanos? (nanos : Nat) : Option Duration :=
  if bounded : nanos < 0x10000000000000000 * 1000000000 then some ⟨nanos, bounded⟩ else none

def millis (count : UInt32) : Duration :=
  ⟨count.toNat * 1000000, by have := count.toNat_lt; omega⟩

def seconds (count : UInt32) : Duration :=
  ⟨count.toNat * 1000000000, by have := count.toNat_lt; omega⟩

def times? (span : Duration) (factor : UInt32) : Option Duration :=
  ofNanos? (span.nanos * factor.toNat)

def shorter (a b : Duration) : Duration := if a.nanos ≤ b.nanos then a else b

end Duration

end EngineClient
