import EngineClient.Frame.Basic

/-!
Frames out of a stream that arrives in chunks. The buffer holds the bytes of frames not yet pulled.
-/

namespace EngineClient.Frame

structure Decoder where
  buffer : Bytes
  deriving DecidableEq, Repr

namespace Decoder

def empty : Decoder := ⟨[]⟩

def feed (decoder : Decoder) (chunk : Bytes) : Decoder := ⟨decoder.buffer ++ chunk⟩

/-- The next frame, or the fault that ends the stream; a fault discards the buffer. -/
def pull (decoder : Decoder) : Option (Except Error Frame) × Decoder :=
  match decode? decoder.buffer with
  | .ok none => (none, decoder)
  | .ok (some (frame, taken)) => (some (.ok frame), ⟨decoder.buffer.drop taken⟩)
  | .error fault => (some (.error fault), empty)

def pullUpTo : Nat → Decoder → List (Except Error Frame) × Decoder
  | 0, decoder => ([], decoder)
  | count + 1, decoder =>
    match decoder.pull with
    | (none, decoder) => ([], decoder)
    | (some (.error fault), decoder) => ([.error fault], decoder)
    | (some (.ok frame), decoder) =>
      let (items, decoder) := pullUpTo count decoder
      (.ok frame :: items, decoder)

/-- Every item that is there; a frame takes at least one byte. -/
def pullAll (decoder : Decoder) : List (Except Error Frame) × Decoder :=
  pullUpTo (decoder.buffer.length + 1) decoder

def step (decoder : Decoder) (chunk : Bytes) : List (Except Error Frame) × Decoder :=
  (decoder.feed chunk).pullAll

end Decoder

end EngineClient.Frame
