import EngineClient.Text.Numeral
import EngineClient.Text.Octet

/-!
Frames: a tag, the length of the body in eight bytes, most significant first, and the body.
-/

namespace EngineClient

namespace Frame

inductive Tag where
  | request
  | response
  | event
  deriving DecidableEq, Repr

def Tag.octet : Tag → UInt8
  | .request => 1
  | .response => 2
  | .event => 3

def Tag.ofOctet? (octet : UInt8) : Option Tag :=
  if octet = 1 then some .request
  else if octet = 2 then some .response
  else if octet = 3 then some .event
  else none

def Tag.text : Tag → String
  | .request => "Request"
  | .response => "Response"
  | .event => "Event"

end Frame

structure Frame where
  tag : Frame.Tag
  body : Bytes
  deriving DecidableEq, Repr

namespace Frame

def longestBody : Nat := 100 * 1024 * 1024

def headerLength : Nat := 9

/-- Faults after which the position in the stream is lost. -/
inductive Error where
  | unknownTag (octet : UInt8)
  | oversized (length longest : Nat)
  deriving DecidableEq, Repr

def octetText (octet : UInt8) : List Char :=
  [Numeral.digitChar (octet.toNat / 16), Numeral.digitChar (octet.toNat % 16)]

def Error.message : Error → String
  | .unknownTag octet => "Unknown frame tag 0x" ++ String.ofList (octetText octet)
  | .oversized length longest =>
    "Frame length " ++ String.ofList (Numeral.decimal length) ++ " exceeds maximum " ++
      String.ofList (Numeral.decimal longest) ++ " bytes"

/-- The low `count` bytes of a number, most significant first. -/
def bigEndian : (count : Nat) → Nat → Bytes
  | 0, _ => []
  | count + 1, value => UInt8.ofNat (value / Nat.pow 256 count) :: bigEndian count value

def ofBigEndian (bytes : Bytes) : Nat :=
  bytes.foldl (fun total octet => total * 256 + octet.toNat) 0

def encode (frame : Frame) : Bytes :=
  frame.tag.octet :: bigEndian 8 frame.body.length ++ frame.body

/-- The first frame and the bytes it takes, or nothing while it is incomplete. The tag is checked before
the length is there, and the length before the body. -/
def decode? : Bytes → Except Error (Option (Frame × Nat))
  | [] => .ok none
  | octet :: rest =>
    match Tag.ofOctet? octet with
    | none => .error (.unknownTag octet)
    | some tag =>
      let size := rest.take 8
      if size.length < 8 then .ok none
      else
        let length := ofBigEndian size
        if longestBody < length then .error (.oversized length longestBody)
        else
          let body := (rest.drop 8).take length
          if body.length < length then .ok none
          else .ok (some (⟨tag, body⟩, headerLength + length))

end Frame

end EngineClient
