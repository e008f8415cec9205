import EngineClient.Text.Octet

/-!
UTF-8 over byte lists. `Utf8.decode?` accepts exactly the well formed sequences: no overlong form,
no surrogate and nothing above U+10FFFF.
-/

namespace EngineClient.Utf8

def encodeChar (c : Char) : Bytes :=
  let code := c.toNat
  if code < 0x80 then [UInt8.ofNat code]
  else if code < 0x800 then
    [UInt8.ofNat (0xC0 + code / 0x40), UInt8.ofNat (0x80 + code % 0x40)]
  else if code < 0x10000 then
    [UInt8.ofNat (0xE0 + code / 0x1000), UInt8.ofNat (0x80 + code / 0x40 % 0x40),
      UInt8.ofNat (0x80 + code % 0x40)]
  else
    [UInt8.ofNat (0xF0 + code / 0x40000), UInt8.ofNat (0x80 + code / 0x1000 % 0x40),
      UInt8.ofNat (0x80 + code / 0x40 % 0x40), UInt8.ofNat (0x80 + code % 0x40)]

def encode (text : List Char) : Bytes := text.flatMap encodeChar

def continuation? (octet : UInt8) : Option Nat :=
  if 0x80 ≤ octet.toNat ∧ octet.toNat < 0xC0 then some (octet.toNat - 0x80) else none

/-- A scalar value written in no fewer bytes than it needs. -/
def scalar? (least code : Nat) : Option Char :=
  if least ≤ code ∧ (code < 0xD800 ∨ 0xDFFF < code ∧ code < 0x110000) then some (Char.ofNat code)
  else none

def decode? : Bytes → Option (List Char)
  | [] => some []
  | a :: rest =>
    if a.toNat < 0x80 then (decode? rest).map (Char.ofNat a.toNat :: ·)
    else match rest with
      | [] => none
      | b :: rest =>
        if a.toNat < 0xE0 then do
          let c ← scalar? 0x80 ((← lead? 0xC0 a) * 0x40 + (← continuation? b))
          (decode? rest).map (c :: ·)
        else match rest with
          | [] => none
          | c :: rest =>
            if a.toNat < 0xF0 then do
              let c ← scalar? 0x800
                ((← lead? 0xE0 a) * 0x1000 + (← continuation? b) * 0x40 + (← continuation? c))
              (decode? rest).map (c :: ·)
            else match rest with
              | [] => none
              | d :: rest => do
                let c ← scalar? 0x10000
                  ((← lead? 0xF0 a) * 0x40000 + (← continuation? b) * 0x1000 +
                    (← continuation? c) * 0x40 + (← continuation? d))
                (decode? rest).map (c :: ·)
where
  /-- The bits that a leading byte carries above its mark. -/
  lead? (mark : Nat) (octet : UInt8) : Option Nat :=
    if mark ≤ octet.toNat then some (octet.toNat - mark) else none

def ofString (text : String) : Bytes := encode text.toList

def string? (bytes : Bytes) : Option String := (decode? bytes).map String.ofList

end EngineClient.Utf8
