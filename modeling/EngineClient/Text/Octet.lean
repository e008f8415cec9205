/-!
Octets, the ASCII codes that the readers look for, and the hexadecimal form of a byte string.
-/

namespace EngineClient

abbrev Bytes := List UInt8

namespace Octet

@[match_pattern] abbrev tab : UInt8 := 0x09
@[match_pattern] abbrev lineFeed : UInt8 := 0x0A
@[match_pattern] abbrev carriageReturn : UInt8 := 0x0D
@[match_pattern] abbrev space : UInt8 := 0x20
@[match_pattern] abbrev quote : UInt8 := 0x22
@[match_pattern] abbrev plus : UInt8 := 0x2B
@[match_pattern] abbrev comma : UInt8 := 0x2C
@[match_pattern] abbrev minus : UInt8 := 0x2D
@[match_pattern] abbrev point : UInt8 := 0x2E
@[match_pattern] abbrev slash : UInt8 := 0x2F
@[match_pattern] abbrev zero : UInt8 := 0x30
@[match_pattern] abbrev colon : UInt8 := 0x3A
@[match_pattern] abbrev openList : UInt8 := 0x5B
@[match_pattern] abbrev backslash : UInt8 := 0x5C
@[match_pattern] abbrev closeList : UInt8 := 0x5D
@[match_pattern] abbrev letterB : UInt8 := 0x62
@[match_pattern] abbrev letterF : UInt8 := 0x66
@[match_pattern] abbrev letterN : UInt8 := 0x6E
@[match_pattern] abbrev letterR : UInt8 := 0x72
@[match_pattern] abbrev letterT : UInt8 := 0x74
@[match_pattern] abbrev letterU : UInt8 := 0x75
@[match_pattern] abbrev openObject : UInt8 := 0x7B
@[match_pattern] abbrev closeObject : UInt8 := 0x7D

def isDigit (octet : UInt8) : Bool := 0x30 ≤ octet && octet ≤ 0x39

def digit (octet : UInt8) : Nat := octet.toNat - 0x30

def isExponentMark (octet : UInt8) : Bool := octet == 0x65 || octet == 0x45

def hexDigit? (octet : UInt8) : Option Nat :=
  if isDigit octet then some (octet.toNat - 0x30)
  else if 0x61 ≤ octet && octet ≤ 0x66 then some (octet.toNat - 0x57)
  else if 0x41 ≤ octet && octet ≤ 0x46 then some (octet.toNat - 0x37)
  else none

end Octet

namespace Bytes

def hex (bytes : Bytes) : List Char :=
  bytes.flatMap fun octet =>
    [Nat.digitChar (octet.toNat / 16), Nat.digitChar (octet.toNat % 16)]

def ofHex? : List Char → Option Bytes
  | [] => some []
  | [_] => none
  | high :: low :: rest => do
    let upper ← Octet.hexDigit? (UInt8.ofNat high.toNat)
    let lower ← Octet.hexDigit? (UInt8.ofNat low.toNat)
    let bytes ← ofHex? rest
    return UInt8.ofNat (upper * 16 + lower) :: bytes

end Bytes

end EngineClient
