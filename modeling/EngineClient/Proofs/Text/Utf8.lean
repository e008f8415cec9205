import EngineClient.Text.Utf8
import Mathlib.Tactic.SplitIfs

/-!
UTF-8 reads back what it writes. A character below U+0080 is the byte of its code; all other characters
are written in bytes above that.
-/

namespace EngineClient.Utf8

theorem toNat_ofNat {value : Nat} (small : value < 256) : (UInt8.ofNat value).toNat = value := by
  simp [UInt8.toNat_ofNat', Nat.mod_eq_of_lt small]

theorem continuation_ofNat {bits : Nat} (small : bits < 0x40) :
    continuation? (UInt8.ofNat (0x80 + bits)) = some bits := by
  have octet : (UInt8.ofNat (0x80 + bits)).toNat = 0x80 + bits := toNat_ofNat (by omega)
  rw [continuation?, octet, if_pos (by omega), Nat.add_sub_cancel_left]

theorem lead_ofNat {mark bits : Nat} (small : mark + bits < 256) :
    decode?.lead? mark (UInt8.ofNat (mark + bits)) = some bits := by
  rw [decode?.lead?, toNat_ofNat small, if_pos (by omega), Nat.add_sub_cancel_left]

theorem scalar_toNat {least : Nat} {c : Char} (enough : least ≤ c.toNat) :
    scalar? least c.toNat = some c := by
  have valid : c.toNat < 0xD800 ∨ 0xDFFF < c.toNat ∧ c.toNat < 0x110000 := c.valid
  rw [scalar?, if_pos ⟨enough, valid⟩, Char.ofNat_toNat]

theorem toNat_lt (c : Char) : c.toNat < 0x110000 := by
  have valid : c.toNat < 0xD800 ∨ 0xDFFF < c.toNat ∧ c.toNat < 0x110000 := c.valid
  omega

theorem encodeChar_ascii {c : Char} (ascii : c.toNat < 0x80) :
    encodeChar c = [UInt8.ofNat c.toNat] := by
  simp [encodeChar, ascii]

theorem high_encodeChar {c : Char} (wide : 0x80 ≤ c.toNat) :
    ∀ octet ∈ encodeChar c, 0x80 ≤ octet.toNat := by
  have bound := toNat_lt c
  intro octet present
  have byte {value : Nat} (small : value < 256) (high : 0x80 ≤ value)
      (same : octet = UInt8.ofNat value) : 0x80 ≤ octet.toNat := by
    rw [same, toNat_ofNat small]
    exact high
  simp only [encodeChar] at present
  split_ifs at present with ascii two three
  · omega
  · simp only [List.mem_cons, List.not_mem_nil, or_false] at present
    rcases present with same | same
    · exact byte (by omega) (by omega) same
    · exact byte (by omega) (by omega) same
  · simp only [List.mem_cons, List.not_mem_nil, or_false] at present
    rcases present with same | same | same
    · exact byte (by omega) (by omega) same
    · exact byte (by omega) (by omega) same
    · exact byte (by omega) (by omega) same
  · simp only [List.mem_cons, List.not_mem_nil, or_false] at present
    rcases present with same | same | same | same
    · exact byte (by omega) (by omega) same
    · exact byte (by omega) (by omega) same
    · exact byte (by omega) (by omega) same
    · exact byte (by omega) (by omega) same

section Sequences

variable {first second third fourth : UInt8} {high upper middle low : Nat} {c : Char} (rest : Bytes)

theorem decode_one (ascii : first.toNat < 0x80) :
    decode? (first :: rest) = (decode? rest).map (Char.ofNat first.toNat :: ·) := by
  rw [decode?.eq_def]
  exact if_pos ascii

theorem decode_two (wide : ¬ first.toNat < 0x80) (below : first.toNat < 0xE0)
    (lead : decode?.lead? 0xC0 first = some high) (last : continuation? second = some low)
    (scalar : scalar? 0x80 (high * 0x40 + low) = some c) :
    decode? (first :: second :: rest) = (decode? rest).map (c :: ·) := by
  rw [decode?.eq_def]
  dsimp only
  rw [if_neg wide, if_pos below, lead, last]
  simp only [Option.bind_eq_bind, Option.bind_some]
  rw [scalar, Option.bind_some]

theorem decode_three (wide : ¬ first.toNat < 0x80) (above : ¬ first.toNat < 0xE0)
    (below : first.toNat < 0xF0) (lead : decode?.lead? 0xE0 first = some high)
    (mid : continuation? second = some middle) (last : continuation? third = some low)
    (scalar : scalar? 0x800 (high * 0x1000 + middle * 0x40 + low) = some c) :
    decode? (first :: second :: third :: rest) = (decode? rest).map (c :: ·) := by
  rw [decode?.eq_def]
  dsimp only
  rw [if_neg wide, if_neg above, if_pos below, lead, mid, last]
  simp only [Option.bind_eq_bind, Option.bind_some]
  rw [scalar, Option.bind_some]

theorem decode_four (wide : ¬ first.toNat < 0x80) (above : ¬ first.toNat < 0xE0)
    (beyond : ¬ first.toNat < 0xF0) (lead : decode?.lead? 0xF0 first = some high)
    (next : continuation? second = some upper) (mid : continuation? third = some middle)
    (last : continuation? fourth = some low)
    (scalar : scalar? 0x10000 (high * 0x40000 + upper * 0x1000 + middle * 0x40 + low) = some c) :
    decode? (first :: second :: third :: fourth :: rest) = (decode? rest).map (c :: ·) := by
  rw [decode?.eq_def]
  dsimp only
  rw [if_neg wide, if_neg above, if_neg beyond, lead, next, mid, last]
  -- Rewritten one by one: a `simp only` here makes the kernel compute with the weights.
  rw [Option.bind_eq_bind, Option.bind_eq_bind, Option.bind_some, Option.bind_some,
    Option.bind_some, Option.bind_some, scalar, Option.bind_some]

end Sequences

theorem decode_encodeChar (c : Char) (rest : Bytes) :
    decode? (encodeChar c ++ rest) = (decode? rest).map (c :: ·) := by
  have bound := toNat_lt c
  simp only [encodeChar]
  split_ifs with ascii two three
  · have octet : (UInt8.ofNat c.toNat).toNat = c.toNat := toNat_ofNat (by omega)
    have decoded := decode_one rest (octet.symm ▸ ascii)
    rwa [octet, Char.ofNat_toNat] at decoded
  · have octet : (UInt8.ofNat (0xC0 + c.toNat / 0x40)).toNat = 0xC0 + c.toNat / 0x40 :=
      toNat_ofNat (by omega)
    have code : c.toNat / 0x40 * 0x40 + c.toNat % 0x40 = c.toNat := by omega
    apply decode_two rest (by omega) (by omega) (lead_ofNat (by omega))
      (continuation_ofNat (by omega))
    rw [code]
    exact scalar_toNat (by omega)
  · have octet : (UInt8.ofNat (0xE0 + c.toNat / 0x1000)).toNat = 0xE0 + c.toNat / 0x1000 :=
      toNat_ofNat (by omega)
    have code : c.toNat / 0x1000 * 0x1000 + c.toNat / 0x40 % 0x40 * 0x40 + c.toNat % 0x40 =
        c.toNat := by omega
    apply decode_three rest (by omega) (by omega) (by omega) (lead_ofNat (by omega))
      (continuation_ofNat (by omega)) (continuation_ofNat (by omega))
    rw [code]
    exact scalar_toNat (by omega)
  · have octet : (UInt8.ofNat (0xF0 + c.toNat / 0x40000)).toNat = 0xF0 + c.toNat / 0x40000 :=
      toNat_ofNat (by omega)
    have code : c.toNat / 0x40000 * 0x40000 + c.toNat / 0x1000 % 0x40 * 0x1000 +
        c.toNat / 0x40 % 0x40 * 0x40 + c.toNat % 0x40 = c.toNat := by omega
    apply decode_four rest (by omega) (by omega) (by omega) (lead_ofNat (by omega))
      (continuation_ofNat (by omega)) (continuation_ofNat (by omega))
      (continuation_ofNat (by omega))
    rw [code]
    exact scalar_toNat (by omega)

@[simp] theorem encode_nil : encode [] = [] := rfl

@[simp] theorem encode_cons (c : Char) (text : List Char) :
    encode (c :: text) = encodeChar c ++ encode text := rfl

@[simp] theorem encode_append (first second : List Char) :
    encode (first ++ second) = encode first ++ encode second := List.flatMap_append

theorem decode_encode (text : List Char) : decode? (encode text) = some text := by
  induction text with
  | nil => rfl
  | cons c text ih => rw [encode_cons, decode_encodeChar, ih, Option.map_some]

theorem string_encode (text : String) : string? (encode text.toList) = some text := by
  rw [string?, decode_encode, Option.map_some, String.ofList_toList]

end EngineClient.Utf8
