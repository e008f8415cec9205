import EngineClient.Proofs.Frame.Stream

/-!
What decoding makes of any bytes: a frame exactly if they start with the encoding of one whose body is
within the limit, and a fault exactly if they start with a byte that is no tag or with the header of a body
beyond the limit. Everything else is incomplete, and nothing but that changes when more bytes come.
-/

namespace EngineClient.Frame

/-- The fault that bytes start with. -/
inductive StartsFaulty : Bytes → Error → Prop where
  | unknownTag {octet : UInt8} (unknown : ∀ tag : Tag, tag.octet ≠ octet) (rest : Bytes) :
      StartsFaulty (octet :: rest) (.unknownTag octet)
  | oversized (tag : Tag) {length : Nat} (beyond : longestBody < length)
      (counted : length < 0x10000000000000000) (rest : Bytes) :
      StartsFaulty (tag.octet :: bigEndian 8 length ++ rest) (.oversized length longestBody)

variable {bytes : Bytes} {frame : Frame} {taken : Nat} {fault : Error}

theorem Tag.ofOctet?_eq_none_iff {octet : UInt8} :
    Tag.ofOctet? octet = none ↔ ∀ tag : Tag, tag.octet ≠ octet := by
  constructor
  · rintro unknown tag rfl
    rw [Tag.ofOctet?_octet] at unknown
    cases unknown
  · intro unknown
    cases known : Tag.ofOctet? octet with
    | none => rfl
    | some tag => exact absurd (Tag.octet_of_ofOctet? known) (unknown tag)

theorem decode?_eq_frame_iff :
    decode? bytes = .ok (some (frame, taken)) ↔
      frame.Fits ∧ taken = frame.encode.length ∧ frame.encode <+: bytes := by
  constructor
  · intro decoded
    obtain ⟨fits, length, rest, split⟩ := encode_of_decode? decoded
    exact ⟨fits, length, rest, split.symm⟩
  · rintro ⟨fits, rfl, rest, rfl⟩
    exact decode?_encode_append fits rest

theorem bigEndian_field {size : Bytes} (eight : size.length = 8) :
    bigEndian 8 (ofBigEndian size) = size ∧ ofBigEndian size < 0x10000000000000000 := by
  have field := bigEndian_ofBigEndian size
  have counted := ofBigEndian_lt size
  rw [eight] at field counted
  exact ⟨field, by omega⟩

theorem startsFaulty_of_decode? (decoded : decode? bytes = .error fault) :
    StartsFaulty bytes fault := by
  cases bytes with
  | nil => cases decoded
  | cons octet rest =>
    cases known : Tag.ofOctet? octet with
    | none =>
      simp only [decode?, known, Except.error.injEq] at decoded
      subst decoded
      exact .unknownTag (Tag.ofOctet?_eq_none_iff.mp known) rest
    | some tag =>
      by_cases whole : 8 ≤ rest.length
      · obtain ⟨size, body, eight, -, parts⟩ := header_parts known whole
        obtain ⟨field, counted⟩ := bigEndian_field eight
        rw [parts, decode?_parts eight] at decoded
        split_ifs at decoded with beyond short
        cases decoded
        have faulty := StartsFaulty.oversized tag beyond counted body
        rwa [field, List.cons_append, ← parts] at faulty
      · have brief : rest.length < 8 := by omega
        simp [decode?, known, brief] at decoded

theorem decode?_of_startsFaulty (faulty : StartsFaulty bytes fault) :
    decode? bytes = .error fault := by
  cases faulty with
  | unknownTag unknown rest => simp [decode?, Tag.ofOctet?_eq_none_iff.mpr unknown]
  | @oversized tag length beyond counted rest =>
    have small : length < 256 ^ 8 := by omega
    rw [List.cons_append, decode?_parts (length_bigEndian 8 length), ofBigEndian_bigEndian small,
      if_pos beyond]

theorem decode?_append (complete : decode? bytes ≠ .ok none) (rest : Bytes) :
    decode? (bytes ++ rest) = decode? bytes := by
  cases decoded : decode? bytes with
  | error fault => exact decode?_append_fault decoded rest
  | ok found =>
    cases found with
    | none => exact absurd decoded complete
    | some pair =>
      obtain ⟨fits, length, front⟩ := decode?_eq_frame_iff.mp decoded
      exact decode?_eq_frame_iff.mpr ⟨fits, length, front.trans (List.prefix_append bytes rest)⟩

theorem decode?_encode (counted : frame.body.length < 0x10000000000000000) (rest : Bytes) :
    decode? (frame.encode ++ rest) =
      if frame.Fits then .ok (some (frame, frame.encode.length))
      else .error (.oversized frame.body.length longestBody) := by
  split_ifs with fits
  · exact decode?_encode_append fits rest
  · have faulty := StartsFaulty.oversized frame.tag (Nat.lt_of_not_le fits) counted
      (frame.body ++ rest)
    rw [← List.append_assoc] at faulty
    exact decode?_of_startsFaulty faulty

/-- Decoding accepts exactly the bytes that start with the encoding of a frame within the limit, and
returns that frame and the length of its encoding; it refuses exactly those that start with a byte that is
no tag or with the header of a body beyond the limit. Bytes that follow change neither outcome, and no bytes
as long as the longest frame are incomplete. So every encoding is read back, whatever follows it, or
refused for the length of its body. -/
theorem decoding_inverts_encoding (bytes : Bytes) :
    (∀ frame taken, decode? bytes = .ok (some (frame, taken)) ↔
      frame.body.length ≤ longestBody ∧ taken = frame.encode.length ∧ frame.encode <+: bytes) ∧
    (∀ fault, decode? bytes = .error fault ↔ StartsFaulty bytes fault) ∧
    (decode? bytes ≠ .ok none → ∀ rest, decode? (bytes ++ rest) = decode? bytes) ∧
    (headerLength + longestBody ≤ bytes.length → decode? bytes ≠ .ok none) ∧
    (∀ tag body, body.length < 0x10000000000000000 →
      decode? (encode ⟨tag, body⟩ ++ bytes) =
        if body.length ≤ longestBody then .ok (some (⟨tag, body⟩, (encode ⟨tag, body⟩).length))
        else .error (.oversized body.length longestBody)) := by
  refine ⟨?_, ?_, decode?_append, ?_, ?_⟩
  · intro frame taken
    exact decode?_eq_frame_iff
  · intro fault
    exact ⟨startsFaulty_of_decode?, decode?_of_startsFaulty⟩
  · intro long incomplete
    exact absurd (Incomplete.length_lt incomplete) (Nat.not_lt_of_le long)
  · intro tag body counted
    exact decode?_encode counted bytes

end EngineClient.Frame
