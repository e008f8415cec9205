import EngineClient.Frame.Basic
import Mathlib.Tactic.Ring

/-!
Frames and their bytes: the length field is a positional numeral, and decoding accepts exactly what
encoding produces.
-/

namespace EngineClient.Frame

theorem bigEndian_succ (count value : Nat) : bigEndian (count + 1) value =
    UInt8.ofNat (value / 256 ^ count) :: bigEndian count value := rfl

theorem length_bigEndian (count value : Nat) : (bigEndian count value).length = count := by
  induction count with
  | zero => rfl
  | succ count ih => simp [bigEndian, ih]

theorem foldl_total (bytes : Bytes) (start : Nat) :
    bytes.foldl (fun total octet => total * 256 + octet.toNat) start =
      start * 256 ^ bytes.length + ofBigEndian bytes := by
  induction bytes generalizing start with
  | nil => simp [ofBigEndian]
  | cons octet bytes ih =>
    have tail := ih (0 * 256 + octet.toNat)
    simp only [ofBigEndian, List.foldl_cons, List.length_cons] at ih tail ⊢
    rw [ih, tail]
    ring

theorem ofBigEndian_cons (octet : UInt8) (bytes : Bytes) :
    ofBigEndian (octet :: bytes) = octet.toNat * 256 ^ bytes.length + ofBigEndian bytes := by
  have start := foldl_total bytes (0 * 256 + octet.toNat)
  simpa [ofBigEndian] using start

theorem ofBigEndian_lt (bytes : Bytes) : ofBigEndian bytes < 256 ^ bytes.length := by
  induction bytes with
  | nil => simp [ofBigEndian]
  | cons octet bytes ih =>
    have digit := octet.toNat_lt
    rw [ofBigEndian_cons, List.length_cons, pow_succ]
    calc
      octet.toNat * 256 ^ bytes.length + ofBigEndian bytes
          < octet.toNat * 256 ^ bytes.length + 256 ^ bytes.length := by omega
      _ = (octet.toNat + 1) * 256 ^ bytes.length := by ring
      _ ≤ 256 * 256 ^ bytes.length := Nat.mul_le_mul_right _ (by omega)
      _ = 256 ^ bytes.length * 256 := by ring

theorem ofBigEndian_bigEndian_mod (count value : Nat) :
    ofBigEndian (bigEndian count value) = value % 256 ^ count := by
  induction count with
  | zero => simp [bigEndian, ofBigEndian, Nat.mod_one]
  | succ count ih =>
    have split := Nat.mod_mul (a := 256 ^ count) (b := 256) (x := value)
    rw [bigEndian_succ, ofBigEndian_cons, length_bigEndian, ih, pow_succ, split, UInt8.toNat_ofNat']
    ring

theorem ofBigEndian_bigEndian {count value : Nat} (small : value < 256 ^ count) :
    ofBigEndian (bigEndian count value) = value := by
  rw [ofBigEndian_bigEndian_mod, Nat.mod_eq_of_lt small]

theorem bigEndian_add_mul (count value times : Nat) :
    bigEndian count (value + times * 256 ^ count) = bigEndian count value := by
  induction count generalizing times with
  | zero => rfl
  | succ count ih =>
    have shifted : value + times * 256 ^ (count + 1) = value + times * 256 * 256 ^ count := by ring
    have positive : 0 < 256 ^ count := Nat.pow_pos (by decide)
    rw [bigEndian_succ, bigEndian_succ, shifted, ih, Nat.add_mul_div_right _ _ positive]
    congr 1
    apply UInt8.toNat_inj.mp
    simp [UInt8.toNat_ofNat']

theorem bigEndian_ofBigEndian (bytes : Bytes) :
    bigEndian bytes.length (ofBigEndian bytes) = bytes := by
  induction bytes with
  | nil => rfl
  | cons octet bytes ih =>
    have small := ofBigEndian_lt bytes
    have positive : 0 < 256 ^ bytes.length := Nat.pow_pos (by decide)
    have first : (octet.toNat * 256 ^ bytes.length + ofBigEndian bytes) / 256 ^ bytes.length =
        octet.toNat := by
      rw [Nat.add_comm, Nat.add_mul_div_right _ _ positive, Nat.div_eq_of_lt small, Nat.zero_add]
    rw [List.length_cons, bigEndian_succ, ofBigEndian_cons, first, UInt8.ofNat_toNat]
    rw [Nat.add_comm, bigEndian_add_mul, ih]

@[simp] theorem Tag.ofOctet?_octet (tag : Tag) : Tag.ofOctet? tag.octet = some tag := by
  cases tag <;> rfl

theorem Tag.octet_of_ofOctet? {octet : UInt8} {tag : Tag} (known : Tag.ofOctet? octet = some tag) :
    tag.octet = octet := by
  unfold Tag.ofOctet? at known
  split_ifs at known with first second third <;> cases known <;> simp_all [Tag.octet]

def Fits (frame : Frame) : Prop := frame.body.length ≤ longestBody

instance (frame : Frame) : Decidable frame.Fits := Nat.decLe _ _

theorem length_encode (frame : Frame) :
    frame.encode.length = headerLength + frame.body.length := by
  simp [encode, length_bigEndian, headerLength]
  omega

theorem longestBody_lt : longestBody < 256 ^ 8 := by decide

theorem decode?_parts {tag : Tag} {size body : Bytes} (eight : size.length = 8) :
    decode? (tag.octet :: (size ++ body)) =
      if longestBody < ofBigEndian size then
        .error (.oversized (ofBigEndian size) longestBody)
      else if body.length < ofBigEndian size then .ok none
      else .ok (some (⟨tag, body.take (ofBigEndian size)⟩, headerLength + ofBigEndian size)) := by
  have taken : (size ++ body).take 8 = size := by rw [← eight, List.take_left]
  have dropped : (size ++ body).drop 8 = body := by rw [← eight, List.drop_left]
  simp [decode?, taken, dropped, eight]

theorem decode?_encode_append {frame : Frame} (fits : frame.Fits) (rest : Bytes) :
    decode? (frame.encode ++ rest) = .ok (some (frame, frame.encode.length)) := by
  have limit : frame.body.length ≤ longestBody := fits
  have small : frame.body.length < 256 ^ 8 := Nat.lt_of_le_of_lt limit longestBody_lt
  have parts : frame.encode ++ rest =
      frame.tag.octet :: (bigEndian 8 frame.body.length ++ (frame.body ++ rest)) := by
    simp [encode]
  rw [parts, decode?_parts (length_bigEndian 8 _), ofBigEndian_bigEndian small,
    length_encode]
  simp [Nat.not_lt_of_le limit]

theorem header_parts {octet : UInt8} {tag : Tag} {rest : Bytes}
    (known : Tag.ofOctet? octet = some tag) (whole : 8 ≤ rest.length) :
    ∃ size body, size.length = 8 ∧ rest = size ++ body ∧
      octet :: rest = tag.octet :: (size ++ body) := by
  refine ⟨rest.take 8, rest.drop 8, ?_, (List.take_append_drop 8 rest).symm, ?_⟩
  · simpa using whole
  · rw [List.take_append_drop, Tag.octet_of_ofOctet? known]

theorem encode_of_decode? {bytes : Bytes} {frame : Frame} {taken : Nat}
    (decoded : decode? bytes = .ok (some (frame, taken))) :
    frame.Fits ∧ taken = frame.encode.length ∧ ∃ rest, bytes = frame.encode ++ rest := by
  cases bytes with
  | nil => simp [decode?] at decoded
  | cons octet rest =>
    cases known : Tag.ofOctet? octet with
    | none => simp [decode?, known] at decoded
    | some tag =>
      by_cases whole : 8 ≤ rest.length
      · obtain ⟨size, body, eight, -, parts⟩ := header_parts known whole
        rw [parts, decode?_parts eight] at decoded
        by_cases beyond : longestBody < ofBigEndian size
        · simp [beyond] at decoded
        by_cases short : body.length < ofBigEndian size
        · simp [beyond, short] at decoded
        rw [if_neg beyond, if_neg short] at decoded
        cases decoded
        have length : (body.take (ofBigEndian size)).length = ofBigEndian size := by
          simpa using Nat.le_of_not_lt short
        refine ⟨?_, ?_, body.drop (ofBigEndian size), ?_⟩
        · simpa [Fits, length] using Nat.le_of_not_lt beyond
        · rw [length_encode, length]
        · have field : bigEndian 8 (ofBigEndian size) = size := by
            rw [← eight, bigEndian_ofBigEndian]
          rw [parts, encode, length, field]
          simp
      · have short : ¬ rest.length ≥ 8 := whole
        have brief : rest.length < 8 := by omega
        simp [decode?, known, brief] at decoded

theorem decode?_append_fault {bytes : Bytes} {fault : Error}
    (decoded : decode? bytes = .error fault) (rest : Bytes) :
    decode? (bytes ++ rest) = .error fault := by
  cases bytes with
  | nil => simp [decode?] at decoded
  | cons octet tail =>
    cases known : Tag.ofOctet? octet with
    | none =>
      simp only [decode?, known, Except.error.injEq] at decoded
      simp [decode?, known, decoded]
    | some tag =>
      by_cases whole : 8 ≤ tail.length
      · obtain ⟨size, body, eight, -, parts⟩ := header_parts known whole
        rw [parts, decode?_parts eight] at decoded
        split_ifs at decoded with beyond short
        have longer : octet :: tail ++ rest = tag.octet :: (size ++ (body ++ rest)) := by
          simp [parts]
        rw [longer, decode?_parts eight, if_pos beyond, ← decoded]
      · have brief : tail.length < 8 := by omega
        simp [decode?, known, brief] at decoded

end EngineClient.Frame
