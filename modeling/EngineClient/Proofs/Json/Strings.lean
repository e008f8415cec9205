import EngineClient.Json.Scalar
import EngineClient.Proofs.Text.Numeral
import EngineClient.Proofs.Text.Utf8

/-!
Between quotes a text is spelled with escapes or without. It is read from all its spellings, and what is
written for it is one of them.
-/

namespace EngineClient.Json

variable {letters : Bytes}

@[simp] theorem prepend_nil (reading : Except Error (Bytes × Bytes)) :
    prepend [] reading = reading := by
  cases reading <;> rfl

theorem prepend_prepend (first second : Bytes) (reading : Except Error (Bytes × Bytes)) :
    prepend first (prepend second reading) = prepend (first ++ second) reading := by
  cases reading with
  | error fault => rfl
  | ok read => simp [prepend, Except.map]

theorem prepend_ok (bytes body rest : Bytes) :
    prepend bytes (.ok (body, rest)) = .ok (bytes ++ body, rest) := rfl

def IsPlain (octet : UInt8) : Prop :=
  octet ≠ Octet.quote ∧ octet ≠ Octet.backslash ∧ ¬ octet < 0x20

theorem readBody_plain {octet : UInt8} (plain : IsPlain octet) (rest : Bytes) :
    readBody (octet :: rest) = prepend [octet] (readBody rest) := by
  obtain ⟨no_quote, no_backslash, no_control⟩ := plain
  rw [readBody.eq_def]
  simp only [no_quote, no_backslash, no_control, if_false]

theorem readBody_plains {bytes : Bytes} (plain : ∀ octet ∈ bytes, IsPlain octet) (rest : Bytes) :
    readBody (bytes ++ rest) = prepend bytes (readBody rest) := by
  induction bytes with
  | nil => simp
  | cons octet bytes ih =>
    have later := ih fun other present => plain other (List.mem_cons_of_mem octet present)
    rw [List.cons_append, readBody_plain (plain octet List.mem_cons_self), later, prepend_prepend]
    rfl

theorem isPlain_of_high {octet : UInt8} (high : 0x80 ≤ octet.toNat) : IsPlain octet := by
  refine ⟨?_, ?_, ?_⟩
  · rintro rfl
    exact absurd high (by decide)
  · rintro rfl
    exact absurd high (by decide)
  · intro control
    have small : octet.toNat < 0x20 := UInt8.lt_iff_toNat_lt.mp control
    omega

theorem isPlain_encodeChar {c : Char} (no_quote : c ≠ '"') (no_backslash : c ≠ '\\')
    (no_control : ¬ c.toNat < 0x20) : ∀ octet ∈ Utf8.encodeChar c, IsPlain octet := by
  by_cases ascii : c.toNat < 0x80
  · intro octet present
    rw [Utf8.encodeChar_ascii ascii] at present
    rw [List.mem_singleton.mp present]
    have code : (UInt8.ofNat c.toNat).toNat = c.toNat := Utf8.toNat_ofNat (by omega)
    refine ⟨?_, ?_, ?_⟩
    · intro same
      rw [same] at code
      exact no_quote (Char.toNat_inj.mp code.symm)
    · intro same
      rw [same] at code
      exact no_backslash (Char.toNat_inj.mp code.symm)
    · intro control
      have small := UInt8.lt_iff_toNat_lt.mp control
      rw [code] at small
      exact no_control small
  · intro octet present
    exact isPlain_of_high (Utf8.high_encodeChar (by omega) octet present)

/-- The letters between two quotes spell this text. -/
inductive Spells : Bytes → List Char → Prop
  | none : Spells [] []
  | plain {c : Char} {letters : Bytes} {text : List Char} (no_quote : c ≠ '"')
      (no_backslash : c ≠ '\\') (no_control : ¬ c.toNat < 0x20) (later : Spells letters text) :
      Spells (Utf8.encodeChar c ++ letters) (c :: text)
  | single {letter plain : UInt8} {letters : Bytes} {text : List Char}
      (known : escaped? letter = some plain) (later : Spells letters text) :
      Spells (Octet.backslash :: letter :: letters) (Char.ofNat plain.toNat :: text)
  | unit {a b c d : UInt8} {code : Nat} {letters : Bytes} {text : List Char}
      (known : hexUnit? a b c d = some code) (no_leading : isLeading code = false)
      (no_trailing : isTrailing code = false) (later : Spells letters text) :
      Spells (Octet.backslash :: Octet.letterU :: a :: b :: c :: d :: letters)
        (Char.ofNat code :: text)
  | pair {a b c d e f g h : UInt8} {first second : Nat} {letters : Bytes} {text : List Char}
      (known : hexUnit? a b c d = some first) (leading : isLeading first = true)
      (known' : hexUnit? e f g h = some second) (trailing : isTrailing second = true)
      (later : Spells letters text) :
      Spells (Octet.backslash :: Octet.letterU :: a :: b :: c :: d ::
        Octet.backslash :: Octet.letterU :: e :: f :: g :: h :: letters)
        (paired first second :: text)

theorem escaped_facts {letter plain : UInt8} (known : escaped? letter = some plain) :
    letter ≠ Octet.letterU ∧ Utf8.encodeChar (Char.ofNat plain.toNat) = [plain] := by
  rw [escaped?.eq_def] at known
  split at known <;> cases known <;> exact ⟨by decide, rfl⟩

theorem readBody_letter {letter plain : UInt8} (single : letter ≠ Octet.letterU)
    (stands : escaped? letter = some plain) (rest : Bytes) :
    readBody (Octet.backslash :: letter :: rest) = prepend [plain] (readBody rest) := by
  have no_quote : Octet.backslash ≠ Octet.quote := by decide
  rw [readBody.eq_def]
  simp only [no_quote, single, stands, if_true, if_false]

theorem readBody_unit {a b c d : UInt8} {code : Nat} (known : hexUnit? a b c d = some code)
    (no_leading : isLeading code = false) (no_trailing : isTrailing code = false) (rest : Bytes) :
    readBody (Octet.backslash :: Octet.letterU :: a :: b :: c :: d :: rest) =
      prepend (Utf8.encodeChar (Char.ofNat code)) (readBody rest) := by
  have no_quote : Octet.backslash ≠ Octet.quote := by decide
  rw [readBody.eq_def]
  simp [no_quote, known, no_leading, no_trailing]

theorem readBody_pair {a b c d e f g h : UInt8} {first second : Nat}
    (known : hexUnit? a b c d = some first) (leading : isLeading first = true)
    (known' : hexUnit? e f g h = some second) (trailing : isTrailing second = true)
    (rest : Bytes) :
    readBody (Octet.backslash :: Octet.letterU :: a :: b :: c :: d ::
      Octet.backslash :: Octet.letterU :: e :: f :: g :: h :: rest) =
      prepend (Utf8.encodeChar (paired first second)) (readBody rest) := by
  have no_quote : Octet.backslash ≠ Octet.quote := by decide
  have no_trailing : isTrailing first = false := by
    simp only [isLeading, isTrailing, Bool.and_eq_true, decide_eq_true_eq, Bool.and_eq_false_iff,
      decide_eq_false_iff_not] at leading ⊢
    omega
  rw [readBody.eq_def]
  simp [no_quote, known, known', leading, trailing, no_trailing]

theorem readBody_spelled {text : List Char} (spelled : Spells letters text) (rest : Bytes) :
    readBody (letters ++ Octet.quote :: rest) = .ok (Utf8.encode text, rest) := by
  induction spelled with
  | none =>
    rw [List.nil_append, readBody.eq_def]
    rfl
  | plain no_quote no_backslash no_control later ih =>
    rw [List.append_assoc, readBody_plains (isPlain_encodeChar no_quote no_backslash no_control),
      ih, prepend_ok, Utf8.encode_cons]
  | single known later ih =>
    obtain ⟨not_unit, same⟩ := escaped_facts known
    rw [List.cons_append, List.cons_append, readBody_letter not_unit known, ih, prepend_ok,
      Utf8.encode_cons, same]
  | unit known no_leading no_trailing later ih =>
    simp only [List.cons_append]
    rw [readBody_unit known no_leading no_trailing, ih, prepend_ok, Utf8.encode_cons]
  | pair known leading known' trailing later ih =>
    simp only [List.cons_append]
    rw [readBody_pair known leading known' trailing, ih, prepend_ok, Utf8.encode_cons]

theorem readString_spelled {text : String} (spelled : Spells letters text.toList) (rest : Bytes) :
    readString (letters ++ Octet.quote :: rest) = .ok (text, rest) := by
  simp only [readString, readBody_spelled spelled, Utf8.string_encode, bind, Except.bind]

theorem Spells.unique {first second : String} (spelled : Spells letters first.toList)
    (again : Spells letters second.toList) : first = second := by
  have read := readString_spelled spelled []
  rw [readString_spelled again] at read
  cases read
  rfl

theorem spells_plain {text : List Char}
    (each : ∀ c ∈ text, c ≠ '"' ∧ c ≠ '\\' ∧ ¬ c.toNat < 0x20) : Spells (Utf8.encode text) text := by
  induction text with
  | nil => exact .none
  | cons c text ih =>
    obtain ⟨⟨no_quote, no_backslash, no_control⟩, each⟩ := List.forall_mem_cons.mp each
    rw [Utf8.encode_cons]
    exact .plain no_quote no_backslash no_control (ih each)

def digitOctet (digit : Nat) : UInt8 := UInt8.ofNat (Numeral.digitChar digit).toNat

theorem encode_control {code : Nat} (control : code < 0x20) :
    Utf8.encode ['\\', 'u', '0', '0', Numeral.digitChar (code / 16),
      Numeral.digitChar (code % 16)] =
      [Octet.backslash, Octet.letterU, 0x30, 0x30, digitOctet (code / 16),
        digitOctet (code % 16)] ∧
    hexUnit? 0x30 0x30 (digitOctet (code / 16)) (digitOctet (code % 16)) = some code ∧
    isLeading code = false ∧ isTrailing code = false := by
  have checked : ∀ code < 0x20,
      Utf8.encode ['\\', 'u', '0', '0', Numeral.digitChar (code / 16),
        Numeral.digitChar (code % 16)] =
        [Octet.backslash, Octet.letterU, 0x30, 0x30, digitOctet (code / 16),
          digitOctet (code % 16)] ∧
      hexUnit? 0x30 0x30 (digitOctet (code / 16)) (digitOctet (code % 16)) = some code ∧
      isLeading code = false ∧ isTrailing code = false := by decide
  exact checked code control

theorem spells_escape (c : Char) {text : List Char} (later : Spells letters text) :
    Spells (Utf8.encode (escape c) ++ letters) (c :: text) := by
  have single {letter plain : UInt8} (known : escaped? letter = some plain)
      (same : c = Char.ofNat plain.toNat) :
      Spells ([Octet.backslash, letter] ++ letters) (c :: text) := same ▸ .single known later
  unfold escape
  split_ifs with quote backslash feed return_ tab back form control
  · exact @single Octet.quote _ rfl quote
  · exact @single Octet.backslash _ rfl backslash
  · exact @single 0x6E _ rfl feed
  · exact @single 0x72 _ rfl return_
  · exact @single 0x74 _ rfl tab
  · exact @single 0x62 _ rfl (Char.toNat_inj.mp back)
  · exact @single 0x66 _ rfl (Char.toNat_inj.mp form)
  · obtain ⟨written, known, no_leading, no_trailing⟩ := encode_control control
    have spelled := Spells.unit known no_leading no_trailing later
    rw [Char.ofNat_toNat] at spelled
    rw [written]
    exact spelled
  · rw [Utf8.encode_cons, Utf8.encode_nil, List.append_nil]
    exact .plain quote backslash control later

theorem spells_escaped (text : List Char) : Spells (Utf8.encode (text.flatMap escape)) text := by
  induction text with
  | nil => exact .none
  | cons c text ih =>
    rw [List.flatMap_cons, Utf8.encode_append]
    exact spells_escape c ih

theorem readString_text (text : String) (rest : Bytes) :
    readString (Utf8.encode (text.toList.flatMap escape) ++ Octet.quote :: rest) =
      .ok (text, rest) :=
  readString_spelled (spells_escaped text.toList) rest

theorem encode_renderString (text : String) :
    Utf8.encode (renderString text) =
      Octet.quote :: (Utf8.encode (text.toList.flatMap escape) ++ [Octet.quote]) := by
  rw [renderString, List.cons_append, Utf8.encode_cons, Utf8.encode_append]
  rfl

end EngineClient.Json
