import EngineClient.Proofs.Json.Records

/-!
The readers of values and of parts of records, on whatever spelling of a value: they take what the text says
up to its end, and of a text that they do not understand they take nothing.
-/

namespace EngineClient.Json

variable {α : Type} {levels : Nat} {text letters : Bytes} {json : Json}

theorem isLetters_plain {bytes letters : Bytes} (plain : ∀ octet ∈ bytes, IsPlain octet)
    (later : IsLetters letters) : IsLetters (bytes ++ letters) := by
  induction bytes with
  | nil => exact later
  | cons octet bytes ih =>
    obtain ⟨first, plain⟩ := List.forall_mem_cons.mp plain
    exact .plain first (ih plain)

theorem Spells.isLetters {text : List Char} (spelled : Spells letters text) : IsLetters letters := by
  induction spelled with
  | none => exact .none
  | plain no_quote no_backslash no_control later ih =>
    exact isLetters_plain (isPlain_encodeChar no_quote no_backslash no_control) ih
  | single known later ih => exact .single (Option.isSome_of_eq_some known) ih
  | unit known no_leading no_trailing later ih => exact .unit (Option.isSome_of_eq_some known) ih
  | pair known leading known' trailing later ih =>
    exact .unit (Option.isSome_of_eq_some known) (.unit (Option.isSome_of_eq_some known') ih)

theorem map_eq_ok {β : Type} {reading : Except Error (α × Bytes)} {make : α → β} {value : β}
    {after : Bytes} (read : reading.map (Prod.map make id) = .ok (value, after)) :
    ∃ got, reading = .ok (got, after) := by
  cases reading with
  | error fault => cases read
  | ok result =>
    obtain ⟨got, behind⟩ := result
    cases read
    exact ⟨got, rfl⟩

theorem readValue_stops (valid : IsValue text) : Stops (readValue levels) text := by
  induction valid generalizing levels with
  | null => exact (readValue_denotes .null).stops
  | true => exact (readValue_denotes .true).stops
  | false => exact (readValue_denotes .false).stops
  | number number =>
    intro rest value after ends read
    obtain ⟨octet, tail, rfl, digit⟩ := number.cons
    obtain ⟨solid, -, no_n, no_t, no_f, no_minus, -⟩ := digit_facts digit
    rw [List.cons_append, readValue_solid solid, if_neg no_n, if_neg no_t, if_neg no_f,
      if_neg no_minus, if_pos digit] at read
    obtain ⟨got, reading⟩ := map_eq_ok read
    exact readNumber_stops number ends reading
  | negative number =>
    intro rest value after ends read
    rw [List.cons_append, readValue_negative] at read
    obtain ⟨got, reading⟩ := map_eq_ok read
    exact readNumber_stops number ends reading
  | string valid =>
    intro rest value after ends read
    rw [quoted_append, readValue_quote] at read
    obtain ⟨got, reading⟩ := map_eq_ok read
    exact readString_stops valid reading
  | list lead each ih =>
    intro rest value after ends read
    rw [listText_append] at read
    cases levels with
    -- it nests too deep
    | zero => cases (readValue_solid (by decide) _).symm.trans read
    | succ levels =>
      rw [readValue_openList] at read
      obtain ⟨got, reading⟩ := map_eq_ok read
      exact readList_stops (fun one present =>
        ⟨begins_value (each one present), ih one present⟩) reading
  | object lead keyed each ih =>
    intro rest value after ends read
    rw [objectText_append] at read
    cases levels with
    | zero => cases (readValue_solid (by decide) _).symm.trans read
    | succ levels =>
      rw [readValue_openObject] at read
      obtain ⟨got, reading⟩ := map_eq_ok read
      exact readObject_stops (skips_readValue levels) keyed (fun one present => ih one present)
        reading

section

variable {item : Reader α} {value : α} {expected : String} {one : Member}

theorem readStringAs_quote (input : Bytes) :
    readStringAs expected (Octet.quote :: input) = readString input := by
  rw [readStringAs, skipBlanks_solid (by decide)]
  exact if_pos rfl

theorem readStringAs_spelled {text : String} (spelled : Spells letters text.toList) :
    Reads (readStringAs expected) (quoted letters) text := by
  intro rest _
  rw [quoted_append, readStringAs_quote, readString_spelled spelled]

theorem readStringAs_stops (valid : IsValue text) : Stops (readStringAs expected) text := by
  intro rest value after ends read
  have refused : ∀ octet tail, isBlank octet = false → octet ≠ Octet.quote →
      readStringAs expected (octet :: tail) = .error (mismatch expected octet tail) := by
    intro octet tail solid no_quote
    rw [readStringAs, skipBlanks_solid solid]
    exact if_neg no_quote
  obtain rfl | ⟨letters, rfl, between⟩ | ⟨lead, members, rfl, -⟩ | ⟨octet, tail, rfl, solid, -,
    no_quote, -⟩ := value_cases valid
  · cases (refused _ _ (by decide) (by decide)).symm.trans read
  · rw [quoted_append, readStringAs_quote] at read
    exact readString_stops between read
  · cases (refused _ _ (by decide) (by decide)).symm.trans read
  · cases (refused _ _ solid no_quote).symm.trans read

theorem skips_readOptional (item : Reader α) : Skips (readOptional item) := by
  intro gap input
  rw [readOptional, readOptional, skipBlanks_gap]

theorem readOptional_null : Reads (readOptional item) nullText none := by
  intro rest _
  rw [nullText, List.cons_append, readOptional, skipBlanks_solid (by decide)]
  rfl

theorem readOptional_shown {octet : UInt8} {tail : Bytes} (solid : isBlank octet = false)
    (no_word : octet ≠ Octet.letterN) (reads : Reads item (octet :: tail) value) :
    Reads (readOptional item) (octet :: tail) (some value) :=
  fun rest ends => readOptional_value solid no_word (reads rest ends)

theorem readOptional_stops (valid : IsValue text) (stops : Stops item text) :
    Stops (readOptional item) text := by
  have shown : ∀ octet tail, text = octet :: tail → isBlank octet = false →
      octet ≠ Octet.letterN → Stops (readOptional item) text := by
    rintro octet tail rfl solid no_word rest value after ends read
    rw [List.cons_append, readOptional, skipBlanks_solid solid] at read
    dsimp only at read
    rw [if_neg no_word] at read
    obtain ⟨⟨got, behind⟩, reading, read⟩ := bind_eq_ok read
    cases read
    exact stops rest got _ ends reading
  obtain rfl | ⟨letters, rfl, -⟩ | ⟨lead, members, rfl, -⟩ | ⟨octet, tail, rfl, solid, no_word,
    -⟩ := value_cases valid
  · exact readOptional_null.stops
  · exact shown _ _ rfl (by decide) (by decide)
  · exact shown _ _ rfl (by decide) (by decide)
  · exact shown _ _ rfl solid no_word

theorem denotes_shown (denotes : Denotes levels text json) (shown : json ≠ .null) :
    ∃ octet tail, text = octet :: tail ∧ isBlank octet = false ∧ octet ≠ Octet.letterN := by
  cases denotes with
  | null => exact absurd rfl shown
  | integer value =>
    obtain ⟨octet, tail, written, solid, -, word⟩ := render_first (.integer value : Plain levels _)
    exact ⟨octet, tail, written, solid, fun same => by cases word same⟩
  | _ => exact ⟨_, _, rfl, by decide, by decide⟩

theorem once_tail (skips : Skips item) (name : String) (slot : Option α) (one : Member)
    (rest : Bytes) :
    once name slot item (one.tail ++ rest) =
      if slot.isSome then .error (.duplicateField name)
      else (item (one.item.value ++ rest)).map (Prod.map some id) := by
  rw [once, Member.tail, List.append_assoc, List.cons_append, List.append_assoc, colon_gap]
  split
  · rfl
  · simp only [bind, Except.bind]
    rw [skips]
    cases item (one.item.value ++ rest) <;> rfl

theorem once_reads (skips : Skips item) (name : String) (reads : Reads item one.item.value value) :
    Reads (once name none item) one.tail (some value) := by
  intro rest ends
  rw [once_tail skips, reads rest ends]
  rfl

theorem once_stops (skips : Skips item) (name : String) (slot : Option α)
    (stops : Stops item one.item.value) : Stops (once name slot item) one.tail := by
  intro rest value after ends read
  rw [once_tail skips] at read
  split at read
  · cases read
  · obtain ⟨got, reading⟩ := map_eq_ok read
    exact stops rest got after ends reading

theorem once_eq_ok {name : String} {slot filled : Option α} {input after : Bytes}
    (read : once name slot item input = .ok (filled, after)) :
    slot.isSome = false ∧ filled.isSome = true := by
  rw [once] at read
  split at read
  · cases read
  next free =>
    obtain ⟨behind, -, read⟩ := bind_eq_ok read
    obtain ⟨⟨got, last⟩, -, read⟩ := bind_eq_ok read
    cases read
    exact ⟨by simpa using free, rfl⟩

theorem skimMember_reads {σ : Type} (state : σ) (valid : IsValue one.item.value) :
    Reads (skimMember state) one.tail state := by
  intro rest ends
  rw [skimMember, Member.tail, List.append_assoc, List.cons_append, List.append_assoc, colon_gap]
  simp only [bind, Except.bind, skim_value valid one.item.before ends]
  rfl

end

end EngineClient.Json
