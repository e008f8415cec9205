import EngineClient.Json.Printer
import EngineClient.Proofs.Json.Containers

/-!
Values are read from all texts that say them, and so they read back as they are written. Floating point
numbers are left out, and a text nests no deeper than the reader follows it.
-/

namespace EngineClient.Json

/-- No floating point number, no key twice in one object, and containers that nest at most `levels`
deep. -/
inductive Plain : (levels : Nat) → Json → Prop
  | null {levels : Nat} : Plain levels .null
  | bool {levels : Nat} (value : Bool) : Plain levels (.bool value)
  | integer {levels : Nat} (value : Integer) : Plain levels (.number (.integer value))
  | string {levels : Nat} (text : String) : Plain levels (.string text)
  | list {levels : Nat} {items : List Json} (each : ∀ item ∈ items, Plain levels item) :
      Plain (levels + 1) (.list items)
  | object {levels : Nat} {members : Members} (each : ∀ member ∈ members, Plain levels member.2)
      (distinct : (members.map Prod.fst).Nodup) : Plain (levels + 1) (.object members)

variable {levels : Nat} {json : Json} {text : Bytes}

theorem digitOctet_lead {digit : Nat} (small : digit < 10) :
    isBlank (digitOctet digit) = false ∧ digitOctet digit ≠ Octet.closeList ∧
      digitOctet digit ≠ Octet.letterN ∧ digitOctet digit ≠ Octet.letterT ∧
      digitOctet digit ≠ Octet.letterF ∧ digitOctet digit ≠ Octet.minus := by
  have checked : ∀ digit < 10, isBlank (digitOctet digit) = false ∧
      digitOctet digit ≠ Octet.closeList ∧ digitOctet digit ≠ Octet.letterN ∧
      digitOctet digit ≠ Octet.letterT ∧ digitOctet digit ≠ Octet.letterF ∧
      digitOctet digit ≠ Octet.minus := by decide
  exact checked digit small

theorem encode_minus (text : List Char) :
    Utf8.encode ('-' :: text) = Octet.minus :: Utf8.encode text := rfl

theorem render_first (plain : Plain levels json) : ∃ octet tail,
    Utf8.encode json.render = octet :: tail ∧ isBlank octet = false ∧
      octet ≠ Octet.closeList ∧ (octet = Octet.letterN → json = .null) := by
  cases plain with
  | null => exact ⟨Octet.letterN, _, rfl, by decide, by decide, fun _ => rfl⟩
  | bool value =>
    cases value with
    | false => exact ⟨Octet.letterF, _, rfl, by decide, by decide, fun word => by cases word⟩
    | true => exact ⟨Octet.letterT, _, rfl, by decide, by decide, fun word => by cases word⟩
  | integer integer =>
    rw [render, Number.render, Numeral.decimalInt]
    split_ifs with negative
    · exact ⟨Octet.minus, _, encode_minus _, by decide, by decide, fun word => by cases word⟩
    · obtain ⟨first, others, written, small, -, -⟩ := encode_decimal integer.value.natAbs
      obtain ⟨solid, no_close, no_word, -⟩ := digitOctet_lead (small first List.mem_cons_self)
      exact ⟨digitOctet first, _, written, solid, no_close, fun word => absurd word no_word⟩
  | string text =>
    exact ⟨Octet.quote, _, encode_renderString text, by decide, by decide, fun word => by cases word⟩
  | list each =>
    exact ⟨Octet.openList, _, rfl, by decide, by decide, fun word => by cases word⟩
  | object each distinct =>
    exact ⟨Octet.openObject, _, rfl, by decide, by decide, fun word => by cases word⟩

theorem begins_render (plain : Plain levels json) : Begins (Utf8.encode json.render) := by
  obtain ⟨octet, tail, text, solid, open_, -⟩ := render_first plain
  exact ⟨octet, tail, text, solid, open_⟩

theorem bind_made {α β : Type} (read : Except Error (α × Bytes)) (make : α → β) :
    (do let (value, rest) ← read; return (make value, rest)) = read.map (Prod.map make id) := by
  cases read <;> rfl

theorem bind_kept {α : Type} (read : Except Error Bytes) (value : α) :
    (do return (value, ← read)) = read.map (value, ·) := by
  cases read <;> rfl

theorem readValue_solid {octet : UInt8} (solid : isBlank octet = false) (input : Bytes) :
    readValue levels (octet :: input) =
      if octet = Octet.letterN then (readLetters afterN input).map (.null, ·)
      else if octet = Octet.letterT then (readLetters afterT input).map (.bool true, ·)
      else if octet = Octet.letterF then (readLetters afterF input).map (.bool false, ·)
      else if octet = Octet.minus then (readNumber false input).map (Prod.map .number id)
      else if Octet.isDigit octet then
        (readNumber true (octet :: input)).map (Prod.map .number id)
      else if octet = Octet.quote then (readString input).map (Prod.map .string id)
      else if octet = Octet.openList then
        match levels with
        | 0 => .error .tooDeep
        | levels + 1 => (readList (readValue levels) input).map (Prod.map .list id)
      else if octet = Octet.openObject then
        match levels with
        | 0 => .error .tooDeep
        | levels + 1 => (readObject (readValue levels) input).map (Prod.map .object id)
      else .error .expectedValue := by
  rw [readValue, skipBlanks_solid solid]
  dsimp only
  cases levels with
  | zero => simp only [bind_made, bind_kept]
  | succ levels => simp only [bind_made, bind_kept]

theorem readValue_negative (input : Bytes) : readValue levels (Octet.minus :: input) =
    (readNumber false input).map (Prod.map .number id) := by
  rw [readValue_solid (by decide), if_neg (by decide), if_neg (by decide), if_neg (by decide),
    if_pos rfl]

theorem readValue_digit {digit : Nat} (small : digit < 10) (input : Bytes) :
    readValue levels (digitOctet digit :: input) =
      (readNumber true (digitOctet digit :: input)).map (Prod.map .number id) := by
  obtain ⟨is_digit, -⟩ := digitOctet_facts small
  obtain ⟨solid, -, no_n, no_t, no_f, no_minus⟩ := digitOctet_lead small
  rw [readValue_solid solid, if_neg no_n, if_neg no_t, if_neg no_f, if_neg no_minus,
    if_pos is_digit]

theorem readValue_quote (input : Bytes) : readValue levels (Octet.quote :: input) =
    (readString input).map (Prod.map .string id) := by
  rw [readValue_solid (by decide), if_neg (by decide), if_neg (by decide), if_neg (by decide),
    if_neg (by decide), if_neg (by decide), if_pos rfl]

theorem readValue_openList (input : Bytes) : readValue (levels + 1) (Octet.openList :: input) =
    (readList (readValue levels) input).map (Prod.map .list id) := by
  rw [readValue_solid (by decide), if_neg (by decide), if_neg (by decide), if_neg (by decide),
    if_neg (by decide), if_neg (by decide), if_neg (by decide), if_pos rfl]

theorem readValue_openObject (input : Bytes) :
    readValue (levels + 1) (Octet.openObject :: input) =
      (readObject (readValue levels) input).map (Prod.map .object id) := by
  rw [readValue_solid (by decide), if_neg (by decide), if_neg (by decide), if_neg (by decide),
    if_neg (by decide), if_neg (by decide), if_neg (by decide), if_neg (by decide), if_pos rfl]

theorem readValue_integer (integer : Integer) :
    ReadsBack (readValue levels) (.number (.integer integer)) := by
  intro rest ends
  have within := integer.within
  rw [render, Number.render, Numeral.decimalInt]
  split_ifs with negative
  · have bound : integer.value.natAbs < 0x10000000000000000 := by omega
    have read : readNumber false _ = _ := readNumber_decimal ends bound
    have same : whole false integer.value.natAbs = .integer integer :=
      whole_negative (by omega) (by omega) integer (by omega)
    rw [encode_minus, List.cons_append, readValue_negative, read, same]
    rfl
  · have bound : integer.value.natAbs < 0x10000000000000000 := by omega
    have read : readNumber true _ = _ := readNumber_decimal ends bound
    have same : whole true integer.value.natAbs = .integer integer :=
      whole_positive bound integer (by omega)
    obtain ⟨first, others, written, small, -, -⟩ := encode_decimal integer.value.natAbs
    rw [written, List.map_cons, List.cons_append] at read ⊢
    rw [readValue_digit (small first List.mem_cons_self), read, same]
    rfl

theorem encode_list (items : List Json) (rest : Bytes) :
    Utf8.encode (render (.list items)) ++ rest = Octet.openList ::
      (Utf8.encode (separated [','] (renderItems items)) ++ Octet.closeList :: rest) := by
  have opened : Utf8.encodeChar '[' = [Octet.openList] := rfl
  have closed : Utf8.encode [']'] = [Octet.closeList] := rfl
  rw [render, Utf8.encode_append, Utf8.encode_cons, opened, closed]
  simp

theorem encode_object (members : Members) (rest : Bytes) :
    Utf8.encode (render (.object members)) ++ rest = Octet.openObject ::
      (Utf8.encode (separated [','] (renderMembers members)) ++ Octet.closeObject :: rest) := by
  have opened : Utf8.encodeChar '\x7b' = [Octet.openObject] := rfl
  have closed : Utf8.encode ['\x7d'] = [Octet.closeObject] := rfl
  rw [render, Utf8.encode_append, Utf8.encode_cons, opened, closed]
  simp

/-- What a text says, for containers that nest at most `levels` deep and without floating point numbers. An
integer has one spelling. -/
inductive Denotes : (levels : Nat) → Bytes → Json → Prop
  | null {levels : Nat} : Denotes levels nullText .null
  | true {levels : Nat} : Denotes levels trueText (.bool Bool.true)
  | false {levels : Nat} : Denotes levels falseText (.bool Bool.false)
  | integer {levels : Nat} (value : Integer) :
      Denotes levels (Utf8.encode (render (.number (.integer value)))) (.number (.integer value))
  | string {levels : Nat} {letters : Bytes} {text : String}
      (spelled : Spells letters text.toList) : Denotes levels (quoted letters) (.string text)
  | list {levels : Nat} (lead : Gap) {told : List (Item × Json)}
      (each : ∀ one ∈ told, Denotes levels one.1.value one.2) :
      Denotes (levels + 1) (listText lead (told.map Prod.fst)) (.list (told.map Prod.snd))
  | object {levels : Nat} (lead : Gap) {told : List Told}
      (keyed : ∀ one ∈ told, Spells one.1.letters one.2.1.toList)
      (each : ∀ one ∈ told, Denotes levels one.1.item.value one.2.2) :
      Denotes (levels + 1) (objectText lead (told.map Prod.fst)) (.object (membersOf told []))

theorem begins_denotes (denotes : Denotes levels text json) : Begins text := by
  cases denotes with
  | integer value => exact begins_render (.integer value : Plain levels _)
  | _ => exact ⟨_, _, rfl, by decide, by decide⟩

theorem skips_readValue (levels : Nat) : Skips (readValue levels) := by
  intro gap input
  cases levels <;> rw [readValue, readValue, skipBlanks_gap]

/-- What a text says is what is read from it. -/
theorem readValue_denotes (denotes : Denotes levels text json) :
    Reads (readValue levels) text json := by
  induction denotes with
  | null => exact fun rest _ => (readValue_solid (by decide) _).trans rfl
  | true => exact fun rest _ => (readValue_solid (by decide) _).trans rfl
  | false => exact fun rest _ => (readValue_solid (by decide) _).trans rfl
  | integer value => exact readValue_integer value
  | string spelled =>
    intro rest _
    rw [quoted_append, readValue_quote, readString_spelled spelled]
    rfl
  | @list levels lead told each ih =>
    intro rest _
    have read := readList_reads (fun one present =>
      ⟨begins_denotes (each one present), ih one present⟩) lead rest
    rw [listText_append, readValue_openList, List.map_map]
    exact congrArg (Except.map (Prod.map Json.list id)) read
  | @object levels lead told keyed each ih =>
    intro rest _
    have read := readObject_reads (skips_readValue levels) (fun one present =>
      ⟨readString_spelled (keyed one present), ih one present⟩) lead rest
    rw [objectText_append, readValue_openObject, read]
    rfl

theorem listText_written (items : List Json) :
    Utf8.encode (render (.list items)) = listText Gap.none (items.map Item.written) := by
  have text := encode_list items []
  rw [List.append_nil] at text
  rw [text, listText, joined_renderItems, List.map_map]
  rfl

theorem objectText_written (members : Members) :
    Utf8.encode (render (.object members)) = objectText Gap.none (members.map Member.written) := by
  have text := encode_object members []
  rw [List.append_nil] at text
  rw [text, objectText, joined_renderMembers]
  rfl

theorem denotes_render (plain : Plain levels json) :
    Denotes levels (Utf8.encode json.render) json := by
  induction plain with
  | null => exact .null
  | bool value =>
    cases value with
    | false => exact .false
    | true => exact .true
  | integer value => exact .integer value
  | string text =>
    rw [render, encode_renderString]
    exact .string (spells_escaped text.toList)
  | @list levels items plain each =>
    have told : ∀ one ∈ items.map fun item => (Item.written item, item),
        Denotes levels one.1.value one.2 := List.forall_mem_map.mpr each
    have same : items.map (Prod.snd ∘ fun item => (Item.written item, item)) = items :=
      List.map_id items
    have said := Denotes.list Gap.none told
    rw [List.map_map, List.map_map, same] at said
    rw [listText_written]
    exact said
  | @object levels members plain distinct each =>
    have keyed : ∀ one ∈ toldOf members, Spells one.1.letters one.2.1.toList :=
      List.forall_mem_map.mpr fun member _ => spells_escaped member.1.toList
    have told : ∀ one ∈ toldOf members, Denotes levels one.1.item.value one.2.2 :=
      List.forall_mem_map.mpr each
    have said := Denotes.object Gap.none keyed told
    rw [@membersOf_toldOf [] members distinct, map_fst_toldOf] at said
    rw [objectText_written]
    exact said

theorem readValue_render (plain : Plain levels json) : ReadsBack (readValue levels) json :=
  readValue_denotes (denotes_render plain)

end EngineClient.Json
