import EngineClient.Proofs.Json.RoundTrip

/-!
What the readers of records make of text that was written for them: strings, optional values, members
given once, and whole records.
-/

namespace EngineClient.Json

variable {α σ : Type}

theorem readStringAs_text (expected text : String) (rest : Bytes) :
    readStringAs expected (Utf8.encode (render (.string text)) ++ rest) = .ok (text, rest) := by
  rw [render, encode_renderString, List.cons_append, List.append_assoc, readStringAs,
    skipBlanks_solid (by decide)]
  dsimp only
  rw [if_pos rfl, List.singleton_append, readString_text]

theorem readOptional_value {item : Reader α} {input rest : Bytes} {value : α} {octet : UInt8}
    (solid : isBlank octet = false) (no_word : octet ≠ Octet.letterN)
    (read : item (octet :: input) = .ok (value, rest)) :
    readOptional item (octet :: input) = .ok (some value, rest) := by
  rw [readOptional, skipBlanks_solid solid]
  dsimp only
  rw [if_neg no_word, read]
  rfl

theorem readOptionalString_text (text : String) (rest : Bytes) :
    readOptionalString (Utf8.encode (render (.string text)) ++ rest) = .ok (some text, rest) := by
  have read := readStringAs_text "a string" text rest
  rw [render, encode_renderString, List.cons_append] at read ⊢
  exact readOptional_value (by decide) (by decide) read

def present? : Json → Option Json
  | .null => none
  | json => some json

theorem present?_eq_some {json : Json} (shown : json ≠ .null) : present? json = some json := by
  cases json with
  | null => exact absurd rfl shown
  | _ => rfl

theorem once_colon {item : Reader α} {text rest : Bytes} {value : α} (name : String)
    (read : item (text ++ rest) = .ok (value, rest)) :
    once name none item (Octet.colon :: text ++ rest) = .ok (some value, rest) := by
  rw [once, Option.isSome_none, if_neg Bool.false_ne_true, List.cons_append, colon_colon]
  simp only [bind, Except.bind, read]
  rfl

theorem readText_members {shape : Shape α} {levels : Nat} {member : σ → String → Reader σ}
    {start last : σ} {build : σ → Except Error α} {members : List Member} {value : α}
    (collects : shape.members levels = collect member start build)
    (chain : Chain (Leads member) start members last) (built : build last = .ok value)
    (before lead behind : Gap) :
    readText (readRecord shape (levels + 1))
      (before.val ++ (objectText lead members ++ behind.val)) = .ok value := by
  have no_list : Octet.openObject ≠ Octet.openList := by decide
  have read := readMembers_joined chain Octet.openObject lead behind.val
  have blank : skipBlanks behind.val = [] := by
    rw [← List.append_nil behind.val, skipBlanks_gap]
    rfl
  rw [objectText_append, readText, readRecord, skipBlanks_gap, skipBlanks_solid (by decide)]
  simp only [no_list, if_false, if_true, collects, collect, read, built, endObject_close, bind,
    Except.bind, pure, Except.pure, blank]

theorem chain_of_readText {shape : Shape α} {levels : Nat} {member : σ → String → Reader σ}
    {start : σ} {build : σ → Except Error α} {members : List Member} {value : α}
    (collects : shape.members levels = collect member start build)
    (each : ∀ one ∈ members, Sound member one) {before lead : Gap} {rest : Bytes}
    (read : readText (readRecord shape (levels + 1))
      (before.val ++ (objectText lead members ++ rest)) = .ok value) :
    ∃ last, Chain (Led member) start members last := by
  have no_list : Octet.openObject ≠ Octet.openList := by decide
  rw [readText, readRecord, skipBlanks_gap, objectText_append, skipBlanks_solid (by decide)] at read
  simp only [no_list, if_false, if_true, collects, collect] at read
  obtain ⟨⟨got, behind⟩, reading, -⟩ := bind_eq_ok read
  obtain ⟨⟨made, later⟩, reading, -⟩ := bind_eq_ok reading
  obtain ⟨⟨last, after⟩, reading, -⟩ := bind_eq_ok reading
  exact ⟨last, (chain_of_joined each reading).1⟩

theorem readText_record {shape : Shape α} {levels : Nat} {member : σ → String → Reader σ}
    {start last : σ} {build : σ → Except Error α} {members : Members} {value : α}
    (collects : shape.members levels = collect member start build)
    (takes : Takes member start members last) (built : build last = .ok value) :
    readText (readRecord shape (levels + 1)) (bytes (.object members)) = .ok value := by
  have read := readText_members collects takes.chain built Gap.none Gap.none Gap.none
  rw [bytes, objectText_written]
  exact (congrArg _ (List.append_nil _).symm).trans read

end EngineClient.Json
