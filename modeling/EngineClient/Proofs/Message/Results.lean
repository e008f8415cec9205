import EngineClient.Proofs.Call.Pending
import EngineClient.Proofs.Message.Entries
import Mathlib.Tactic.SplitIfs

/-!
What responses mean. A successful one shows the entries of its content all or nothing, under either kind
that has entries. A failed one shows none, and its error is the same wherever it is asked for.
-/

namespace EngineClient.Response

open Json (bind_eq_ok)

variable {levels : Nat} {input rest body : Bytes} {response : Response} {items : List Json}

def Slots.Keyed (slots : Slots) : Prop :=
  ∀ content, slots.content = some (some content) → ∀ part ∈ content.parts, part.Keyed

theorem keyed_readOptional {content : Json}
    (read : Json.readOptional (Json.readValue levels) input = .ok (some content, rest)) :
    ∀ part ∈ content.parts, part.Keyed := by
  rw [Json.readOptional] at read
  split at read
  next => cases read
  next octet behind _ =>
    split at read
    next =>
      obtain ⟨after, -, made⟩ := bind_eq_ok read
      cases made
    next =>
      obtain ⟨⟨value, after⟩, reading, made⟩ := bind_eq_ok read
      cases made
      exact Json.keyed_readValue reading

theorem readMember_keeps (slots : Slots) (key : String) (input : Bytes) (next : Slots) (rest : Bytes)
    (keyed : slots.Keyed) (read : readMember levels slots key input = .ok (next, rest)) :
    next.Keyed := by
  rw [readMember] at read
  split_ifs at read with id status kind content error
  · obtain ⟨found, -, made⟩ := bind_eq_ok read
    cases made
    exact keyed
  · obtain ⟨found, -, made⟩ := bind_eq_ok read
    cases made
    exact keyed
  · obtain ⟨found, -, made⟩ := bind_eq_ok read
    cases made
    exact keyed
  · obtain ⟨⟨filled, last⟩, once, made⟩ := bind_eq_ok read
    cases made
    rw [Json.once] at once
    split at once
    · cases once
    · obtain ⟨behind, -, once⟩ := bind_eq_ok once
      obtain ⟨⟨value, after⟩, reading, once⟩ := bind_eq_ok once
      cases once
      rintro found ⟨⟩
      exact keyed_readOptional reading
  · obtain ⟨found, -, made⟩ := bind_eq_ok read
    cases made
    exact keyed
  · obtain ⟨behind, -, passed⟩ := bind_eq_ok read
    obtain ⟨after, -, passed⟩ := bind_eq_ok passed
    cases passed
    exact keyed

theorem readPositions_keyed (read : readPositions levels input = .ok (response, rest)) :
    ∀ content, response.content = some content → ∀ part ∈ content.parts, part.Keyed := by
  obtain ⟨⟨id, after_id⟩, -, read⟩ := bind_eq_ok read
  obtain ⟨⟨status, after_status⟩, -, read⟩ := bind_eq_ok read
  cases status with
  | none => cases read
  | some status =>
    obtain ⟨⟨kind, after_kind⟩, -, read⟩ := bind_eq_ok read
    obtain ⟨⟨content, after_content⟩, placed, read⟩ := bind_eq_ok read
    obtain ⟨⟨error, after_error⟩, -, read⟩ := bind_eq_ok read
    cases read
    intro json shown
    obtain ⟨next, -, placed⟩ := bind_eq_ok placed
    cases next with
    | close behind =>
      cases placed
      cases shown
    | entry behind =>
      obtain ⟨⟨value, after⟩, reading, placed⟩ := bind_eq_ok placed
      cases placed
      cases shown
      exact keyed_readOptional reading

theorem keyed_parse (read : parse body = .ok response) :
    ∀ content, response.content = some content → ∀ part ∈ content.parts, part.Keyed := by
  obtain ⟨⟨value, behind⟩, read, made⟩ := bind_eq_ok read
  have kept : response = value := by
    dsimp only at made
    split at made
    · exact (Except.ok.inj made).symm
    · cases made
  subst kept
  rw [Json.readRecord] at read
  split at read
  next => cases read
  next octet input _ =>
    split_ifs at read with list object
    · obtain ⟨⟨value, after⟩, positions, read⟩ := bind_eq_ok read
      obtain ⟨last, -, read⟩ := bind_eq_ok read
      cases read
      exact readPositions_keyed positions
    · obtain ⟨⟨value, after⟩, members, read⟩ := bind_eq_ok read
      obtain ⟨last, -, read⟩ := bind_eq_ok read
      cases read
      obtain ⟨⟨slots, after⟩, members, built⟩ := bind_eq_ok members
      obtain ⟨made, built, last⟩ := bind_eq_ok built
      cases last
      have start : Slots.Keyed ⟨none, none, none, none, none⟩ := by
        intro content impossible
        cases impossible
      have keyed := Json.readMembers_keeps readMember_keeps start members
      dsimp only [ofSlots] at built
      split at built
      · cases built
      · cases built
        intro content shown
        apply keyed content
        cases given : slots.content with
        | none =>
          rw [given] at shown
          cases shown
        | some value =>
          rw [given] at shown
          exact congrArg some shown

theorem keyed_items (read : parse body = .ok response)
    (content : response.content = some (.list items)) : ∀ item ∈ items, item.Keyed := by
  intro item present
  apply keyed_parse read (.list items) content
  have own : item ∈ item.parts := by cases item <;> exact List.mem_cons_self
  exact List.mem_cons_of_mem _ (Json.mem_partsOfItems.mpr ⟨item, present, own⟩)

theorem result_of_list (success : response.status = .success)
    (content : response.content = some (.list items)) :
    (response.kind = some collectionKind →
      response.result = (entriesOf (.list items)).map .collection) ∧
    (response.kind = some entryKind →
      response.result = (entriesOf (.list items)).map fun entries => .entry entries.head?) := by
  have other : some entryKind ≠ some collectionKind := by decide
  constructor
  · intro kind
    rw [result, success, content, kind]
    exact if_pos rfl
  · intro kind
    rw [result, success, content, kind]
    simp only [other, if_false, if_true, Option.getD_some, entryOf]
    cases entriesOf (.list items) <;> rfl

theorem entries_of_fault {error : Call.Error} (read : response.result = .error error) :
    response.entries = .error error := by
  rw [entries, read]
  rfl

theorem entries_of_written {told : List Entry} (written : List.Forall₂ Entry.Written told items)
    (success : response.status = .success) (content : response.content = some (.list items)) :
    (response.kind = some collectionKind →
      response.result = .ok (.collection told) ∧ response.entries = .ok told) ∧
    (response.kind = some entryKind →
      response.result = .ok (.entry told.head?) ∧ response.entries = .ok (told.take 1)) := by
  have all : entriesOf (.list items) = .ok told := by
    rw [entriesOf, Entry.allOfJson_written written]
    rfl
  obtain ⟨collection, single⟩ := result_of_list success content
  constructor
  · intro kind
    have said := collection kind
    rw [all] at said
    constructor
    · exact said
    · rw [entries, said]
      rfl
  · intro kind
    have said := single kind
    rw [all] at said
    constructor
    · exact said
    · rw [entries, said]
      cases told <;> rfl

theorem entries_of_faulty (keyed : ∀ item ∈ items, item.Keyed)
    (bad : ∃ item ∈ items, ∀ entry : Entry, ¬ entry.Written item)
    (success : response.status = .success) (content : response.content = some (.list items))
    (kind : response.kind = some collectionKind ∨ response.kind = some entryKind) :
    ∃ told before item after fault, items = before ++ item :: after ∧
      List.Forall₂ Entry.Written told before ∧ Entry.ofJson item = .error fault ∧
      response.result = .error (.protocol ("Invalid entry collection: " ++ fault.message)) ∧
      response.entries = .error (.protocol ("Invalid entry collection: " ++ fault.message)) := by
  obtain ⟨told, before, item, after, fault, split, said, wrong, all⟩ :=
    Entry.allOfJson_fault keyed bad
  have refused : entriesOf (.list items) =
      .error (.protocol ("Invalid entry collection: " ++ fault.message)) := by
    rw [entriesOf, all]
    rfl
  obtain ⟨collection, single⟩ := result_of_list success content
  have failed : response.result =
      .error (.protocol ("Invalid entry collection: " ++ fault.message)) := by
    cases kind with
    | inl kind =>
      rw [collection kind, refused]
      rfl
    | inr kind =>
      rw [single kind, refused]
      rfl
  exact ⟨told, before, item, after, fault, split, said, wrong, failed, entries_of_fault failed⟩

theorem result_of_fail (failed : response.status = .fail) :
    response.result = .error (.engine response.errorMessage) := by
  rw [result, failed]

theorem outcome_of_fail (failed : response.status = .fail) :
    Call.outcomeOf response = .error (.engine response.errorMessage) := by
  rw [Call.outcomeOf, failed]

/-- Entries are read all or nothing, from all the forms in which they can be given, and a failed response
is the same error wherever it is asked for: in its result, in its entries, and in the outcome of the call
that it answers. -/
theorem entries_all_or_nothing :
    (∀ (response : Response) (told : List Entry) (items : List Json),
      List.Forall₂ Entry.Written told items → response.status = .success →
      response.content = some (.list items) →
      (response.kind = some collectionKind →
        response.result = .ok (.collection told) ∧ response.entries = .ok told) ∧
      (response.kind = some entryKind →
        response.result = .ok (.entry told.head?) ∧ response.entries = .ok (told.take 1))) ∧
    (∀ (response : Response) (items : List Json), (∀ item ∈ items, item.Keyed) →
      (∃ item ∈ items, ∀ entry : Entry, ¬ entry.Written item) → response.status = .success →
      response.content = some (.list items) →
      response.kind = some collectionKind ∨ response.kind = some entryKind →
      ∃ told before item after fault, items = before ++ item :: after ∧
        List.Forall₂ Entry.Written told before ∧ Entry.ofJson item = .error fault ∧
        response.result = .error (.protocol ("Invalid entry collection: " ++ fault.message)) ∧
        response.entries = .error (.protocol ("Invalid entry collection: " ++ fault.message))) ∧
    (∀ (body : Bytes) (response : Response) (items : List Json), parse body = .ok response →
      response.content = some (.list items) → ∀ item ∈ items, item.Keyed) ∧
    (∀ response : Response, response.status = .fail →
      response.shownContent = none ∧
      response.result = .error (.engine response.errorMessage) ∧
      response.entries = .error (.engine response.errorMessage) ∧
      ∀ (pending : Call.Pending) (id : String) (call : Call.Number), response.id = some id →
        pending.find? id = some call → pending.resolve response =
          some (⟨call, .error (.engine response.errorMessage)⟩, pending.erase id)) := by
  refine ⟨?_, ?_, ?_, ?_⟩
  · intro response told items written success content
    exact entries_of_written written success content
  · intro response items keyed bad success content kind
    exact entries_of_faulty keyed bad success content kind
  · intro body response items read content
    exact keyed_items read content
  · intro response failed
    have hidden : response.shownContent = none := by
      rw [shownContent, failed]
    refine ⟨hidden, result_of_fail failed, entries_of_fault (result_of_fail failed), ?_⟩
    intro pending id call answered found
    apply Call.Pending.resolve_eq_some_iff.mpr
    exact ⟨id, call, answered, found, by rw [outcome_of_fail failed], rfl⟩

example : (success "a" collectionKind (.list [
    .object [("is_file", .bool true), ("size", .null), ("name", .string "readme")],
    .list [.string "docs", .bool true]])).entries =
      .ok [⟨"readme", false, true, false⟩, ⟨"docs", true, false, false⟩] := rfl

end EngineClient.Response
