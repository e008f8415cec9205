import EngineClient.Proofs.Json.Portable
import EngineClient.Proofs.Json.Spelling

/-!
No object that is read gives a key twice, at whatever depth it stands: a key that is repeated in the text
takes its last value.
-/

namespace EngineClient.Json

variable {α σ : Type}

/-- An object gives no key twice, as every object that can be held. -/
def Keyed (json : Json) : Prop :=
  ∀ members, json = .object members → (members.map Prod.fst).Nodup

theorem mem_insert {key : String} {value : Json} {members : Members} {member : String × Json}
    (present : member ∈ insert key value members) : member = (key, value) ∨ member ∈ members := by
  induction members with
  | nil => exact .inl (List.mem_singleton.mp present)
  | cons first members ih =>
    obtain ⟨name, old⟩ := first
    rw [insert] at present
    split at present
    next same =>
      subst same
      rcases List.mem_cons.mp present with here | behind
      · exact .inl here
      · exact .inr (List.mem_cons_of_mem _ behind)
    next other =>
      rcases List.mem_cons.mp present with here | behind
      · exact .inr (here ▸ List.mem_cons_self)
      · exact (ih behind).imp id (List.mem_cons_of_mem _)

theorem keys_insert (key : String) (value : Json) (members : Members) :
    (insert key value members).map Prod.fst =
      if key ∈ members.map Prod.fst then members.map Prod.fst else members.map Prod.fst ++ [key] := by
  induction members with
  | nil => rfl
  | cons member members ih =>
    obtain ⟨name, old⟩ := member
    rw [insert]
    by_cases same : name = key
    · simp [same]
    · have other : ¬ key = name := fun equal => same equal.symm
      simp only [same, if_false, List.map_cons, ih, List.mem_cons, other, false_or]
      split <;> rfl

theorem nodup_insert (key : String) (value : Json) {members : Members}
    (distinct : (members.map Prod.fst).Nodup) :
    ((insert key value members).map Prod.fst).Nodup := by
  rw [keys_insert]
  split
  next known => exact distinct
  next fresh =>
    apply List.nodup_append.mpr
    refine ⟨distinct, List.pairwise_singleton _ _, ?_⟩
    intro held present given same
    rw [List.mem_singleton.mp same]
    exact fun equal => fresh (equal ▸ present)

theorem Members.find?_eq_some_iff {members : Members} (distinct : (members.map Prod.fst).Nodup)
    {key : String} {value : Json} : find? key members = some value ↔ (key, value) ∈ members := by
  induction members with
  | nil => simp [find?]
  | cons member members ih =>
    obtain ⟨name, first⟩ := member
    obtain ⟨fresh, rest⟩ := List.nodup_cons.mp distinct
    rw [find?, List.mem_cons, Prod.mk.injEq]
    by_cases same : name = key
    · have absent : (key, value) ∉ members := by
        intro present
        apply fresh
        exact List.mem_map.mpr ⟨(key, value), present, same.symm⟩
      simp [same, absent, eq_comm]
    · have other : ¬ key = name := fun equal => same equal.symm
      simp [same, other, ih rest]

theorem readItems_each {item : Reader α} {P : α → Prop}
    (each : ∀ input value rest, item input = .ok (value, rest) → P value) {track input rest : Bytes}
    {first : Bool} {values : List α}
    (read : readItems item track first input = .ok (values, rest)) : ∀ value ∈ values, P value := by
  induction track generalizing first input values with
  | nil => cases read
  | cons mark track ih =>
    obtain ⟨next, -, read⟩ := bind_eq_ok read
    cases next with
    | close behind =>
      cases read
      intro value present
      cases present
    | entry behind =>
      obtain ⟨⟨value, after⟩, reading, read⟩ := bind_eq_ok read
      obtain ⟨⟨later, last⟩, readings, read⟩ := bind_eq_ok read
      cases read
      exact List.forall_mem_cons.mpr ⟨each _ _ _ reading, ih readings⟩

theorem readMembers_keeps {member : σ → String → Reader σ} {P : σ → Prop}
    (keeps : ∀ state key input next rest, P state → member state key input = .ok (next, rest) →
      P next) {track input rest : Bytes} {first : Bool} {state last : σ} (start : P state)
    (read : readMembers member track first state input = .ok (last, rest)) : P last := by
  induction track generalizing first state input with
  | nil => cases read
  | cons mark track ih =>
    obtain ⟨next, -, read⟩ := bind_eq_ok read
    cases next with
    | close behind =>
      cases read
      exact start
    | entry behind =>
      obtain ⟨⟨key, after⟩, -, read⟩ := bind_eq_ok read
      obtain ⟨⟨state, later⟩, taken, read⟩ := bind_eq_ok read
      exact ih (keeps _ _ _ _ _ start taken) read

variable {levels : Nat} {json : Json} {input rest : Bytes}

theorem readValue_cases (read : readValue levels input = .ok (json, rest)) :
    json.depth = 0 ∨
    (∃ lower behind items, levels = lower + 1 ∧ json = .list items ∧
      readList (readValue lower) behind = .ok (items, rest)) ∨
    (∃ lower behind members, levels = lower + 1 ∧ json = .object members ∧
      readObject (readValue lower) behind = .ok (members, rest)) := by
  rw [readValue] at read
  cases start : skipBlanks input with
  | nil =>
    rw [start] at read
    cases read
  | cons octet behind =>
    rw [start] at read
    dsimp only at read
    -- a word, a number or a string
    iterate 6
      split at read
      · obtain ⟨found, -, made⟩ := bind_eq_ok read
        cases made
        exact .inl rfl
    cases levels with
    | zero =>
      split at read
      · cases read
      · split at read <;> cases read
    | succ lower =>
      split at read
      · obtain ⟨⟨items, after⟩, reading, made⟩ := bind_eq_ok read
        cases made
        exact .inr (.inl ⟨lower, behind, items, rfl, rfl, reading⟩)
      · split at read
        · obtain ⟨⟨members, after⟩, reading, made⟩ := bind_eq_ok read
          cases made
          exact .inr (.inr ⟨lower, behind, members, rfl, rfl, reading⟩)
        · cases read

theorem keyed_scalar (scalar : json.depth = 0) : ∀ part ∈ json.parts, part.Keyed := by
  have alone : json.parts = [json] := by
    cases json with
    | list items => cases scalar
    | object members => cases scalar
    | _ => rfl
  rw [alone]
  intro part same members object
  rw [List.mem_singleton.mp same] at object
  rw [object] at scalar
  cases scalar

def KeyedMembers (members : Members) : Prop :=
  (members.map Prod.fst).Nodup ∧ ∀ member ∈ members, ∀ part ∈ member.2.parts, part.Keyed

theorem addMember_keeps {reader : Reader Json}
    (each : ∀ input value rest, reader input = .ok (value, rest) → ∀ part ∈ value.parts, part.Keyed)
    (members : Members) (key : String) (input : Bytes) (after : Members) (rest : Bytes)
    (keyed : KeyedMembers members) (added : addMember reader members key input = .ok (after, rest)) :
    KeyedMembers after := by
  obtain ⟨behind, -, added⟩ := bind_eq_ok added
  obtain ⟨⟨value, last⟩, reading, added⟩ := bind_eq_ok added
  cases added
  constructor
  · exact nodup_insert key value keyed.1
  · intro member present
    rcases mem_insert present with rfl | old
    · exact each _ _ _ reading
    · exact keyed.2 member old

theorem keyed_readValue (read : readValue levels input = .ok (json, rest)) :
    ∀ part ∈ json.parts, part.Keyed := by
  -- on the levels: what stands in a container was read with one less
  induction levels generalizing input json rest with
  | zero =>
    obtain scalar | ⟨lower, -, -, impossible, -⟩ | ⟨lower, -, -, impossible, -⟩ :=
      readValue_cases read
    · exact keyed_scalar scalar
    · cases impossible
    · cases impossible
  | succ levels ih =>
    obtain scalar | ⟨lower, behind, items, same, rfl, reading⟩ |
      ⟨lower, behind, members, same, rfl, reading⟩ := readValue_cases read
    · exact keyed_scalar scalar
    · cases same
      obtain ⟨⟨values, last⟩, readings, made⟩ := bind_eq_ok reading
      obtain ⟨after, -, made⟩ := bind_eq_ok made
      cases made
      have each := readItems_each (fun _ _ _ one => ih one) readings
      intro part inside
      rcases List.mem_cons.mp inside with rfl | inside
      · intro members impossible
        cases impossible
      · obtain ⟨item, present, held⟩ := mem_partsOfItems.mp inside
        exact each item present part held
    · cases same
      obtain ⟨⟨values, last⟩, readings, made⟩ := bind_eq_ok reading
      obtain ⟨after, -, made⟩ := bind_eq_ok made
      cases made
      have none : KeyedMembers [] := by
        refine ⟨List.nodup_nil, ?_⟩
        intro member impossible
        cases impossible
      have keyed := readMembers_keeps (addMember_keeps fun _ _ _ one => ih one) none readings
      intro part inside
      rcases List.mem_cons.mp inside with rfl | inside
      · rintro members ⟨⟩
        exact keyed.1
      · obtain ⟨member, present, held⟩ := mem_partsOfMembers.mp inside
        exact keyed.2 member present part held

end EngineClient.Json
