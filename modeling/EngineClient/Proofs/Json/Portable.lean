import EngineClient.Proofs.Json.RoundTrip

/-!
The values that read back as they are written, told by what they hold: numbers that are integers, objects
with each key once, and containers that nest no deeper than the reader follows them.
-/

namespace EngineClient.Json

mutual

def depth : Json → Nat
  | .list items => depthOfItems items + 1
  | .object members => depthOfMembers members + 1
  | _ => 0

def depthOfItems : List Json → Nat
  | [] => 0
  | item :: items => max item.depth (depthOfItems items)

def depthOfMembers : List (String × Json) → Nat
  | [] => 0
  | (_, value) :: members => max value.depth (depthOfMembers members)

end

mutual

def parts : Json → List Json
  | .list items => .list items :: partsOfItems items
  | .object members => .object members :: partsOfMembers members
  | scalar => [scalar]

def partsOfItems : List Json → List Json
  | [] => []
  | item :: items => item.parts ++ partsOfItems items

def partsOfMembers : List (String × Json) → List Json
  | [] => []
  | (_, value) :: members => value.parts ++ partsOfMembers members

end

theorem depth_le_of_items {items : List Json} {levels : Nat} (shallow : depthOfItems items ≤ levels) :
    ∀ item ∈ items, item.depth ≤ levels := by
  induction items with
  | nil => simp
  | cons item items ih =>
    rw [depthOfItems, Nat.max_le] at shallow
    exact List.forall_mem_cons.mpr ⟨shallow.1, ih shallow.2⟩

theorem depth_le_of_members {members : Members} {levels : Nat}
    (shallow : depthOfMembers members ≤ levels) : ∀ member ∈ members, member.2.depth ≤ levels := by
  induction members with
  | nil => simp
  | cons member members ih =>
    rw [depthOfMembers, Nat.max_le] at shallow
    exact List.forall_mem_cons.mpr ⟨shallow.1, ih shallow.2⟩

theorem mem_partsOfItems {items : List Json} {part : Json} :
    part ∈ partsOfItems items ↔ ∃ item ∈ items, part ∈ item.parts := by
  induction items with
  | nil => simp [partsOfItems]
  | cons item items ih => simp [partsOfItems, ih]

theorem mem_partsOfMembers {members : Members} {part : Json} :
    part ∈ partsOfMembers members ↔ ∃ member ∈ members, part ∈ member.2.parts := by
  induction members with
  | nil => simp [partsOfMembers]
  | cons member members ih => simp [partsOfMembers, ih]

/-- What the text of a value can carry. That keys are distinct is what makes a list of members an
object. -/
structure Portable (json : Json) : Prop where
  integral : ∀ value, .number (.double value) ∉ json.parts
  keyed : ∀ members, .object members ∈ json.parts → (members.map Prod.fst).Nodup
  shallow : json.depth ≤ deepest

theorem plain_number {levels : Nat} {number : Number}
    (integral : ∀ value, number ≠ .double value) : Plain levels (.number number) := by
  cases number with
  | integer value => exact .integer value
  | double value => exact absurd rfl (integral value)

theorem plain_of_parts {levels : Nat} {json : Json} (shallow : json.depth ≤ levels)
    (integral : ∀ value, .number (.double value) ∉ json.parts)
    (keyed : ∀ members, .object members ∈ json.parts → (members.map Prod.fst).Nodup) :
    Plain levels json := by
  -- on the levels: each container takes one, whatever it holds
  induction levels generalizing json with
  | zero =>
    cases json with
    | null => exact .null
    | bool value => exact .bool value
    | number number => exact plain_number fun value same => integral value (same ▸ List.mem_cons_self)
    | string text => exact .string text
    | list items => exact absurd shallow (Nat.not_succ_le_zero _)
    | object members => exact absurd shallow (Nat.not_succ_le_zero _)
  | succ levels ih =>
    cases json with
    | null => exact .null
    | bool value => exact .bool value
    | number number => exact plain_number fun value same => integral value (same ▸ List.mem_cons_self)
    | string text => exact .string text
    | list items =>
      refine .list fun item present => ?_
      have inside : ∀ part ∈ item.parts, part ∈ (list items).parts := fun part held =>
        List.mem_cons_of_mem _ (mem_partsOfItems.mpr ⟨item, present, held⟩)
      exact ih (depth_le_of_items (Nat.le_of_succ_le_succ shallow) item present)
        (fun value held => integral value (inside _ held))
        fun members held => keyed members (inside _ held)
    | object members =>
      refine .object (fun member present => ?_) (keyed members List.mem_cons_self)
      have inside : ∀ part ∈ member.2.parts, part ∈ (object members).parts := fun part held =>
        List.mem_cons_of_mem _ (mem_partsOfMembers.mpr ⟨member, present, held⟩)
      exact ih (depth_le_of_members (Nat.le_of_succ_le_succ shallow) member present)
        (fun value held => integral value (inside _ held))
        fun members held => keyed members (inside _ held)

theorem Portable.plain {json : Json} (portable : json.Portable) : Plain deepest json :=
  plain_of_parts portable.shallow portable.integral portable.keyed

end EngineClient.Json
