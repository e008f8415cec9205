import EngineClient.Call.Pending
import Mathlib.Data.List.Nodup

/-!
Pending calls under distinct ids: what registering, settling and erasing do to the entries, and how
often each call occurs among them.
-/

namespace EngineClient.Call.Pending

def Distinct (pending : Pending) : Prop := pending.ids.Nodup

def numbers (pending : Pending) : List Number := pending.calls.map Prod.snd

def adding (pending : Pending) (id : String) (call : Number) : Pending :=
  ⟨pending.calls ++ [(id, call)]⟩

variable {pending : Pending} {id : String} {call : Number}

@[simp] theorem numbers_empty : empty.numbers = [] := rfl

@[simp] theorem numbers_adding : (pending.adding id call).numbers = pending.numbers ++ [call] := by
  simp [numbers, adding]

@[simp] theorem calls_adding : (pending.adding id call).calls = pending.calls ++ [(id, call)] := rfl

theorem length_numbers : pending.numbers.length = pending.size := by simp [numbers, size]

theorem distinct_empty : empty.Distinct := List.nodup_nil

theorem mem_of_find (found : pending.find? id = some call) : (id, call) ∈ pending.calls := by
  simp only [find?, Option.map_eq_some_iff] at found
  obtain ⟨⟨name, number⟩, at_entry, rfl⟩ := found
  have same : name = id := by simpa using List.find?_some at_entry
  simpa [same] using List.mem_of_find?_eq_some at_entry

theorem contains_iff : pending.contains id = true ↔ ∃ call, (id, call) ∈ pending.calls := by
  simp [contains, find?]

theorem free_iff : pending.contains id = false ↔ ∀ call, (id, call) ∉ pending.calls := by
  rw [← Bool.not_eq_true, contains_iff, not_exists]

theorem find_none_iff : pending.find? id = none ↔ ∀ call, (id, call) ∉ pending.calls := by
  rw [← free_iff, contains, Option.isSome_eq_false_iff, Option.isNone_iff_eq_none]

theorem find_of_mem (distinct : pending.Distinct) (present : (id, call) ∈ pending.calls) :
    pending.find? id = some call := by
  cases found : pending.find? id with
  | none => exact absurd present (find_none_iff.mp found call)
  | some other =>
    have pair : (id, other) = (id, call) :=
      List.inj_on_of_nodup_map distinct (mem_of_find found) present rfl
    exact congrArg some (Prod.mk.inj pair).2

theorem register_taken (taken : pending.contains id = true) :
    pending.register id call = .error (.duplicateId id) := by
  simp [register, taken]

theorem register_free (free : pending.contains id = false) :
    pending.register id call = .ok (pending.adding id call) := by
  simp [register, free, adding]

theorem distinct_adding (distinct : pending.Distinct) (free : pending.contains id = false) :
    (pending.adding id call).Distinct := by
  have absent : id ∉ pending.ids := by
    intro member
    obtain ⟨⟨name, number⟩, present, rfl⟩ := List.mem_map.mp member
    exact free_iff.mp free number present
  have added : (pending.adding id call).ids = pending.ids.concat id := by simp [ids, adding]
  rw [Distinct, added]
  exact List.Nodup.concat absent distinct

theorem mem_erase {entry : String × Number} :
    entry ∈ (pending.erase id).calls ↔ entry ∈ pending.calls ∧ entry.1 ≠ id := by
  simp [erase]

theorem distinct_erase (distinct : pending.Distinct) : (pending.erase id).Distinct :=
  distinct.sublist (List.Sublist.map _ List.filter_sublist)

theorem exists_erase (distinct : pending.Distinct) (present : (id, call) ∈ pending.calls) :
    ∃ before later, pending.calls = before ++ (id, call) :: later ∧
      (pending.erase id).calls = before ++ later := by
  obtain ⟨before, later, split⟩ := List.append_of_mem present
  refine ⟨before, later, split, ?_⟩
  have ids : (before.map Prod.fst ++ id :: later.map Prod.fst).Nodup := by
    simpa [Distinct, Pending.ids, split] using distinct
  obtain ⟨-, behind, apart⟩ := List.nodup_append.mp ids
  have kept (entry : String × Number) (other : entry ∈ before ++ later) :
      (entry.1 != id) = true := by
    rw [bne_iff_ne]
    rintro rfl
    rcases List.mem_append.mp other with early | late
    · exact apart entry.1 (List.mem_map_of_mem early) entry.1 List.mem_cons_self rfl
    · exact (List.nodup_cons.mp behind).1 (List.mem_map_of_mem late)
  rw [erase, split, List.filter_append, List.filter_cons_of_neg (by simp), ← List.filter_append]
  exact List.filter_eq_self.mpr kept

theorem erase_free (free : pending.contains id = false) : pending.erase id = pending := by
  have keep : pending.calls.filter (fun entry => entry.1 != id) = pending.calls := by
    apply List.filter_eq_self.mpr
    rintro ⟨name, number⟩ present
    have other : name ≠ id := by
      rintro rfl
      exact free_iff.mp free number present
    simpa using other
  simp [erase, keep]

theorem reject_adding (free : pending.contains id = false) (error : Error) :
    (pending.adding id call).reject id error = some (⟨call, .error error⟩, pending) := by
  have none_before : pending.calls.find? (fun entry => entry.1 == id) = none := by
    simpa [contains, find?] using free
  have kept := erase_free free
  simp only [erase] at kept
  simp [reject, settle, find?, erase, adding, List.find?_append, none_before, kept]

theorem resolve_eq_some_iff {reply : Response} {settlement : Settlement} {after : Pending} :
    pending.resolve reply = some (settlement, after) ↔
      ∃ id call, reply.id = some id ∧ pending.find? id = some call ∧
        settlement = ⟨call, outcomeOf reply⟩ ∧ after = pending.erase id := by
  simp only [resolve, settle, Option.bind_eq_some_iff, Option.map_eq_some_iff, Prod.mk.injEq]
  constructor
  · rintro ⟨id, answered, call, found, rfl, rfl⟩
    exact ⟨id, call, answered, found, rfl, rfl⟩
  · rintro ⟨id, call, answered, found, rfl, rfl⟩
    exact ⟨id, answered, call, found, rfl, rfl⟩

theorem resolve_eq_none_iff {reply : Response} :
    pending.resolve reply = none ↔ ∀ id, reply.id = some id → pending.contains id = false := by
  simp [resolve, settle, contains, Option.bind_eq_none_iff]

theorem count_erase (distinct : pending.Distinct) (found : pending.find? id = some call)
    (number : Number) :
    (pending.erase id).numbers.count number + (if call = number then 1 else 0) =
      pending.numbers.count number := by
  obtain ⟨calls⟩ := pending
  induction calls with
  | nil => simp [find?] at found
  | cons entry rest ih =>
    obtain ⟨name, first⟩ := entry
    have tail : (Pending.mk rest).Distinct := (List.nodup_cons.mp distinct).2
    by_cases same : name = id
    · subst same
      have free : (Pending.mk rest).contains name = false := free_iff.mpr fun other present =>
        (List.nodup_cons.mp distinct).1 (List.mem_map.mpr ⟨_, present, rfl⟩)
      have kept := erase_free free
      simp only [erase, Pending.mk.injEq] at kept
      have first_call : first = call := by simpa [find?] using found
      simp [numbers, erase, kept, first_call, List.count_cons]
    · have later : (Pending.mk rest).find? id = some call := by simpa [find?, same] using found
      have step := ih tail later
      simp only [numbers, erase] at step ⊢
      simp only [List.filter_cons, bne_iff_ne, ne_eq, same, not_false_eq_true, ↓reduceIte,
        List.map_cons, List.count_cons]
      omega

end EngineClient.Call.Pending
