import EngineClient.Proofs.Json.Keys
import Mathlib.Data.List.Induction

/-!
Members that are inserted one after another, keys repeated or not: each key keeps the place where it first
appeared, and holds the value that it was given last.
-/

namespace EngineClient.Json

theorem find?_insert (key name : String) (value : Json) (members : Members) :
    Members.find? name (insert key value members) =
      if key = name then some value else Members.find? name members := by
  induction members with
  | nil => rfl
  | cons member members ih =>
    obtain ⟨first, old⟩ := member
    rw [insert]
    by_cases here : first = key
    · rw [if_pos here, Members.find?, Members.find?, here]
      split <;> rfl
    · rw [if_neg here, Members.find?, Members.find?, ih]
      by_cases found : first = name
      · have other : ¬ key = name := fun equal => here (found.trans equal.symm)
        rw [if_pos found, if_pos found, if_neg other]
      · rw [if_neg found, if_neg found]

def insertAll (members : Members) (given : Members) : Members :=
  given.foldl (fun members one => insert one.1 one.2 members) members

theorem insertAll_concat (members given : Members) (key : String) (value : Json) :
    insertAll members (given ++ [(key, value)]) = insert key value (insertAll members given) := by
  rw [insertAll, List.foldl_append]
  rfl

theorem nodup_insertAll (given : Members) : ((insertAll [] given).map Prod.fst).Nodup := by
  induction given using List.reverseRecOn with
  | nil => exact List.nodup_nil
  | append_singleton given one ih =>
    rw [insertAll_concat]
    exact nodup_insert one.1 one.2 ih

theorem keys_insertAll (given : Members) :
    (insertAll [] given).map Prod.fst = (given.map Prod.fst).eraseDups := by
  induction given using List.reverseRecOn with
  | nil => rfl
  | append_singleton given one ih =>
    rw [insertAll_concat, keys_insert, ih, List.map_append, List.eraseDups_append]
    by_cases known : one.1 ∈ given.map Prod.fst
    · rw [if_pos (List.mem_eraseDups.mpr known)]
      simp [List.removeAll, known]
    · rw [if_neg (mt List.mem_eraseDups.mp known)]
      have alone : [one.1].eraseDups = [one.1] := List.eraseDups_cons
      simp [List.removeAll, known, alone]

theorem find?_insertAll (given : Members) (key : String) :
    Members.find? key (insertAll [] given) =
      (given.reverse.find? (·.1 = key)).map Prod.snd := by
  induction given using List.reverseRecOn with
  | nil => rfl
  | append_singleton given one ih =>
    rw [insertAll_concat, find?_insert, ih, List.reverse_append, List.reverse_singleton,
      List.singleton_append, List.find?_cons]
    by_cases same : one.1 = key
    · simp [same]
    · simp [same]

end EngineClient.Json
