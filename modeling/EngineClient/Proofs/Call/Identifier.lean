import EngineClient.Call.Identifier
import EngineClient.Proofs.Text.Adjoined

/-!
A client generates no id twice before its counter comes round. The prefix of a client joins two numerals,
and an id can be taken apart into prefix and counter again.
-/

namespace EngineClient.Call

theorem value_base36 (value : UInt64) :
    Numeral.value 36 ((base36 value).toList.map Numeral.digitOf) = value.toNat := by
  rw [base36, String.toList_ofList, Numeral.map_digitOf_text (by decide) (by decide)]
  exact Numeral.value_digits (by decide) value.toNat

theorem base36_injective : Function.Injective base36 := by
  intro first second same
  have texts := congrArg String.toList same
  rw [base36, base36, String.toList_ofList, String.toList_ofList] at texts
  exact UInt64.toNat_inj.mp (Numeral.text_injective (by decide) (by decide) texts)

/-- Two prefixes are equal exactly if they are made of the same numbers, or if digits move between the
numerals of the clock and of the number of the client. -/
theorem clientPrefix_eq_iff (millis sequence millis' sequence' : UInt64) :
    clientPrefix millis sequence = clientPrefix millis' sequence' ↔
      (millis = millis' ∧ sequence = sequence') ∨
      Numeral.Regrouped 36 millis.toNat sequence.toNat millis'.toNat sequence'.toNat ∨
      Numeral.Regrouped 36 millis'.toNat sequence'.toNat millis.toNat sequence.toNat := by
  rw [← UInt64.toNat_inj, ← UInt64.toNat_inj, ← Numeral.text_append_eq_iff (by decide) (by decide),
    ← String.toList_inj]
  simp only [clientPrefix, base36, String.toList_append, String.toList_ofList]

theorem hyphen_not_mem_base36 (value : UInt64) : '-' ∉ (base36 value).toList := by
  rw [base36, String.toList_ofList, Numeral.text]
  intro present
  obtain ⟨digit, shown, same⟩ := List.mem_map.mp present
  have small := Numeral.digits_lt (by decide) value.toNat digit shown
  have code := Numeral.toNat_digitChar small
  have hyphen : '-'.toNat = 0x2D := rfl
  rw [same, hyphen] at code
  split at code <;> omega

theorem append_hyphen_inj {front back front' back' : List Char} (plain : '-' ∉ back)
    (plain' : '-' ∉ back') (same : front ++ '-' :: back = front' ++ '-' :: back') :
    front = front' ∧ back = back' := by
  rcases List.append_eq_append_iff.mp same with ⟨shifted, longer, rest⟩ | ⟨shifted, longer, rest⟩
  · cases shifted with
    | nil => exact ⟨by rw [longer, List.append_nil], by cases rest; rfl⟩
    | cons c shifted =>
      obtain ⟨-, rfl⟩ := List.cons.inj rest
      exact absurd (List.mem_append_right shifted List.mem_cons_self) plain
  · cases shifted with
    | nil => exact ⟨by rw [longer, List.append_nil], by cases rest; rfl⟩
    | cons c shifted =>
      obtain ⟨-, rfl⟩ := List.cons.inj rest
      exact absurd (List.mem_append_right shifted List.mem_cons_self) plain'

theorem generatedId_eq_iff {first second : String} {counter counter' : UInt64} :
    generatedId first counter = generatedId second counter' ↔ first = second ∧ counter = counter' := by
  constructor
  · intro same
    have texts := congrArg String.toList same
    have hyphen : "-".toList = ['-'] := rfl
    simp only [generatedId, String.toList_append, hyphen, List.append_assoc,
      List.singleton_append] at texts
    obtain ⟨prefixes, counters⟩ :=
      append_hyphen_inj (hyphen_not_mem_base36 counter) (hyphen_not_mem_base36 counter') texts
    exact ⟨String.toList_injective prefixes, base36_injective (String.toList_injective counters)⟩
  · rintro ⟨rfl, rfl⟩
    rfl

theorem generatedId_injective (client : String) : Function.Injective (generatedId client) :=
  fun _ _ same => (generatedId_eq_iff.mp same).2

end EngineClient.Call
