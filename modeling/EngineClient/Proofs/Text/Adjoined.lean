import EngineClient.Proofs.Text.Numeral
import Mathlib.Data.Nat.Digits.Lemmas

/-!
Two numerals, one written right after the other. Nothing marks where the second begins, so the same text
also stands for another pair of numbers if digits can be moved from the one numeral to the other.
-/

namespace EngineClient.Numeral

/-- The digits of `moved` stand in front of those of `low'` in `low`, and behind those of `high` in
`high'`: so `high` and `low` show the same digits as `high'` and `low'`. -/
def Regrouped (base high low high' low' : Nat) : Prop :=
  0 < high ∧ ∃ moved, 0 < moved ∧
    high' = high * base ^ (Nat.log base moved + 1) + moved ∧
    low = moved * base ^ (Nat.log base low' + 1) + low'

theorem value_eq_ofDigits (base : Nat) (digits : List Nat) :
    value base digits = Nat.ofDigits base digits.reverse := by
  induction digits using List.reverseRecOn with
  | nil => rfl
  | append_singleton digits digit ih =>
    rw [value_concat, ih, List.reverse_append, List.reverse_singleton, List.singleton_append,
      Nat.ofDigits_cons, Nat.mul_comm, Nat.add_comm]

theorem value_append (base : Nat) (front back : List Nat) :
    value base (front ++ back) = value base front * base ^ back.length + value base back := by
  simp only [value_eq_ofDigits, List.reverse_append, Nat.ofDigits_append, List.length_reverse]
  rw [Nat.mul_comm, Nat.add_comm]

section Digits

variable {base : Nat} (wide : 2 ≤ base) {high low high' low' : Nat}
include wide

theorem reverse_eq_digits {digits : List Nat} (small : ∀ digit ∈ digits, digit < base)
    (lead : ∀ digit ∈ digits.head?, 0 < digit) :
    digits.reverse = Nat.digits base (value base digits) := by
  have last : ∀ nonempty : digits.reverse ≠ [], digits.reverse.getLast nonempty ≠ 0 := by
    intro nonempty
    rw [List.getLast_reverse]
    exact (lead _ (List.head?_eq_some_head _)).ne'
  have reversed : ∀ digit ∈ digits.reverse, digit < base := fun digit present =>
    small digit (List.mem_reverse.mp present)
  rw [value_eq_ofDigits]
  exact (Nat.digits_ofDigits base wide digits.reverse reversed last).symm

theorem digits_of_pos {number : Nat} (positive : 0 < number) :
    (digits base number).reverse = Nat.digits base number := by
  obtain ⟨digit, rest, split, lead⟩ := head_digits wide positive
  have leading : ∀ first ∈ (digits base number).head?, 0 < first := by
    rw [split]
    rintro first ⟨⟩
    exact lead
  rw [reverse_eq_digits wide (digits_lt wide number) leading, value_digits wide]

theorem length_digits (number : Nat) : (digits base number).length = Nat.log base number + 1 := by
  rcases Nat.eq_zero_or_pos number with rfl | positive
  · rw [Nat.log_zero_right]
    rfl
  · rw [← List.length_reverse, digits_of_pos wide positive,
      Nat.length_digits base number wide positive.ne']

theorem digits_value {digit : Nat} {rest : List Nat} (small : ∀ each ∈ digit :: rest, each < base)
    (lead : 0 < digit) : digits base (value base (digit :: rest)) = digit :: rest := by
  have leading : ∀ first ∈ (digit :: rest).head?, 0 < first := by
    rintro first ⟨⟩
    exact lead
  have reversed := reverse_eq_digits wide small leading
  have positive : 0 < value base (digit :: rest) := by
    apply Nat.pos_of_ne_zero
    intro zero
    rw [zero, Nat.digits_zero] at reversed
    exact List.cons_ne_nil digit rest (List.reverse_eq_nil_iff.mp reversed)
  apply List.reverse_injective
  rw [digits_of_pos wide positive, reversed]

theorem lead_pos {number digit : Nat} {rest : List Nat} (shown : digits base number = digit :: rest)
    (more : rest ≠ []) : 0 < digit := by
  rcases Nat.eq_zero_or_pos number with rfl | positive
  · have alone : digits base 0 = [0] := rfl
    rw [alone] at shown
    cases shown
    exact absurd rfl more
  · obtain ⟨first, behind, split, lead⟩ := head_digits wide positive
    rw [split] at shown
    cases shown
    exact lead

theorem digits_ne_nil (number : Nat) : digits base number ≠ [] := by
  apply List.ne_nil_of_length_pos
  rw [length_digits wide]
  exact Nat.succ_pos _

theorem digits_join (positive : 0 < high) (low : Nat) :
    digits base (high * base ^ (Nat.log base low + 1) + low) = digits base high ++ digits base low := by
  obtain ⟨digit, rest, split, lead⟩ := head_digits wide positive
  have small : ∀ each ∈ digits base high ++ digits base low, each < base := by
    intro each present
    rcases List.mem_append.mp present with front | back
    · exact digits_lt wide high each front
    · exact digits_lt wide low each back
  have joined : value base (digits base high ++ digits base low) =
      high * base ^ (Nat.log base low + 1) + low := by
    rw [value_append, value_digits wide, value_digits wide, length_digits wide]
  rw [split, List.cons_append] at small joined ⊢
  rw [← joined, digits_value wide small lead]

theorem Regrouped.digits_eq (regrouped : Regrouped base high low high' low') :
    digits base high ++ digits base low = digits base high' ++ digits base low' := by
  obtain ⟨positive, moved, some_moved, rfl, rfl⟩ := regrouped
  rw [digits_join wide some_moved, digits_join wide positive, List.append_assoc]

theorem regrouped_of_digits {shifted : List Nat} (some_shifted : shifted ≠ [])
    (behind : digits base high' = digits base high ++ shifted)
    (ahead : digits base low = shifted ++ digits base low') : Regrouped base high low high' low' := by
  cases shifted with
  | nil => exact absurd rfl some_shifted
  | cons digit rest =>
    -- They stand in front of another numeral, so they do not begin with zero and are digits of a number.
    have lead : 0 < digit := by
      rw [List.cons_append] at ahead
      exact lead_pos wide ahead (List.append_ne_nil_of_right_ne_nil rest (digits_ne_nil wide low'))
    have small : ∀ each ∈ digit :: rest, each < base := by
      intro each present
      apply digits_lt wide low each
      rw [ahead]
      exact List.mem_append_left _ present
    have shown := digits_value wide small lead
    have positive : 0 < high := by
      rcases Nat.eq_zero_or_pos high with rfl | positive
      · exact absurd (lead_pos wide behind some_shifted) (Nat.lt_irrefl 0)
      · exact positive
    have count : (digit :: rest).length = Nat.log base (value base (digit :: rest)) + 1 := by
      rw [← length_digits wide, shown]
    refine ⟨positive, value base (digit :: rest), ?_, ?_, ?_⟩
    · apply Nat.pos_of_ne_zero
      intro zero
      rw [zero] at shown
      cases shown
      exact Nat.lt_irrefl 0 lead
    · rw [← count, ← value_digits wide high', behind, value_append, value_digits wide]
    · rw [← length_digits wide, ← value_digits wide low, ahead, value_append, value_digits wide]

/-- Two pairs of numbers show the same digits exactly if they are the same pair, or if digits move
between their numerals. -/
theorem digits_append_eq_iff :
    digits base high ++ digits base low = digits base high' ++ digits base low' ↔
      (high = high' ∧ low = low') ∨ Regrouped base high low high' low' ∨
        Regrouped base high' low' high low := by
  constructor
  · intro same
    -- The longer one of the front numerals has digits in addition; they begin the other back numeral.
    rcases List.append_eq_append_iff.mp same with ⟨shifted, behind, ahead⟩ | ⟨shifted, behind, ahead⟩
    · by_cases some_shifted : shifted = []
      · rw [some_shifted, List.append_nil] at behind
        rw [some_shifted, List.nil_append] at ahead
        exact .inl ⟨(digits_inj wide behind).symm, digits_inj wide ahead⟩
      · exact .inr (.inl (regrouped_of_digits wide some_shifted behind ahead))
    · by_cases some_shifted : shifted = []
      · rw [some_shifted, List.append_nil] at behind
        rw [some_shifted, List.nil_append] at ahead
        exact .inl ⟨digits_inj wide behind, (digits_inj wide ahead).symm⟩
      · exact .inr (.inr (regrouped_of_digits wide some_shifted behind ahead))
  · rintro (⟨rfl, rfl⟩ | regrouped | regrouped)
    · rfl
    · exact regrouped.digits_eq wide
    · exact (regrouped.digits_eq wide).symm

theorem text_append_eq_iff (narrow : base ≤ 36) :
    text base high ++ text base low = text base high' ++ text base low' ↔
      (high = high' ∧ low = low') ∨ Regrouped base high low high' low' ∨
        Regrouped base high' low' high low := by
  rw [← digits_append_eq_iff wide]
  constructor
  · intro same
    have read := congrArg (List.map digitOf) same
    simpa only [List.map_append, map_digitOf_text wide narrow] using read
  · intro same
    simp only [text, ← List.map_append]
    rw [same]

theorem Regrouped.log_lt (regrouped : Regrouped base high low high' low') :
    Nat.log base high < Nat.log base high' := by
  obtain ⟨positive, moved, -, rfl, -⟩ := regrouped
  have shifted : high * base ≤ high * base ^ (Nat.log base moved + 1) + moved := by
    calc high * base
        = high * base ^ 1 := by rw [Nat.pow_one]
      _ ≤ high * base ^ (Nat.log base moved + 1) :=
        Nat.mul_le_mul_left high (Nat.pow_le_pow_right (by omega) (Nat.le_add_left 1 _))
      _ ≤ high * base ^ (Nat.log base moved + 1) + moved := Nat.le_add_right _ _
  calc Nat.log base high
      < Nat.log base high + 1 := Nat.lt_succ_self _
    _ = Nat.log base (high * base) := (Nat.log_mul_base wide positive.ne').symm
    _ ≤ Nat.log base (high * base ^ (Nat.log base moved + 1) + moved) := Nat.log_mono_right shifted

theorem Regrouped.high_lt (regrouped : Regrouped base high low high' low') : high < high' := by
  apply Nat.lt_of_not_le
  intro less
  exact Nat.not_lt_of_le (Nat.log_mono_right less) (regrouped.log_lt wide)

theorem Regrouped.low_lt (regrouped : Regrouped base high low high' low') : low' < low := by
  obtain ⟨-, moved, some_moved, -, rfl⟩ := regrouped
  have power : 0 < base ^ (Nat.log base low' + 1) := Nat.pow_pos (by omega)
  exact Nat.lt_add_of_pos_left (Nat.mul_pos some_moved power)

end Digits

end EngineClient.Numeral
