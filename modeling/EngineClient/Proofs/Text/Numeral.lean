import EngineClient.Text.Numeral
import Mathlib.Data.List.Basic

/-!
The digits of a number stand for it, each is below the base, and the first of several is not zero; so
different numbers have different texts.
-/

namespace EngineClient.Numeral

theorem value_concat (base : Nat) (digits : List Nat) (digit : Nat) :
    value base (digits ++ [digit]) = value base digits * base + digit := by
  simp [value]

section Digits

variable {base : Nat} (wide : 2 ≤ base)
include wide

theorem div_le_of_le {fuel number : Nat} (bound : number ≤ fuel + 1) (large : base ≤ number) :
    number / base ≤ fuel := by
  have positive : 0 < number := by omega
  have smaller : number / base < number := Nat.div_lt_self positive wide
  omega

theorem value_digitsWithin {fuel number : Nat} (bound : number ≤ fuel) :
    value base (digitsWithin fuel base number) = number := by
  induction fuel generalizing number with
  | zero =>
    have zero : number = 0 := by omega
    simp [digitsWithin, value, zero]
  | succ fuel ih =>
    rw [digitsWithin]
    split
    · simp [value]
    · rename_i large
      rw [value_concat, ih (div_le_of_le wide bound (by omega)), Nat.mul_comm]
      exact Nat.div_add_mod number base

theorem digitsWithin_lt {fuel number : Nat} (bound : number ≤ fuel) :
    ∀ digit ∈ digitsWithin fuel base number, digit < base := by
  induction fuel generalizing number with
  | zero =>
    intro digit present
    have same : digit = number := by simpa [digitsWithin] using present
    omega
  | succ fuel ih =>
    rw [digitsWithin]
    split
    · intro digit present
      rw [List.mem_singleton.mp present]
      assumption
    · rename_i large
      intro digit present
      rcases List.mem_append.mp present with high | low
      · exact ih (div_le_of_le wide bound (by omega)) digit high
      · rw [List.mem_singleton.mp low]
        exact Nat.mod_lt number (by omega)

theorem head_digitsWithin {fuel number : Nat} (bound : number ≤ fuel) (positive : 0 < number) :
    ∃ digit rest, digitsWithin fuel base number = digit :: rest ∧ 0 < digit := by
  induction fuel generalizing number with
  | zero => omega
  | succ fuel ih =>
    rw [digitsWithin]
    split
    · exact ⟨number, [], rfl, positive⟩
    · rename_i large
      have high : 0 < number / base := Nat.div_pos (by omega) (by omega)
      obtain ⟨digit, rest, split, nonzero⟩ := ih (div_le_of_le wide bound (by omega)) high
      exact ⟨digit, rest ++ [number % base], by rw [split]; rfl, nonzero⟩

theorem value_digits (number : Nat) : value base (digits base number) = number :=
  value_digitsWithin wide (Nat.le_refl number)

theorem digits_inj {number other : Nat} (same : digits base number = digits base other) :
    number = other := by
  rw [← value_digits wide number, same, value_digits wide]

theorem digits_lt (number : Nat) : ∀ digit ∈ digits base number, digit < base :=
  digitsWithin_lt wide (Nat.le_refl number)

theorem head_digits {number : Nat} (positive : 0 < number) :
    ∃ digit rest, digits base number = digit :: rest ∧ 0 < digit :=
  head_digitsWithin wide (Nat.le_refl number) positive

end Digits

theorem toNat_digitChar {digit : Nat} (small : digit < 36) :
    (digitChar digit).toNat = if digit < 10 then 0x30 + digit else 0x57 + digit := by
  have checked : ∀ digit < 36,
      (digitChar digit).toNat = if digit < 10 then 0x30 + digit else 0x57 + digit := by decide
  exact checked digit small

def digitOf (c : Char) : Nat := if c.toNat < 0x57 then c.toNat - 0x30 else c.toNat - 0x57

theorem digitOf_digitChar {digit : Nat} (small : digit < 36) : digitOf (digitChar digit) = digit := by
  rw [digitOf, toNat_digitChar small]
  split_ifs <;> omega

theorem map_digitOf_text {base : Nat} (wide : 2 ≤ base) (narrow : base ≤ 36) (number : Nat) :
    (text base number).map digitOf = digits base number := by
  rw [text, List.map_map]
  have inverse : ∀ digit ∈ digits base number, (digitOf ∘ digitChar) digit = id digit := by
    intro digit present
    have small := digits_lt wide number digit present
    exact digitOf_digitChar (by omega)
  rw [List.map_congr_left inverse, List.map_id]

theorem text_injective {base : Nat} (wide : 2 ≤ base) (narrow : base ≤ 36) {first second : Nat}
    (same : text base first = text base second) : first = second := by
  have read := congrArg (List.map digitOf) same
  rw [map_digitOf_text wide narrow, map_digitOf_text wide narrow] at read
  exact digits_inj wide read

end EngineClient.Numeral
