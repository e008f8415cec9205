import EngineClient.Json.Scalar
import EngineClient.Proofs.Json.Strings

/-!
Integers read back as they are written, when nothing that could extend them follows.
-/

namespace EngineClient.Json

/-- Nothing that could extend a number comes first. -/
def Ends : Bytes → Prop
  | [] => True
  | octet :: _ => Octet.isDigit octet = false ∧ octet ≠ Octet.point ∧
      Octet.isExponentMark octet = false

variable {rest : Bytes} {positive : Bool}

theorem startsWith_of_ends (ends : Ends rest) : startsWith Octet.isDigit rest = false := by
  cases rest with
  | nil => rfl
  | cons octet rest => exact ends.1

theorem afterWhole_of_ends (ends : Ends rest) (significand : Nat) :
    afterWhole positive significand rest = .ok (whole positive significand, rest) := by
  cases rest with
  | nil => rfl
  | cons octet rest =>
    obtain ⟨-, no_point, no_mark⟩ := ends
    simp [afterWhole, no_point, no_mark]

theorem digitOctet_facts {digit : Nat} (small : digit < 10) :
    Octet.isDigit (digitOctet digit) = true ∧ Octet.digit (digitOctet digit) = digit ∧
      (digitOctet digit = Octet.zero → digit = 0) ∧
      Utf8.encodeChar (Numeral.digitChar digit) = [digitOctet digit] := by
  have checked : ∀ digit < 10, Octet.isDigit (digitOctet digit) = true ∧
      Octet.digit (digitOctet digit) = digit ∧ (digitOctet digit = Octet.zero → digit = 0) ∧
      Utf8.encodeChar (Numeral.digitChar digit) = [digitOctet digit] := by decide
  exact checked digit small

def continued (significand : Nat) (digits : List Nat) : Nat :=
  digits.foldl (fun total digit => total * 10 + digit) significand

theorem le_continued (significand : Nat) (digits : List Nat) :
    significand ≤ continued significand digits := by
  induction digits generalizing significand with
  | nil => exact Nat.le_refl _
  | cons digit digits ih =>
    have later := ih (significand * 10 + digit)
    have step : continued significand (digit :: digits) =
        continued (significand * 10 + digit) digits := rfl
    omega

theorem readWhole_digits (ends : Ends rest) {digits : List Nat}
    (small : ∀ digit ∈ digits, digit < 10) {significand : Nat}
    (bound : continued significand digits < 0x10000000000000000) :
    readWhole positive significand (digits.map digitOctet ++ rest) =
      .ok (whole positive (continued significand digits), rest) := by
  induction digits generalizing significand with
  | nil =>
    rw [List.map_nil, List.nil_append]
    cases rest with
    | nil => exact afterWhole_of_ends ends significand
    | cons octet rest =>
      rw [readWhole, if_neg (by simp [ends.1])]
      exact afterWhole_of_ends ends significand
  | cons digit digits ih =>
    obtain ⟨is_digit, value, -, -⟩ := digitOctet_facts (small digit List.mem_cons_self)
    have step : continued significand (digit :: digits) =
        continued (significand * 10 + digit) digits := rfl
    rw [step] at bound ⊢
    have fitting : fits significand (digitOctet digit) = true := by
      have below := le_continued (significand * 10 + digit) digits
      simp only [fits, value, decide_eq_true_eq]
      omega
    rw [List.map_cons, List.cons_append, readWhole, if_pos is_digit, if_pos fitting, value]
    exact ih (fun other later => small other (List.mem_cons_of_mem digit later)) bound

theorem encode_digits {digits : List Nat} (small : ∀ digit ∈ digits, digit < 10) :
    Utf8.encode (digits.map Numeral.digitChar) = digits.map digitOctet := by
  induction digits with
  | nil => rfl
  | cons digit digits ih =>
    obtain ⟨-, -, -, single⟩ := digitOctet_facts (small digit List.mem_cons_self)
    rw [List.map_cons, List.map_cons, Utf8.encode_cons, single,
      ih fun other later => small other (List.mem_cons_of_mem digit later)]
    rfl

theorem encode_decimal (number : Nat) : ∃ first others,
    Utf8.encode (Numeral.decimal number) = (first :: others).map digitOctet ∧
      (∀ digit ∈ first :: others, digit < 10) ∧ continued first others = number ∧
      (first = 0 → number = 0 ∧ others = []) := by
  have small := Numeral.digits_lt (by decide : 2 ≤ 10) number
  have value : continued 0 (Numeral.digits 10 number) = number :=
    Numeral.value_digits (by decide) number
  by_cases zero : number = 0
  · subst zero
    exact ⟨0, [], rfl, by decide, rfl, fun _ => ⟨rfl, rfl⟩⟩
  · obtain ⟨first, others, split, positive⟩ :=
      Numeral.head_digits (by decide : 2 ≤ 10) (Nat.pos_of_ne_zero zero)
    rw [split] at small value
    refine ⟨first, others, ?_, small, by simpa [continued] using value, by omega⟩
    rw [Numeral.decimal, Numeral.text, split, encode_digits small]

theorem readNumber_decimal (ends : Ends rest) {number : Nat}
    (bound : number < 0x10000000000000000) :
    readNumber positive (Utf8.encode (Numeral.decimal number) ++ rest) =
      .ok (whole positive number, rest) := by
  obtain ⟨first, others, written, small, value, leading⟩ := encode_decimal number
  obtain ⟨is_digit, digit, zero, -⟩ := digitOctet_facts (small first List.mem_cons_self)
  rw [written, List.map_cons, List.cons_append, readNumber]
  by_cases none_before : first = 0
  · obtain ⟨rfl, rfl⟩ := leading none_before
    subst none_before
    have is_zero : digitOctet 0 = Octet.zero := by decide
    rw [if_pos is_zero, List.map_nil, List.nil_append, startsWith_of_ends ends]
    exact afterWhole_of_ends ends 0
  · rw [if_neg (mt zero none_before), if_pos is_digit, digit, ← value]
    apply readWhole_digits ends
    · exact fun other later => small other (List.mem_cons_of_mem first later)
    · rw [value]
      exact bound

theorem whole_positive {number : Nat} (bound : number < 0x10000000000000000) (integer : Integer)
    (same : integer.value = number) : whole true number = .integer integer := by
  obtain ⟨value, within⟩ := integer
  subst same
  rw [whole, dif_pos ⟨rfl, bound⟩]

theorem whole_negative {number : Nat} (positive : 0 < number) (bound : number ≤ 0x8000000000000000)
    (integer : Integer) (same : integer.value = -(number : Int)) :
    whole false number = .integer integer := by
  obtain ⟨value, within⟩ := integer
  subst same
  rw [whole, dif_neg (by simp), dif_pos ⟨positive, bound⟩]

end EngineClient.Json
