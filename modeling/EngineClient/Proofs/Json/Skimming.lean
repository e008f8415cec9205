import EngineClient.Json.Skim
import EngineClient.Proofs.Json.Grammar

/-!
Every text of a value is passed over, whatever it is and however deep it nests. A string or a number that is
read ends where it would have ended if it were passed over.
-/

namespace EngineClient.Json

variable {rest : Bytes}

theorem skim_quote (rest : Bytes) : Skim.string (Octet.quote :: rest) = .ok rest := by
  rw [Skim.string.eq_def]
  rfl

theorem skim_plain {octet : UInt8} (plain : IsPlain octet) (rest : Bytes) :
    Skim.string (octet :: rest) = Skim.string rest := by
  obtain ⟨no_quote, no_backslash, no_control⟩ := plain
  rw [Skim.string.eq_def]
  simp only [no_quote, no_backslash, no_control, if_false]

theorem skim_single {letter : UInt8} (known : (escaped? letter).isSome = true) (rest : Bytes) :
    Skim.string (Octet.backslash :: letter :: rest) = Skim.string rest := by
  have no_quote : Octet.backslash ≠ Octet.quote := by decide
  have not_unit : letter ≠ Octet.letterU := by
    rintro rfl
    cases known
  rw [Skim.string.eq_def]
  simp only [no_quote, not_unit, known, if_true, if_false]

theorem skim_unit {a b c d : UInt8} (hexadecimal : (hexUnit? a b c d).isSome = true)
    (rest : Bytes) :
    Skim.string (Octet.backslash :: Octet.letterU :: a :: b :: c :: d :: rest) =
      Skim.string rest := by
  have no_quote : Octet.backslash ≠ Octet.quote := by decide
  rw [Skim.string.eq_def]
  simp only [no_quote, hexadecimal, if_true, if_false]

theorem skim_letters {letters : Bytes} (valid : IsLetters letters) (rest : Bytes) :
    Skim.string (letters ++ Octet.quote :: rest) = .ok rest := by
  induction valid with
  | none => exact skim_quote rest
  | plain plain later ih => exact (skim_plain plain _).trans ih
  | single known later ih => exact (skim_single known _).trans ih
  | unit hexadecimal later ih => exact (skim_unit hexadecimal _).trans ih

theorem prepend_eq_ok {bytes body : Bytes} {reading : Except Error (Bytes × Bytes)}
    (read : prepend bytes reading = .ok (body, rest)) : ∃ later, reading = .ok (later, rest) := by
  cases reading with
  | error fault => cases read
  | ok reading =>
    obtain ⟨later, behind⟩ := reading
    cases read
    exact ⟨later, rfl⟩

theorem skim_of_readBody {input body : Bytes} (read : readBody input = .ok (body, rest)) :
    Skim.string input = .ok rest := by
  fun_induction readBody input generalizing body with
  | case2 behind =>
    cases read
    exact skim_quote _
  | case9 a b c d first known _ _ e f g h behind second known' _ _ ih =>
    -- both halves of a surrogate pair
    obtain ⟨later, reading⟩ := prepend_eq_ok read
    rw [skim_unit (by rw [known]; rfl), skim_unit (by rw [known']; rfl)]
    exact ih reading
  | case14 a b c d behind unit known _ _ _ ih =>
    obtain ⟨later, reading⟩ := prepend_eq_ok read
    rw [skim_unit (by rw [known]; rfl)]
    exact ih reading
  | case16 letter behind _ plain known _ ih =>
    obtain ⟨later, reading⟩ := prepend_eq_ok read
    rw [skim_single (by rw [known]; rfl)]
    exact ih reading
  | case19 octet behind no_quote no_backslash no_control ih =>
    obtain ⟨later, reading⟩ := prepend_eq_ok read
    rw [skim_plain ⟨no_quote, no_backslash, no_control⟩]
    exact ih reading
  | _ => cases read

theorem skim_of_readString {input : Bytes} {text : String}
    (read : readString input = .ok (text, rest)) : Skim.string input = .ok rest := by
  rw [readString] at read
  cases reading : readBody input with
  | error fault =>
    rw [reading] at read
    cases read
  | ok result =>
    obtain ⟨body, behind⟩ := result
    simp only [reading, bind, Except.bind] at read
    split at read
    · cases read
      exact skim_of_readBody reading
    · cases read

theorem readString_stops {letters after : Bytes} {text : String} (valid : IsLetters letters)
    (read : readString (letters ++ Octet.quote :: rest) = .ok (text, after)) : after = rest := by
  have skimmed := skim_of_readString read
  rw [skim_letters valid] at skimmed
  cases skimmed
  rfl

theorem skipDigits_digits {digits : Bytes} (each : ∀ octet ∈ digits, Octet.isDigit octet = true)
    (stops : startsWith Octet.isDigit rest = false) : skipDigits (digits ++ rest) = rest := by
  rw [skipDigits, List.dropWhile_append_of_pos each]
  cases rest with
  | nil => rfl
  | cons octet rest => exact List.dropWhile_cons_of_neg (by simpa [startsWith] using stops)

theorem someDigits_digits {digits : Bytes} (is : IsDigits digits)
    (stops : startsWith Octet.isDigit rest = false) :
    Skim.someDigits (digits ++ rest) = .ok rest := by
  have begins : startsWith Octet.isDigit (digits ++ rest) = true := by
    obtain ⟨octet, others, rfl, digit, -⟩ := is.cons
    exact digit
  rw [Skim.someDigits, if_pos begins, skipDigits_digits is.2 stops]

theorem exponentSign_sign {sign digits : Bytes}
    (known : sign = [] ∨ sign = [Octet.plus] ∨ sign = [Octet.minus]) (is : IsDigits digits) :
    (exponentSign (sign ++ (digits ++ rest))).2 = digits ++ rest := by
  obtain rfl | rfl | rfl := known
  · obtain ⟨octet, others, rfl, digit, -⟩ := is.cons
    have no_plus : octet ≠ Octet.plus := by
      rintro rfl
      cases digit
    have no_minus : octet ≠ Octet.minus := by
      rintro rfl
      cases digit
    simp [exponentSign, no_plus, no_minus]
  · rfl
  · rfl

theorem mark_facts {mark : UInt8} (is : Octet.isExponentMark mark = true) :
    mark ≠ Octet.point ∧ Octet.isDigit mark = false := by
  have known : mark = 0x65 ∨ mark = 0x45 := by simpa [Octet.isExponentMark] using is
  obtain rfl | rfl := known <;> decide

theorem skim_exponent {exponent : Bytes} (is : IsExponent exponent) (ends : Ends rest) :
    Skim.optionalExponent (exponent ++ rest) = .ok rest := by
  obtain rfl | ⟨mark, sign, digits, rfl, marks, known, digits'⟩ := is
  · cases rest with
    | nil => rfl
    | cons octet rest =>
      rw [List.nil_append, Skim.optionalExponent, ends.2.2, if_neg Bool.false_ne_true]
  · rw [List.cons_append, List.append_assoc, Skim.optionalExponent, if_pos marks, Skim.exponent,
      exponentSign_sign known digits', someDigits_digits digits' (startsWith_of_ends ends)]

theorem startsWith_exponent {exponent : Bytes} (is : IsExponent exponent) (ends : Ends rest) :
    startsWith Octet.isDigit (exponent ++ rest) = false := by
  obtain rfl | ⟨mark, sign, digits, rfl, marks, -⟩ := is
  · exact startsWith_of_ends ends
  · exact (mark_facts marks).2

theorem skim_afterWhole {fraction exponent : Bytes} (fractional : IsFraction fraction)
    (exponential : IsExponent exponent) (ends : Ends rest) :
    Skim.afterWhole (fraction ++ (exponent ++ rest)) = .ok rest := by
  have skimmed := skim_exponent exponential ends
  obtain rfl | ⟨digits, rfl, digits'⟩ := fractional
  · -- the exponent comes next, or what ends the number, and neither begins with a point
    have no_point : ∀ octet tail, exponent ++ rest = octet :: tail → octet ≠ Octet.point := by
      rintro octet tail split rfl
      obtain rfl | ⟨mark, sign, digits, rfl, marks, -⟩ := exponential
      · rw [List.nil_append] at split
        rw [split] at ends
        exact ends.2.1 rfl
      · rw [List.cons_append, List.cons.injEq] at split
        exact (mark_facts marks).1 split.1
    rw [List.nil_append]
    cases split : exponent ++ rest with
    | nil =>
      rw [split] at skimmed
      exact skimmed
    | cons octet tail =>
      rw [Skim.afterWhole, if_neg (no_point octet tail split), ← split, skimmed]
  · rw [List.cons_append, Skim.afterWhole, if_pos rfl,
      someDigits_digits digits' (startsWith_exponent exponential ends)]
    exact skimmed

theorem skim_number {text : Bytes} (number : IsNumber text) (ends : Ends rest) :
    Skim.number (text ++ rest) = .ok rest := by
  obtain ⟨whole, fraction, exponent, rfl, integral, fractional, exponential⟩ := number
  have later := skim_afterWhole fractional exponential ends
  have stops : startsWith Octet.isDigit (fraction ++ (exponent ++ rest)) = false := by
    obtain rfl | ⟨digits, rfl, -⟩ := fractional
    · rw [List.nil_append]
      exact startsWith_exponent exponential ends
    · rfl
  rw [List.append_assoc, List.append_assoc]
  obtain rfl | ⟨digits, leading⟩ := integral
  · rw [List.singleton_append, Skim.number, if_pos rfl, stops]
    exact later
  · obtain ⟨octet, others, rfl, digit, each⟩ := digits.cons
    have not_zero : octet ≠ Octet.zero := fun same => leading (congrArg some same)
    rw [List.cons_append, Skim.number, if_neg not_zero, if_pos digit, skipDigits_digits each stops]
    exact later

theorem skipDigits_cons {octet : UInt8} (digit : Octet.isDigit octet = true) (input : Bytes) :
    skipDigits (octet :: input) = skipDigits input :=
  List.dropWhile_cons_of_pos digit

theorem skipDigits_other {octet : UInt8} (other : ¬ Octet.isDigit octet = true) (input : Bytes) :
    skipDigits (octet :: input) = octet :: input :=
  List.dropWhile_cons_of_neg other

section

variable {positive begun raises : Bool} {significand total : Nat} {exponent : Int}
variable {input : Bytes} {number : Number}

theorem rest_of_assemble (read : assemble positive significand exponent input = .ok (number, rest)) :
    rest = input := by
  rw [assemble] at read
  split at read
  · cases read
    rfl
  · cases read

theorem rest_of_readExponentDigits
    (read : readExponentDigits positive significand exponent raises total input = .ok (number, rest)) :
    rest = skipDigits input := by
  induction input generalizing total with
  | nil => exact rest_of_assemble read
  | cons octet input ih =>
    rw [readExponentDigits] at read
    split at read
    next digit =>
      rw [skipDigits_cons digit]
      split at read
      · split at read
        · cases read
        · cases read
          rfl
      · exact ih read
    next other =>
      rw [skipDigits_other other]
      exact rest_of_assemble read

theorem skim_of_readExponent (read : readExponent positive significand exponent input = .ok (number, rest)) :
    Skim.exponent input = .ok rest := by
  rw [readExponent] at read
  rw [Skim.exponent, Skim.someDigits]
  cases digits : (exponentSign input).2 with
  | nil => simp [digits] at read
  | cons octet later =>
    simp only [digits] at read
    split at read
    next digit =>
      rw [startsWith, if_pos digit, skipDigits_cons digit, rest_of_readExponentDigits read]
    · cases read

theorem skim_of_finish (read : finish positive significand exponent input = .ok (number, rest)) :
    Skim.optionalExponent input = .ok rest := by
  cases input with
  | nil => rw [rest_of_assemble read]; rfl
  | cons octet input =>
    rw [finish] at read
    rw [Skim.optionalExponent]
    split at read
    next mark => rw [if_pos mark, skim_of_readExponent read]
    next other => rw [if_neg other, rest_of_assemble read]

theorem skim_of_readFraction
    (read : readFraction positive significand exponent begun input = .ok (number, rest)) :
    Skim.optionalExponent (skipDigits input) = .ok rest ∧
      (begun = true ∨ startsWith Octet.isDigit input = true) := by
  induction input generalizing significand exponent begun with
  | nil =>
    rw [readFraction] at read
    split at read
    next begun => exact ⟨skim_of_finish read, .inl begun⟩
    · cases read
  | cons octet input ih =>
    rw [readFraction] at read
    split at read
    next digit =>
      rw [skipDigits_cons digit]
      refine ⟨?_, .inr digit⟩
      split at read
      · exact (ih read).1
      · exact skim_of_finish read
    next other =>
      rw [skipDigits_other other]
      split at read
      next begun => exact ⟨skim_of_finish read, .inl begun⟩
      · cases read

theorem skim_of_fraction
    (read : readFraction positive significand exponent false input = .ok (number, rest)) :
    (Skim.someDigits input >>= Skim.optionalExponent) = .ok rest := by
  obtain ⟨skimmed, begins⟩ := skim_of_readFraction read
  rw [Skim.someDigits, if_pos (begins.resolve_left Bool.false_ne_true)]
  exact skimmed

theorem skim_of_afterWhole (read : afterWhole positive significand input = .ok (number, rest)) :
    Skim.afterWhole input = .ok rest := by
  cases input with
  | nil =>
    cases read
    rfl
  | cons octet input =>
    rw [afterWhole] at read
    rw [Skim.afterWhole]
    split at read
    next point => rw [if_pos point, skim_of_fraction read]
    next other =>
      rw [if_neg other, Skim.optionalExponent]
      split at read
      next mark => rw [if_pos mark, skim_of_readExponent read]
      next plain =>
        cases read
        rw [if_neg plain]

theorem skim_of_readExcess (read : readExcess positive significand exponent input = .ok (number, rest)) :
    Skim.afterWhole (skipDigits input) = .ok rest := by
  induction input generalizing exponent with
  | nil => exact skim_of_finish read
  | cons octet input ih =>
    rw [readExcess] at read
    split at read
    next digit =>
      rw [skipDigits_cons digit]
      exact ih read
    next other =>
      rw [skipDigits_other other, Skim.afterWhole]
      split at read
      next point => rw [if_pos point, skim_of_fraction read]
      next plain => rw [if_neg plain, skim_of_finish read]

theorem skim_of_readWhole (read : readWhole positive significand input = .ok (number, rest)) :
    Skim.afterWhole (skipDigits input) = .ok rest := by
  induction input generalizing significand with
  | nil => exact skim_of_afterWhole read
  | cons octet input ih =>
    rw [readWhole] at read
    split at read
    next digit =>
      rw [skipDigits_cons digit]
      split at read
      · exact ih read
      · exact skim_of_readExcess read
    next other =>
      rw [skipDigits_other other]
      exact skim_of_afterWhole read

theorem skim_of_readNumber (read : readNumber positive input = .ok (number, rest)) :
    Skim.number input = .ok rest := by
  cases input with
  | nil => cases read
  | cons octet input =>
    rw [readNumber] at read
    rw [Skim.number]
    split at read
    next zero =>
      split at read
      · cases read
      next stops =>
        rw [if_pos zero, if_neg stops]
        exact skim_of_afterWhole read
    next other =>
      split at read
      next digit =>
        rw [if_neg other, if_pos digit]
        exact skim_of_readWhole read
      · cases read

theorem readNumber_stops {text after : Bytes} (valid : IsNumber text) (ends : Ends rest)
    (read : readNumber positive (text ++ rest) = .ok (number, after)) : after = rest := by
  have skimmed := skim_of_readNumber read
  rw [skim_number valid ends] at skimmed
  cases skimmed
  rfl

end

namespace Skim

variable {nest : Nest} {text : Bytes} {pieces : List Bytes}

theorem run_value_gap (fuel : Nat) (nests : List Nest) (gap : Gap) (input : Bytes) :
    run fuel .value nests (gap.val ++ input) = run fuel .value nests input := by
  cases fuel with
  | zero => rfl
  | succ fuel => rw [run, run, skipBlanks_gap]

theorem run_after_gap (fuel : Nat) (comma : Bool) (nests : List Nest) (gap : Gap) (input : Bytes) :
    run fuel (.after comma) (nest :: nests) (gap.val ++ input) =
      run fuel (.after comma) (nest :: nests) input := by
  cases fuel with
  | zero => rfl
  | succ fuel => rw [run, run, skipBlanks_gap]

/-- In front of any rest the text is passed over, in two rounds a byte at most. -/
def Passes (text : Bytes) : Prop :=
  ∃ cost, cost + 1 ≤ 2 * text.length ∧ ∀ fuel nests rest, Ends rest →
    run (fuel + cost) .value nests (text ++ rest) = run fuel (.after true) nests rest

inductive Entry (nest : Nest) : Bytes → Prop
  | mk (before : Gap) {octet : UInt8} {tail : Bytes} {cost : Nat} (solid : isBlank octet = false)
      (inside : octet ≠ nest.close) (cheap : cost + 1 ≤ 2 * (octet :: tail).length)
      (passes : ∀ fuel nests rest, Ends rest →
        (nest.entry (octet :: tail ++ rest) >>= run (fuel + cost) .value (nest :: nests)) =
          run fuel (.after true) (nest :: nests) rest) :
      Entry nest (before.val ++ octet :: tail)

theorem entry_gap (fuel : Nat) (nest : Nest) (nests : List Nest) (gap : Gap) (input : Bytes) :
    (nest.entry (gap.val ++ input) >>= run fuel .value nests) =
      (nest.entry input >>= run fuel .value nests) := by
  cases nest with
  | list => exact run_value_gap fuel nests gap input
  | object => rw [Nest.entry, Nest.entry, skipBlanks_gap]

theorem close_facts (nest : Nest) : isBlank nest.close = false ∧ nest.close ≠ Octet.comma ∧
    ∀ rest, Ends (nest.close :: rest) := by
  cases nest with
  | list => exact ⟨by decide, by decide, ends_closeList⟩
  | object => exact ⟨by decide, by decide, ends_closeObject⟩

theorem run_later (entries : ∀ text ∈ pieces, Entry nest text) :
    ∃ cost, cost ≤ 2 * (pieces.flatMap (Octet.comma :: ·)).length + 1 ∧ ∀ fuel nests rest,
      run (fuel + cost) (.after true) (nest :: nests)
        (pieces.flatMap (Octet.comma :: ·) ++ nest.close :: rest) =
        run fuel (.after true) nests rest := by
  obtain ⟨solid, no_comma, ends⟩ := close_facts nest
  induction pieces with
  | nil =>
    refine ⟨1, Nat.le_refl _, fun fuel nests rest => ?_⟩
    rw [List.flatMap_nil, List.nil_append, run, skipBlanks_solid solid]
    simp [no_comma]
  | cons piece pieces ih =>
    -- the comma takes a round, in which the piece is entered too
    obtain ⟨later, few, passed⟩ := ih fun text present =>
      entries text (List.mem_cons_of_mem piece present)
    obtain ⟨before, -, -, cheap, passes⟩ := entries _ List.mem_cons_self
    rename_i octet tail cost
    refine ⟨later + cost + 1, ?_, fun fuel nests rest => ?_⟩
    · simp only [List.flatMap_cons, List.length_append, List.length_cons] at few cheap ⊢
      omega
    · have steps : fuel + (later + cost + 1) = fuel + later + cost + 1 := by omega
      rw [List.flatMap_cons, List.append_assoc, List.cons_append, steps, run,
        skipBlanks_solid (by decide)]
      dsimp only
      rw [if_pos ⟨rfl, rfl⟩, List.append_assoc, entry_gap,
        passes _ _ _ (ends_later pieces (ends rest))]
      exact passed fuel nests rest

theorem run_joined (entries : ∀ text ∈ pieces, Entry nest text) (lead : Gap) :
    ∃ cost, cost ≤ 2 * (joined pieces).length + 1 ∧ ∀ fuel nests rest,
      run (fuel + cost) (.after false) (nest :: nests)
        (lead.val ++ (joined pieces ++ nest.close :: rest)) = run fuel (.after true) nests rest := by
  obtain ⟨solid, no_comma, ends⟩ := close_facts nest
  cases pieces with
  | nil =>
    refine ⟨1, Nat.le_refl _, fun fuel nests rest => ?_⟩
    rw [run_after_gap, joined, List.nil_append, run, skipBlanks_solid solid]
    simp
  | cons piece pieces =>
    obtain ⟨later, few, passed⟩ := run_later fun text present =>
      entries text (List.mem_cons_of_mem piece present)
    obtain ⟨before, solid, inside, cheap, passes⟩ := entries _ List.mem_cons_self
    rename_i octet tail cost
    refine ⟨later + cost + 1, ?_, fun fuel nests rest => ?_⟩
    · simp only [joined, List.length_append, List.length_cons] at few cheap ⊢
      omega
    · have steps : fuel + (later + cost + 1) = fuel + later + cost + 1 := by omega
      have entered := passes (fuel + later) nests _ (ends_later pieces (ends rest))
      rw [run_after_gap, joined, List.append_assoc, List.append_assoc, run_after_gap, steps,
        List.cons_append, run, skipBlanks_solid solid]
      simp only [Bool.false_eq_true, false_and, if_false, inside]
      rw [← List.cons_append, entered]
      exact passed fuel nests rest

theorem passes_scalar {octet : UInt8} {tail : Bytes} (solid : isBlank octet = false)
    (no_list : octet ≠ Octet.openList) (no_object : octet ≠ Octet.openObject)
    (skimmed : ∀ rest, Ends rest → scalar octet (tail ++ rest) = .ok rest) :
    Passes (octet :: tail) := by
  refine ⟨1, Nat.le_add_left _ _, fun fuel nests rest ends => ?_⟩
  rw [List.cons_append, run, skipBlanks_solid solid]
  dsimp only
  rw [if_neg no_list, if_neg no_object, skimmed rest ends]
  rfl

theorem passes_word {letter : UInt8} {letters : Bytes}
    (word : letter :: letters ∈ [nullText, trueText, falseText]) : Passes (letter :: letters) := by
  have letters_read : ∀ letters rest, readLetters letters (letters ++ rest) = .ok rest := by
    intro letters rest
    induction letters with
    | nil => cases rest <;> rfl
    | cons letter letters ih => rw [List.cons_append, readLetters, if_pos rfl, ih]
  simp only [nullText, trueText, falseText, List.mem_cons, List.not_mem_nil, or_false,
    List.cons.injEq] at word
  obtain ⟨rfl, rfl⟩ | ⟨rfl, rfl⟩ | ⟨rfl, rfl⟩ := word
  · exact passes_scalar (by decide) (by decide) (by decide) fun rest _ => letters_read _ rest
  · exact passes_scalar (by decide) (by decide) (by decide) fun rest _ => letters_read _ rest
  · exact passes_scalar (by decide) (by decide) (by decide) fun rest _ => letters_read _ rest

theorem passes_number (number : IsNumber text) : Passes text := by
  obtain ⟨octet, tail, rfl, digit⟩ := number.cons
  obtain ⟨solid, -, no_n, no_t, no_f, no_minus, -, no_list, no_object⟩ := digit_facts digit
  refine passes_scalar solid no_list no_object fun rest ends => ?_
  rw [scalar, if_neg no_n, if_neg no_t, if_neg no_f, if_neg no_minus, if_pos digit]
  exact skim_number number ends

theorem passes_negative (number : IsNumber text) : Passes (Octet.minus :: text) :=
  passes_scalar (by decide) (by decide) (by decide) fun _ ends => skim_number number ends

theorem passes_quoted {letters : Bytes} (valid : IsLetters letters) : Passes (quoted letters) := by
  refine passes_scalar (by decide) (by decide) (by decide) fun rest _ => ?_
  rw [List.append_assoc]
  exact skim_letters valid rest

theorem entry_item {item : Item} (begins : Begins item.value) (passes : Passes item.value) :
    Entry .list item.text := by
  obtain ⟨octet, tail, text, solid, inside⟩ := begins
  obtain ⟨cost, few, passed⟩ := passes
  have split : item.text = item.before.val ++ octet :: (tail ++ item.behind.val) := by
    rw [Item.text, text]
    rfl
  have cheap : cost + 1 ≤ 2 * (octet :: (tail ++ item.behind.val)).length := by
    rw [text] at few
    simp only [List.length_cons, List.length_append] at few ⊢
    omega
  rw [split]
  refine .mk item.before solid inside cheap fun fuel nests rest ends => ?_
  have read := passed fuel (.list :: nests) _ (ends_gap item.behind ends)
  rw [run_after_gap, text, ← List.append_assoc] at read
  exact read

theorem entry_member {member : Member} (valid : IsLetters member.letters)
    (passes : Passes member.item.value) : Entry .object member.text := by
  obtain ⟨cost, few, passed⟩ := passes
  have cheap : cost + 1 ≤ 2 * (quoted member.letters ++
      (member.pause.val ++ Octet.colon :: member.item.text)).length := by
    simp only [Item.text, List.length_cons, List.length_append]
    omega
  refine .mk member.before (by decide) (by decide) cheap fun fuel nests rest ends => ?_
  have read := passed fuel (.object :: nests) _ (ends_gap member.item.behind ends)
  have entered : Nest.entry .object (quoted member.letters ++
      (member.pause.val ++ Octet.colon :: member.item.text) ++ rest) =
      .ok (member.item.text ++ rest) := by
    rw [quoted, List.cons_append, List.cons_append, Nest.entry, skipBlanks_solid (by decide)]
    simp only [if_true, List.append_assoc, List.cons_append, List.nil_append, skim_letters valid]
    exact colon_gap member.pause _
  rw [run_after_gap, ← run_value_gap _ _ member.item.before] at read
  refine Eq.trans (congrArg (· >>= run (fuel + cost) .value (.object :: nests)) entered) ?_
  simp only [Item.text, List.append_assoc]
  exact read

theorem passes_container {opening : UInt8} (opens : ∀ fuel nests input,
    run (fuel + 1) .value nests (opening :: input) = run fuel (.after false) (nest :: nests) input)
    (entries : ∀ text ∈ pieces, Entry nest text) (lead : Gap) :
    Passes (opening :: (lead.val ++ (joined pieces ++ [nest.close]))) := by
  obtain ⟨cost, few, passed⟩ := run_joined entries lead
  refine ⟨cost + 1, ?_, fun fuel nests rest _ => ?_⟩
  · simp only [List.length_cons, List.length_append, List.length_nil]
    omega
  · have read := passed fuel nests rest
    rw [List.cons_append, ← Nat.add_assoc, opens, List.append_assoc, List.append_assoc]
    exact read

theorem run_openList (fuel : Nat) (nests : List Nest) (input : Bytes) :
    run (fuel + 1) .value nests (Octet.openList :: input) =
      run fuel (.after false) (.list :: nests) input := by
  rw [run, skipBlanks_solid (by decide)]
  exact if_pos rfl

theorem run_openObject (fuel : Nat) (nests : List Nest) (input : Bytes) :
    run (fuel + 1) .value nests (Octet.openObject :: input) =
      run fuel (.after false) (.object :: nests) input := by
  rw [run, skipBlanks_solid (by decide)]
  exact (if_neg (by decide)).trans (if_pos rfl)

theorem passes_value (valid : IsValue text) : Passes text := by
  induction valid with
  | null => exact passes_word (by decide)
  | true => exact passes_word (by decide)
  | false => exact passes_word (by decide)
  | number number => exact passes_number number
  | negative number => exact passes_negative number
  | string valid => exact passes_quoted valid
  | list lead each ih =>
    refine passes_container run_openList (fun text present => ?_) lead
    obtain ⟨item, among, rfl⟩ := List.mem_map.mp present
    exact entry_item (begins_value (each item among)) (ih item among)
  | object lead keyed each ih =>
    refine passes_container run_openObject (fun text present => ?_) lead
    obtain ⟨member, among, rfl⟩ := List.mem_map.mp present
    exact entry_member (keyed member among) (ih member among)

end Skim

/-- Behind blanks, the whole text of a value is passed over and nothing else. -/
theorem skim_value {text : Bytes} (valid : IsValue text) (lead : Gap) (ends : Ends rest) :
    Skim.value (lead.val ++ (text ++ rest)) = .ok rest := by
  obtain ⟨cost, few, passed⟩ := Skim.passes_value valid
  -- two rounds a byte are at hand, and one more to see the end
  obtain ⟨fuel, enough⟩ : ∃ fuel,
      2 * (lead.val ++ (text ++ rest)).length + 2 = fuel + 1 + cost := by
    refine ⟨2 * (lead.val ++ (text ++ rest)).length + 1 - cost, ?_⟩
    simp only [List.length_append]
    omega
  rw [Skim.value, enough, Skim.run_value_gap, passed _ _ _ ends]
  rfl

end EngineClient.Json
