import EngineClient.Proofs.Json.Numbers

/-!
The texts of JSON values, with blanks between their tokens, told by how they are put together and not by how
they are read.
-/

namespace EngineClient.Json

/-- Blanks that may stand between two tokens. -/
abbrev Gap := { blanks : Bytes // ∀ octet ∈ blanks, isBlank octet = true }

def Gap.none : Gap := ⟨[], List.forall_mem_nil _⟩

inductive IsLetters : Bytes → Prop
  | none : IsLetters []
  | plain {octet : UInt8} {letters : Bytes} (plain : IsPlain octet) (later : IsLetters letters) :
      IsLetters (octet :: letters)
  | single {letter : UInt8} {letters : Bytes} (known : (escaped? letter).isSome = true)
      (later : IsLetters letters) : IsLetters (Octet.backslash :: letter :: letters)
  | unit {a b c d : UInt8} {letters : Bytes} (hexadecimal : (hexUnit? a b c d).isSome = true)
      (later : IsLetters letters) :
      IsLetters (Octet.backslash :: Octet.letterU :: a :: b :: c :: d :: letters)

def IsDigits (digits : Bytes) : Prop :=
  digits ≠ [] ∧ ∀ octet ∈ digits, Octet.isDigit octet = true

/-- The digits before the point: a zero stands alone. -/
def IsWhole (digits : Bytes) : Prop :=
  digits = [Octet.zero] ∨ IsDigits digits ∧ digits.head? ≠ some Octet.zero

def IsFraction (text : Bytes) : Prop :=
  text = [] ∨ ∃ digits, text = Octet.point :: digits ∧ IsDigits digits

def IsExponent (text : Bytes) : Prop :=
  text = [] ∨ ∃ mark sign digits, text = mark :: (sign ++ digits) ∧
    Octet.isExponentMark mark = true ∧
    (sign = [] ∨ sign = [Octet.plus] ∨ sign = [Octet.minus]) ∧ IsDigits digits

def IsNumber (text : Bytes) : Prop :=
  ∃ whole fraction exponent, text = whole ++ (fraction ++ exponent) ∧
    IsWhole whole ∧ IsFraction fraction ∧ IsExponent exponent

structure Item where
  before : Gap
  value : Bytes
  behind : Gap

def Item.text (item : Item) : Bytes := item.before.val ++ (item.value ++ item.behind.val)

structure Member where
  before : Gap
  letters : Bytes
  pause : Gap
  item : Item

def quoted (letters : Bytes) : Bytes := Octet.quote :: (letters ++ [Octet.quote])

def Member.text (member : Member) : Bytes :=
  member.before.val ++ (quoted member.letters ++
    (member.pause.val ++ Octet.colon :: member.item.text))

def joined : List Bytes → Bytes
  | [] => []
  | piece :: pieces => piece ++ pieces.flatMap (Octet.comma :: ·)

def listText (lead : Gap) (items : List Item) : Bytes :=
  Octet.openList :: (lead.val ++ (joined (items.map Item.text) ++ [Octet.closeList]))

def objectText (lead : Gap) (members : List Member) : Bytes :=
  Octet.openObject :: (lead.val ++ (joined (members.map Member.text) ++ [Octet.closeObject]))

def nullText : Bytes := Octet.letterN :: afterN

def trueText : Bytes := Octet.letterT :: afterT

def falseText : Bytes := Octet.letterF :: afterF

/-- The text of a value, whatever it is and however deep it nests. -/
inductive IsValue : Bytes → Prop
  | null : IsValue nullText
  | true : IsValue trueText
  | false : IsValue falseText
  | number {text : Bytes} (number : IsNumber text) : IsValue text
  | negative {text : Bytes} (number : IsNumber text) : IsValue (Octet.minus :: text)
  | string {letters : Bytes} (valid : IsLetters letters) : IsValue (quoted letters)
  | list (lead : Gap) {items : List Item} (each : ∀ item ∈ items, IsValue item.value) :
      IsValue (listText lead items)
  | object (lead : Gap) {members : List Member}
      (keyed : ∀ member ∈ members, IsLetters member.letters)
      (each : ∀ member ∈ members, IsValue member.item.value) : IsValue (objectText lead members)

theorem listText_append (lead : Gap) (items : List Item) (rest : Bytes) :
    listText lead items ++ rest = Octet.openList ::
      (lead.val ++ (joined (items.map Item.text) ++ Octet.closeList :: rest)) := by
  simp [listText]

theorem objectText_append (lead : Gap) (members : List Member) (rest : Bytes) :
    objectText lead members ++ rest = Octet.openObject ::
      (lead.val ++ (joined (members.map Member.text) ++ Octet.closeObject :: rest)) := by
  simp [objectText]

theorem quoted_append (letters rest : Bytes) :
    quoted letters ++ rest = Octet.quote :: (letters ++ Octet.quote :: rest) := by
  simp [quoted]

theorem skipBlanks_solid {octet : UInt8} (solid : isBlank octet = false) (rest : Bytes) :
    skipBlanks (octet :: rest) = octet :: rest := by
  simp [skipBlanks, solid]

/-- The first byte of a value: no blank, no closing bracket. -/
def Begins (text : Bytes) : Prop :=
  ∃ octet tail, text = octet :: tail ∧ isBlank octet = false ∧ octet ≠ Octet.closeList

theorem skipBlanks_gap (gap : Gap) (rest : Bytes) : skipBlanks (gap.val ++ rest) = skipBlanks rest :=
  List.dropWhile_append_of_pos gap.property

theorem ends_of_blank {octet : UInt8} (blank : isBlank octet = true) (rest : Bytes) :
    Ends (octet :: rest) := by
  have known : octet = Octet.space ∨ octet = Octet.lineFeed ∨ octet = Octet.tab ∨
      octet = Octet.carriageReturn := by
    simpa [isBlank, or_assoc] using blank
  obtain rfl | rfl | rfl | rfl := known <;> exact ⟨by decide, by decide, by decide⟩

theorem ends_gap (gap : Gap) {rest : Bytes} (ends : Ends rest) : Ends (gap.val ++ rest) := by
  obtain ⟨blanks, blank⟩ := gap
  cases blanks with
  | nil => exact ends
  | cons octet blanks => exact ends_of_blank (blank octet List.mem_cons_self) _

theorem ends_comma (rest : Bytes) : Ends (Octet.comma :: rest) :=
  ⟨by decide, by decide, by decide⟩

theorem ends_closeList (rest : Bytes) : Ends (Octet.closeList :: rest) :=
  ⟨by decide, by decide, by decide⟩

theorem ends_closeObject (rest : Bytes) : Ends (Octet.closeObject :: rest) :=
  ⟨by decide, by decide, by decide⟩

theorem ends_later (pieces : List Bytes) {rest : Bytes} (ends : Ends rest) :
    Ends (pieces.flatMap (Octet.comma :: ·) ++ rest) := by
  cases pieces with
  | nil => exact ends
  | cons piece pieces => exact ends_comma _

theorem digit_facts {octet : UInt8} (digit : Octet.isDigit octet = true) :
    isBlank octet = false ∧ octet ≠ Octet.closeList ∧ octet ≠ Octet.letterN ∧
      octet ≠ Octet.letterT ∧ octet ≠ Octet.letterF ∧ octet ≠ Octet.minus ∧ octet ≠ Octet.quote ∧
      octet ≠ Octet.openList ∧ octet ≠ Octet.openObject := by
  have known : ∀ other, Octet.isDigit other = false → octet ≠ other := by
    rintro other none rfl
    cases digit.symm.trans none
  refine ⟨?_, known _ rfl, known _ rfl, known _ rfl, known _ rfl, known _ rfl, known _ rfl,
    known _ rfl, known _ rfl⟩
  simp [isBlank, known Octet.space rfl, known Octet.lineFeed rfl, known Octet.tab rfl,
    known Octet.carriageReturn rfl]

theorem IsDigits.cons {digits : Bytes} (is : IsDigits digits) : ∃ octet others,
    digits = octet :: others ∧ Octet.isDigit octet = true ∧
      ∀ other ∈ others, Octet.isDigit other = true := by
  obtain ⟨octet, others, rfl⟩ := List.exists_cons_of_ne_nil is.1
  obtain ⟨digit, each⟩ := List.forall_mem_cons.mp is.2
  exact ⟨octet, others, rfl, digit, each⟩

theorem IsNumber.cons {text : Bytes} (number : IsNumber text) :
    ∃ octet tail, text = octet :: tail ∧ Octet.isDigit octet = true := by
  obtain ⟨whole, fraction, exponent, rfl, rfl | ⟨digits, -⟩, -⟩ := number
  · exact ⟨Octet.zero, _, rfl, by decide⟩
  · obtain ⟨octet, others, rfl, digit, -⟩ := digits.cons
    exact ⟨octet, _, rfl, digit⟩

theorem begins_value {text : Bytes} (valid : IsValue text) : Begins text := by
  cases valid with
  | number number =>
    obtain ⟨octet, tail, rfl, digit⟩ := number.cons
    obtain ⟨solid, inside, -⟩ := digit_facts digit
    exact ⟨octet, tail, rfl, solid, inside⟩
  | _ => exact ⟨_, _, rfl, by decide, by decide⟩

theorem value_cases {text : Bytes} (valid : IsValue text) :
    text = nullText ∨ (∃ letters, text = quoted letters ∧ IsLetters letters) ∨
      (∃ lead members, text = objectText lead members ∧
        (∀ member ∈ members, IsLetters member.letters) ∧
        ∀ member ∈ members, IsValue member.item.value) ∨
      ∃ octet tail, text = octet :: tail ∧ isBlank octet = false ∧ octet ≠ Octet.letterN ∧
        octet ≠ Octet.quote ∧ octet ≠ Octet.openObject := by
  cases valid with
  | null => exact .inl rfl
  | string valid => exact .inr (.inl ⟨_, rfl, valid⟩)
  | object lead keyed each => exact .inr (.inr (.inl ⟨lead, _, rfl, keyed, each⟩))
  | number number =>
    obtain ⟨octet, tail, rfl, digit⟩ := number.cons
    obtain ⟨solid, -, no_word, -, -, -, no_quote, -, no_object⟩ := digit_facts digit
    exact .inr (.inr (.inr ⟨octet, tail, rfl, solid, no_word, no_quote, no_object⟩))
  | _ => exact .inr (.inr (.inr ⟨_, _, rfl, by decide, by decide, by decide, by decide⟩))

theorem colon_gap (pause : Gap) (rest : Bytes) :
    colon (pause.val ++ Octet.colon :: rest) = .ok rest := by
  rw [colon, skipBlanks_gap, skipBlanks_solid (by decide)]
  simp

theorem colon_colon (rest : Bytes) : colon (Octet.colon :: rest) = .ok rest :=
  colon_gap Gap.none rest

end EngineClient.Json
