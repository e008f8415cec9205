import EngineClient.Message.Inbound
import EngineClient.Proofs.Json.Spelling

/-!
All spellings of a response are read alike: its members in any order and under either of their names, with
members of other names between them. A response that gives a field twice is refused.
-/

namespace EngineClient

open Json (Gap Member IsValue IsLetters Spells Denotes Reads Stops Skips Chain Leads Led)

inductive Response.Field where
  | id
  | status
  | kind
  | content
  | error
  deriving DecidableEq, Repr

namespace Response

open Json.Member (tail)

def Field.names : Field → List String
  | .id => ["id"]
  | .status => ["status"]
  | .kind => ["kind", "header"]
  | .content => ["content", "body"]
  | .error => ["error"]

/-- The key of the member, however it is spelled, is a name of the field. -/
def Names (one : Member) (field : Field) : Prop :=
  ∃ name ∈ field.names, Spells one.letters name.toList

/-- The key of the member is the name of no field. -/
def Foreign (one : Member) : Prop :=
  ∃ name : String, Spells one.letters name.toList ∧ ∀ field : Field, name ∉ field.names

theorem field_unique {name : String} {first second : Field} (named : name ∈ first.names)
    (again : name ∈ second.names) : first = second := by
  have distinct : ∀ first second : Field, ∀ name ∈ first.names, name ∈ second.names →
      first = second := by
    intro first second
    cases first <;> cases second <;> decide
  exact distinct first second name named again

theorem names_iff {one : Member} {name : String} (spelled : Spells one.letters name.toList)
    {field : Field} : Names one field ↔ name ∈ field.names := by
  refine ⟨?_, fun named => ⟨name, named, spelled⟩⟩
  rintro ⟨other, named, again⟩
  exact spelled.unique again ▸ named

theorem Names.unique {one : Member} {first second : Field} (names : Names one first)
    (again : Names one second) : first = second := by
  obtain ⟨name, named, spelled⟩ := names
  obtain ⟨other, named', spelled'⟩ := again
  exact field_unique named (spelled.unique spelled' ▸ named')

theorem Foreign.not_names {one : Member} (foreign : Foreign one) (field : Field) :
    ¬ Names one field := by
  rintro ⟨name, named, spelled⟩
  obtain ⟨other, spelled', unknown⟩ := foreign
  exact unknown field (spelled.unique spelled' ▸ named)

inductive ShowsString : Option String → Bytes → Prop
  | none : ShowsString none Json.nullText
  | some {letters : Bytes} {text : String} (spelled : Spells letters text.toList) :
      ShowsString (some text) (Json.quoted letters)

/-- The name of a status, or an object with the name as key of no value. -/
inductive ShowsStatus (status : Status) : Bytes → Prop
  | name {letters : Bytes} (spelled : Spells letters status.text.toList) :
      ShowsStatus status (Json.quoted letters)
  | object (lead : Gap) (one : Member) (spelled : Spells one.letters status.text.toList)
      (nothing : one.item.value = Json.nullText) :
      ShowsStatus status (Json.objectText lead [one])

/-- A value inside the object, or the word for none. -/
inductive ShowsContent : Option Json → Bytes → Prop
  | none : ShowsContent none Json.nullText
  | some {text : Bytes} {json : Json} (denotes : Denotes (Json.deepest - 1) text json)
      (shown : json ≠ .null) : ShowsContent (some json) text

def Shows (response : Response) : Field → Bytes → Prop
  | .id => ShowsString response.id
  | .status => ShowsStatus response.status
  | .kind => ShowsString response.kind
  | .content => ShowsContent response.content
  | .error => ShowsString response.error

/-- The field is not left out of the response. -/
def Has (response : Response) : Field → Prop
  | .id => response.id ≠ none
  | .status => True
  | .kind => response.kind ≠ none
  | .content => response.content ≠ none
  | .error => response.error ≠ none

/-- The members of an object that spells a response: each shows a field of it or is foreign, no field is given
twice, and what the response has is given. -/
structure Spelled (response : Response) (members : List Member) : Prop where
  each : ∀ one ∈ members, (∃ field, Names one field ∧ response.Shows field one.item.value) ∨
    Foreign one ∧ IsValue one.item.value
  once : members.Pairwise fun first second => ∀ field, Names first field → ¬ Names second field
  complete : ∀ field, response.Has field → ∃ one ∈ members, Names one field

def readField (levels : Nat) (slots : Slots) (field : Field) (input : Bytes) :
    Except Json.Error (Slots × Bytes) :=
  match field with
  | .id => do
    let (value, rest) ← Json.once "id" slots.id Json.readOptionalString input
    return ({ slots with id := value }, rest)
  | .status => do
    let (value, rest) ← Json.once "status" slots.status (readStatus levels) input
    return ({ slots with status := value }, rest)
  | .kind => do
    let (value, rest) ← Json.once "kind" slots.kind Json.readOptionalString input
    return ({ slots with kind := value }, rest)
  | .content => do
    let (value, rest) ←
      Json.once "content" slots.content (Json.readOptional (Json.readValue levels)) input
    return ({ slots with content := value }, rest)
  | .error => do
    let (value, rest) ← Json.once "error" slots.error Json.readOptionalString input
    return ({ slots with error := value }, rest)

variable {levels : Nat} {slots : Slots}

theorem readMember_named {name : String} {field : Field} (named : name ∈ field.names)
    (input : Bytes) : readMember levels slots name input = readField levels slots field input := by
  cases field with
  | id =>
    obtain rfl := List.mem_singleton.mp named
    rw [readMember, if_pos rfl]
    rfl
  | status =>
    obtain rfl := List.mem_singleton.mp named
    rw [readMember, if_neg (by decide), if_pos rfl]
    rfl
  | kind =>
    have known : name = "kind" ∨ name = "header" := by simpa [Field.names] using named
    have others : name ≠ "id" ∧ name ≠ "status" := by
      obtain rfl | rfl := known <;> decide
    rw [readMember, if_neg others.1, if_neg others.2, if_pos known]
    rfl
  | content =>
    have known : name = "content" ∨ name = "body" := by simpa [Field.names] using named
    have others : name ≠ "id" ∧ name ≠ "status" ∧ ¬ (name = "kind" ∨ name = "header") := by
      obtain rfl | rfl := known <;> decide
    rw [readMember, if_neg others.1, if_neg others.2.1, if_neg others.2.2, if_pos known]
    rfl
  | error =>
    obtain rfl := List.mem_singleton.mp named
    rw [readMember, if_neg (by decide), if_neg (by decide), if_neg (by decide),
      if_neg (by decide), if_pos rfl]
    rfl

theorem readMember_foreign {name : String} (unknown : ∀ field : Field, name ∉ field.names)
    (input : Bytes) : readMember levels slots name input = Json.skimMember slots input := by
  have id := unknown .id
  have status := unknown .status
  have kind := unknown .kind
  have content := unknown .content
  have error := unknown .error
  simp only [Field.names, List.mem_cons, List.not_mem_nil, or_false] at id status kind content error
  rw [readMember, if_neg id, if_neg status, if_neg kind, if_neg content, if_neg error]

def readName (input : Bytes) : Except Json.Error (Status × Bytes) := do
  let (name, rest) ← Json.readString input
  return (← statusOf name, rest)

def readEnd (status : Status) (input : Bytes) : Except Json.Error (Status × Bytes) :=
  match Json.skipBlanks input with
  | [] => .error .endInObject
  | octet :: rest =>
    if octet = Octet.closeObject then .ok (status, rest) else .error .expectedValue

def readNothing (status : Status) (input : Bytes) : Except Json.Error (Status × Bytes) := do
  let rest ← Json.colon input >>= Json.readUnit
  readEnd status rest

def readNamed (input : Bytes) : Except Json.Error (Status × Bytes) := do
  let (name, rest) ← Json.readString input
  let status ← statusOf name
  readNothing status rest

theorem skips_readStatus (levels : Nat) : Skips (readStatus levels) := by
  intro gap input
  rw [readStatus, readStatus, Json.skipBlanks_gap]

theorem readStatus_quote (input : Bytes) :
    readStatus levels (Octet.quote :: input) = readName input := by
  rw [readStatus, Json.skipBlanks_solid (by decide)]
  exact (if_neg (by decide)).trans (if_pos rfl)

theorem readStatus_object (input : Bytes) : readStatus levels (Octet.openObject :: input) =
    if levels = 0 then .error .tooDeep else readStatusMember input := by
  rw [readStatus, Json.skipBlanks_solid (by decide)]
  exact if_pos rfl

theorem readStatusMember_member (lead : Gap) (one : Member) (rest : Bytes) :
    readStatusMember (lead.val ++ (one.text ++ rest)) = readNamed (one.letters ++ Octet.quote ::
      (one.tail ++ (one.item.behind.val ++ rest))) := by
  rw [readStatusMember, Json.nextKey_gap, one.text_append, Json.nextKey_gap, Json.nextKey_first]
  rfl

theorem readUnit_gap (gap : Gap) (input : Bytes) :
    Json.readUnit (gap.val ++ input) = Json.readUnit input := by
  rw [Json.readUnit, Json.readUnit, Json.skipBlanks_gap]

theorem readNothing_tail (status : Status) (one : Member) (rest : Bytes) :
    readNothing status (one.tail ++ rest) =
      (Json.readUnit (one.item.value ++ rest) >>= readEnd status) := by
  rw [readNothing, Member.tail, List.append_assoc, List.cons_append, List.append_assoc,
    Json.colon_gap, ← readUnit_gap one.item.before]
  rfl

theorem readUnit_null (rest : Bytes) : Json.readUnit (Json.nullText ++ rest) = .ok rest := by
  rw [Json.nullText, List.cons_append, Json.readUnit, Json.skipBlanks_solid (by decide)]
  rfl

theorem readUnit_stops {text rest after : Bytes} (valid : IsValue text)
    (read : Json.readUnit (text ++ rest) = .ok after) : after = rest := by
  have refused : ∀ octet tail, Json.isBlank octet = false → octet ≠ Octet.letterN →
      Json.readUnit (octet :: tail) = .error (Json.mismatch "unit" octet tail) := by
    intro octet tail solid no_word
    rw [Json.readUnit, Json.skipBlanks_solid solid]
    exact if_neg no_word
  obtain rfl | ⟨letters, rfl, -⟩ | ⟨lead, members, rfl, -⟩ | ⟨octet, tail, rfl, solid, no_word,
    -⟩ := Json.value_cases valid
  · rw [readUnit_null] at read
    cases read
    rfl
  · cases (refused _ _ (by decide) (by decide)).symm.trans read
  · cases (refused _ _ (by decide) (by decide)).symm.trans read
  · cases (refused _ _ solid no_word).symm.trans read

theorem readEnd_close (status : Status) (gap : Gap) (rest : Bytes) :
    readEnd status (gap.val ++ Octet.closeObject :: rest) = .ok (status, rest) := by
  rw [readEnd, Json.skipBlanks_gap, Json.skipBlanks_solid (by decide)]
  rfl

theorem statusOf_text (status : Status) : statusOf status.text = .ok status := by
  cases status <;> rfl

theorem readStatus_shows {status : Status} {text : Bytes} (room : levels ≠ 0)
    (told : ShowsStatus status text) : Reads (readStatus levels) text status := by
  intro rest _
  cases told with
  | name spelled =>
    rw [Json.quoted_append, readStatus_quote, readName, Json.readString_spelled spelled]
    simp only [bind, Except.bind, statusOf_text, pure, Except.pure]
  | object lead one spelled nothing =>
    rw [Json.objectText_append, readStatus_object, if_neg room, List.map_singleton,
      Json.joined, List.flatMap_nil, List.append_nil, readStatusMember_member, readNamed,
      Json.readString_spelled spelled]
    simp only [bind, Except.bind, statusOf_text]
    rw [readNothing_tail, nothing, readUnit_null]
    exact readEnd_close status one.item.behind rest

section

variable {letters rest after : Bytes} {status : Status}

theorem readName_stops (between : IsLetters letters)
    (read : readName (letters ++ Octet.quote :: rest) = .ok (status, after)) : after = rest := by
  obtain ⟨⟨name, behind⟩, reading, read⟩ := Json.bind_eq_ok read
  obtain ⟨known, -, read⟩ := Json.bind_eq_ok read
  cases read
  exact Json.readString_stops between reading

theorem readEnd_stops {gap : Gap} {members : List Member} {found : Status}
    (read : readEnd found (gap.val ++ ((members.map Member.text).flatMap (Octet.comma :: ·) ++
      Octet.closeObject :: rest)) = .ok (status, after)) : after = rest := by
  rw [readEnd, Json.skipBlanks_gap] at read
  cases members with
  | nil =>
    rw [List.map_nil, List.flatMap_nil, List.nil_append, Json.skipBlanks_solid (by decide)] at read
    cases read
    rfl
  | cons other members =>
    rw [List.map_cons, List.flatMap_cons, List.cons_append, List.cons_append,
      Json.skipBlanks_solid (by decide)] at read
    cases read

theorem readStatusMember_stops {lead : Gap} {members : List Member}
    (keyed : ∀ member ∈ members, IsLetters member.letters)
    (each : ∀ member ∈ members, IsValue member.item.value)
    (read : readStatusMember (lead.val ++ (Json.joined (members.map Member.text) ++
      Octet.closeObject :: rest)) = .ok (status, after)) : after = rest := by
  cases members with
  | nil =>
    rw [List.map_nil, Json.joined, List.nil_append, readStatusMember, Json.nextKey_gap,
      Json.nextKey_close] at read
    cases read
  | cons one members =>
    obtain ⟨between, -⟩ := List.forall_mem_cons.mp keyed
    obtain ⟨valid, -⟩ := List.forall_mem_cons.mp each
    rw [List.map_cons, Json.joined, List.append_assoc, readStatusMember_member] at read
    obtain ⟨⟨name, behind⟩, reading, read⟩ := Json.bind_eq_ok read
    obtain ⟨known, -, read⟩ := Json.bind_eq_ok read
    obtain rfl := Json.readString_stops between reading
    rw [readNothing_tail] at read
    obtain ⟨behind, nothing, read⟩ := Json.bind_eq_ok read
    obtain rfl := readUnit_stops valid nothing
    exact readEnd_stops read

end

theorem readStatus_stops {text : Bytes} (valid : IsValue text) : Stops (readStatus levels) text := by
  intro rest status after ends read
  have refused : ∀ octet tail, Json.isBlank octet = false → octet ≠ Octet.openObject →
      octet ≠ Octet.quote → readStatus levels (octet :: tail) = .error .expectedValue := by
    intro octet tail solid no_object no_quote
    rw [readStatus, Json.skipBlanks_solid solid]
    exact (if_neg no_object).trans (if_neg no_quote)
  obtain rfl | ⟨letters, rfl, between⟩ | ⟨lead, members, rfl, keyed, each⟩ | ⟨octet, tail, rfl,
    solid, -, no_quote, no_object⟩ := Json.value_cases valid
  · cases (refused _ _ (by decide) (by decide) (by decide)).symm.trans read
  · rw [Json.quoted_append, readStatus_quote] at read
    exact readName_stops between read
  · rw [Json.objectText_append, readStatus_object] at read
    split at read
    · cases read
    · exact readStatusMember_stops keyed each read
  · cases (refused _ _ solid no_object no_quote).symm.trans read

def Slots.has (slots : Slots) : Field → Bool
  | .id => slots.id.isSome
  | .status => slots.status.isSome
  | .kind => slots.kind.isSome
  | .content => slots.content.isSome
  | .error => slots.error.isSome

variable {field : Field} {one : Member} {next last : Slots} {input after : Bytes}

/-- The field was open, is filled now, and those filled before still are. -/
structure Fills (slots next : Slots) (field : Field) : Prop where
  free : slots.has field = false
  filled : next.has field = true
  kept : ∀ other, slots.has other = true → next.has other = true

theorem fills_of_readField (read : readField levels slots field input = .ok (next, after)) :
    Fills slots next field := by
  cases field <;>
  · obtain ⟨⟨value, behind⟩, reading, read⟩ := Json.bind_eq_ok read
    obtain ⟨free, filled⟩ := Json.once_eq_ok reading
    cases read
    refine ⟨free, filled, fun other present => ?_⟩
    cases other <;> first | exact present | exact filled

theorem readField_stops (valid : IsValue one.item.value) :
    Stops (readField levels slots field) one.tail := by
  intro rest next after ends read
  have optional : Stops Json.readOptionalString one.item.value :=
    Json.readOptional_stops valid (Json.readStringAs_stops valid)
  have string : Skips Json.readOptionalString := Json.skips_readOptional _
  cases field <;>
    (obtain ⟨⟨value, behind⟩, reading, read⟩ := Json.bind_eq_ok read
     cases read)
  · exact Json.once_stops string _ _ optional rest value after ends reading
  · exact Json.once_stops (skips_readStatus levels) _ _ (readStatus_stops valid) rest value after
      ends reading
  · exact Json.once_stops string _ _ optional rest value after ends reading
  · exact Json.once_stops (Json.skips_readOptional _) _ _
      (Json.readOptional_stops valid (Json.readValue_stops valid)) rest value after ends reading
  · exact Json.once_stops string _ _ optional rest value after ends reading

theorem readMember_stops (valid : IsValue one.item.value) (slots : Slots) (key : String) :
    Stops (readMember levels slots key) one.tail := by
  intro rest next after ends read
  by_cases known : ∃ field : Field, key ∈ field.names
  · obtain ⟨field, named⟩ := known
    rw [readMember_named named] at read
    exact readField_stops valid rest next after ends read
  · rw [readMember_foreign (not_exists.mp known)] at read
    exact (Json.skimMember_reads slots valid).stops rest next after ends read

theorem has_of_led (led : Led (readMember levels) slots one next) (other : Field)
    (present : slots.has other = true) : next.has other = true := by
  obtain ⟨key, before, behind, -, read⟩ := led
  by_cases known : ∃ field : Field, key ∈ field.names
  · obtain ⟨field, named⟩ := known
    rw [readMember_named named] at read
    exact (fills_of_readField read).kept other present
  · rw [readMember_foreign (not_exists.mp known), Json.skimMember] at read
    obtain ⟨rest, -, read⟩ := Json.bind_eq_ok read
    obtain ⟨later, -, read⟩ := Json.bind_eq_ok read
    cases read
    exact present

theorem fills_of_led (led : Led (readMember levels) slots one next) (names : Names one field) :
    Fills slots next field := by
  obtain ⟨key, before, behind, keyed, read⟩ := led
  obtain ⟨name, named, spelled⟩ := names
  rw [Json.readString_spelled spelled] at keyed
  cases keyed
  rw [readMember_named named] at read
  exact fills_of_readField read

theorem not_names_of_filled {members : List Member}
    (chain : Chain (Led (readMember levels)) slots members last) (filled : slots.has field = true) :
    ∀ one ∈ members, ¬ Names one field := by
  induction chain with
  | none => exact List.forall_mem_nil _
  | member led later ih =>
    refine List.forall_mem_cons.mpr ⟨fun names => ?_, ih (has_of_led led field filled)⟩
    cases filled.symm.trans (fills_of_led led names).free

theorem once_of_chain {members : List Member}
    (chain : Chain (Led (readMember levels)) slots members last) :
    members.Pairwise fun first second => ∀ field, Names first field → ¬ Names second field := by
  induction chain with
  | none => exact .nil
  | member led later ih =>
    refine .cons (fun second present field names => ?_) ih
    exact not_names_of_filled later (fills_of_led led names).filled second present

def slotsOf (response : Response) (given : List Field) : Slots where
  id := if .id ∈ given then some response.id else none
  status := if .status ∈ given then some response.status else none
  kind := if .kind ∈ given then some response.kind else none
  content := if .content ∈ given then some response.content else none
  error := if .error ∈ given then some response.error else none

variable {response : Response} {given : List Field}

theorem readOptionalString_shows {shown : Option String} {text : Bytes}
    (told : ShowsString shown text) : Reads Json.readOptionalString text shown := by
  cases told with
  | none => exact Json.readOptional_null
  | some spelled =>
    exact Json.readOptional_shown (by decide) (by decide) (Json.readStringAs_spelled spelled)

theorem readOptional_shows {shown : Option Json} {text : Bytes}
    (told : ShowsContent shown text) :
    Reads (Json.readOptional (Json.readValue (Json.deepest - 1))) text shown := by
  cases told with
  | none => exact Json.readOptional_null
  | some denotes shown =>
    obtain ⟨octet, tail, rfl, solid, no_word⟩ := Json.denotes_shown denotes shown
    exact Json.readOptional_shown solid no_word (Json.readValue_denotes denotes)

theorem readField_shows (fresh : field ∉ given) (told : response.Shows field one.item.value) :
    Reads (readField (Json.deepest - 1) (slotsOf response given) field) one.tail
      (slotsOf response (field :: given)) := by
  intro rest ends
  have string : Skips Json.readOptionalString := Json.skips_readOptional _
  cases field with
  | id =>
    have free : (slotsOf response given).id = none := if_neg fresh
    have read := Json.once_reads string "id" (readOptionalString_shows told) rest ends
    rw [readField, free, read]
    simp [slotsOf, bind, Except.bind, pure, Except.pure]
  | status =>
    have free : (slotsOf response given).status = none := if_neg fresh
    have room : Json.deepest - 1 ≠ 0 := by decide
    have read := Json.once_reads (skips_readStatus _) "status" (readStatus_shows room told) rest ends
    rw [readField, free, read]
    simp [slotsOf, bind, Except.bind, pure, Except.pure]
  | kind =>
    have free : (slotsOf response given).kind = none := if_neg fresh
    have read := Json.once_reads string "kind" (readOptionalString_shows told) rest ends
    rw [readField, free, read]
    simp [slotsOf, bind, Except.bind, pure, Except.pure]
  | content =>
    have free : (slotsOf response given).content = none := if_neg fresh
    have read := Json.once_reads (Json.skips_readOptional _) "content" (readOptional_shows told)
      rest ends
    rw [readField, free, read]
    simp [slotsOf, bind, Except.bind, pure, Except.pure]
  | error =>
    have free : (slotsOf response given).error = none := if_neg fresh
    have read := Json.once_reads string "error" (readOptionalString_shows told) rest ends
    rw [readField, free, read]
    simp [slotsOf, bind, Except.bind, pure, Except.pure]

theorem leads_field (names : Names one field) (fresh : field ∉ given)
    (told : response.Shows field one.item.value) :
    Leads (readMember (Json.deepest - 1)) (slotsOf response given) one
      (slotsOf response (field :: given)) := by
  obtain ⟨name, named, spelled⟩ := names
  refine ⟨name, Json.readString_spelled spelled, fun rest ends => ?_⟩
  rw [readMember_named named]
  exact readField_shows fresh told rest ends

theorem leads_foreign (foreign : Foreign one) (valid : IsValue one.item.value) :
    Leads (readMember levels) slots one slots := by
  obtain ⟨name, spelled, unknown⟩ := foreign
  refine ⟨name, Json.readString_spelled spelled, fun rest ends => ?_⟩
  rw [readMember_foreign unknown]
  exact Json.skimMember_reads slots valid rest ends

theorem chain_slotsOf {members : List Member}
    (each : ∀ one ∈ members, (∃ field, Names one field ∧ response.Shows field one.item.value) ∨
      Foreign one ∧ IsValue one.item.value)
    (once : members.Pairwise fun first second => ∀ field, Names first field → ¬ Names second field)
    (fresh : ∀ one ∈ members, ∀ field ∈ given, ¬ Names one field) :
    ∃ filled, Chain (Leads (readMember (Json.deepest - 1))) (slotsOf response given) members
        (slotsOf response filled) ∧
      (∀ field ∈ given, field ∈ filled) ∧
      ∀ field, (∃ one ∈ members, Names one field) → field ∈ filled := by
  induction members generalizing given with
  | nil =>
    refine ⟨given, .none _, fun _ present => present, ?_⟩
    rintro field ⟨one, impossible, -⟩
    cases impossible
  | cons one members ih =>
    obtain ⟨shown, each⟩ := List.forall_mem_cons.mp each
    obtain ⟨apart, once⟩ := List.pairwise_cons.mp once
    obtain ⟨fresh_one, fresh⟩ := List.forall_mem_cons.mp fresh
    rcases shown with ⟨field, names, told⟩ | ⟨foreign, valid⟩
    · have later : ∀ other ∈ members, ∀ known ∈ field :: given, ¬ Names other known := by
        intro other present known among
        rcases List.mem_cons.mp among with rfl | among
        · exact apart other present known names
        · exact fresh other present known among
      obtain ⟨filled, chain, kept, all⟩ := ih each once later
      have taken := leads_field names (fun among => fresh_one field among names) told
      refine ⟨filled, .member taken chain, fun known among =>
        kept known (List.mem_cons_of_mem field among), ?_⟩
      rintro known ⟨other, present, named⟩
      rcases List.mem_cons.mp present with rfl | present
      · obtain rfl := names.unique named
        exact kept field List.mem_cons_self
      · exact all known ⟨other, present, named⟩
    · obtain ⟨filled, chain, kept, all⟩ := ih each once fresh
      refine ⟨filled, .member (leads_foreign foreign valid) chain, kept, ?_⟩
      rintro known ⟨other, present, named⟩
      rcases List.mem_cons.mp present with rfl | present
      · exact absurd named (foreign.not_names known)
      · exact all known ⟨other, present, named⟩

theorem ofSlots_slotsOf (complete : ∀ field, response.Has field → field ∈ given) :
    ofSlots (slotsOf response given) = .ok response := by
  have shown : ∀ {α : Type} (value : Option α) (field : Field), (value ≠ none → field ∈ given) →
      (if field ∈ given then some value else none).getD none = value := by
    intro α value field present
    by_cases among : field ∈ given
    · rw [if_pos among]
      rfl
    · rw [if_neg among]
      exact (Classical.byContradiction fun some => among (present (Ne.symm some)))
  have status : (slotsOf response given).status = some response.status :=
    if_pos (complete .status trivial)
  rw [ofSlots, status]
  simp only [slotsOf, shown _ _ (complete .id), shown _ _ (complete .kind),
    shown _ _ (complete .content), shown _ _ (complete .error)]

theorem shape_members (levels : Nat) : shape.members levels =
    Json.collect (readMember levels) ⟨none, none, none, none, none⟩ ofSlots := rfl

theorem parse_spelled {members : List Member} (spelled : Spelled response members)
    (before lead behind : Gap) :
    parse (before.val ++ (Json.objectText lead members ++ behind.val)) = .ok response := by
  have fresh : ∀ one ∈ members, ∀ field ∈ ([] : List Field), ¬ Names one field :=
    fun one _ => List.forall_mem_nil _
  obtain ⟨filled, chain, -, all⟩ := chain_slotsOf spelled.each spelled.once fresh
  have built : ofSlots (slotsOf response filled) = .ok response :=
    ofSlots_slotsOf fun field has => all field (spelled.complete field has)
  exact Json.readText_members (shape_members _) chain built before lead behind

theorem parse_twice {members : List Member}
    (each : ∀ one ∈ members, IsLetters one.letters ∧ IsValue one.item.value)
    {first second : Member} (among : [first, second].Sublist members) (names : Names first field)
    (again : Names second field) (before lead : Gap) (rest : Bytes) :
    ∃ fault, parse (before.val ++ (Json.objectText lead members ++ rest)) = .error fault := by
  cases parsed : parse (before.val ++ (Json.objectText lead members ++ rest)) with
  | error fault => exact ⟨fault, rfl⟩
  | ok response =>
    have sound : ∀ one ∈ members, Json.Sound (readMember (Json.deepest - 1)) one :=
      fun one present => ⟨(each one present).1, readMember_stops (each one present).2⟩
    obtain ⟨last, chain⟩ := Json.chain_of_readText (shape_members _) sound parsed
    have apart := (once_of_chain chain).sublist among
    exact absurd again ((List.pairwise_cons.mp apart).1 second List.mem_cons_self field names)

def compact (one : String × Bytes) : Member :=
  ⟨Gap.none, Utf8.encode one.1.toList, Gap.none, ⟨Gap.none, one.2, Gap.none⟩⟩

def isBare (text : String) : Bool :=
  text.toList.all fun c => c != '"' && c != '\\' && decide (0x20 ≤ c.toNat)

theorem spells_bare {text : String} (bare : isBare text = true) :
    Spells (Utf8.encode text.toList) text.toList := by
  refine Json.spells_plain fun c present => ?_
  have clean := List.all_eq_true.mp bare c present
  simpa [and_assoc] using clean

theorem names_compact {one : String × Bytes} (bare : isBare one.1 = true) {field : Field} :
    Names (compact one) field ↔ one.1 ∈ field.names := names_iff (spells_bare bare)

theorem spelled_compact {told : List (String × Bytes)}
    (clean : told.all (fun one => isBare one.1) = true)
    (each : ∀ one ∈ told, (∃ field : Field, one.1 ∈ field.names ∧ response.Shows field one.2) ∨
      (∀ field : Field, one.1 ∉ field.names) ∧ IsValue one.2)
    (once : told.Pairwise fun first second =>
      ∀ field : Field, first.1 ∈ field.names → second.1 ∉ field.names)
    (complete : ∀ field, response.Has field → ∃ one ∈ told, one.1 ∈ field.names) :
    Spelled response (told.map compact) := by
  have bare : ∀ one ∈ told, isBare one.1 = true := List.all_eq_true.mp clean
  refine ⟨fun one present => ?_, List.pairwise_map.mpr (once.imp_of_mem ?_), fun field has => ?_⟩
  · obtain ⟨pair, among, rfl⟩ := List.mem_map.mp present
    rcases each pair among with ⟨field, named, shown⟩ | ⟨unknown, valid⟩
    · exact .inl ⟨field, (names_compact (bare pair among)).mpr named, shown⟩
    · exact .inr ⟨⟨pair.1, spells_bare (bare pair among), unknown⟩, valid⟩
  · intro first second among among' apart field names names'
    exact apart field ((names_compact (bare first among)).mp names)
      ((names_compact (bare second among')).mp names')
  · obtain ⟨one, among, named⟩ := complete field has
    exact ⟨_, List.mem_map_of_mem among, (names_compact (bare one among)).mpr named⟩

/-- However a response is spelled, a frame with the text is read as the response; and a frame whose object
tells a field twice, under one name or under two, is malformed. -/
theorem inbound_spelled :
    (∀ (response : Response) (members : List Member), Spelled response members →
      ∀ before lead behind : Gap,
        Frame.inbound ⟨.response, before.val ++ (Json.objectText lead members ++ behind.val)⟩ =
          .ok (.response response)) ∧
    ∀ members : List Member, (∀ one ∈ members, IsLetters one.letters ∧ IsValue one.item.value) →
      ∀ (first second : Member) (field : Field), [first, second].Sublist members →
        Names first field → Names second field → ∀ (before lead : Gap) (rest : Bytes),
          ∃ fault, Frame.inbound ⟨.response, before.val ++ (Json.objectText lead members ++ rest)⟩ =
            .error (Frame.malformed "response" fault) := by
  refine ⟨fun response members spelled before lead behind => ?_, fun members each first second
    field among names again before lead rest => ?_⟩
  · rw [Frame.inbound]
    dsimp only
    rw [parse_spelled spelled]
    rfl
  · obtain ⟨fault, refused⟩ := parse_twice each among names again before lead rest
    refine ⟨fault, ?_⟩
    rw [Frame.inbound]
    dsimp only
    rw [refused]
    rfl

def blank : Gap := ⟨[Octet.space], List.forall_mem_singleton.mpr rfl⟩

def mixture : Bytes :=
  Json.listText blank
    [⟨Gap.none, [Octet.minus, 0x31, Octet.point, 0x35, 0x30, 0x65, Octet.plus, 0x33], blank⟩,
      ⟨Gap.none, Json.objectText Gap.none [], Gap.none⟩]

theorem isValue_mixture : IsValue mixture := by
  have digits : ∀ digits : Bytes, digits ≠ [] → digits.all Octet.isDigit = true →
      Json.IsDigits digits := fun digits some all => ⟨some, List.all_eq_true.mp all⟩
  have number : Json.IsNumber [0x31, Octet.point, 0x35, 0x30, 0x65, Octet.plus, 0x33] :=
    ⟨[0x31], [Octet.point, 0x35, 0x30], [0x65, Octet.plus, 0x33], rfl,
      .inr ⟨digits [0x31] (by decide) rfl, by decide⟩,
      .inr ⟨[0x35, 0x30], rfl, digits [0x35, 0x30] (by decide) rfl⟩,
      .inr ⟨0x65, [Octet.plus], [0x33], rfl, rfl, .inr (.inl rfl), digits [0x33] (by decide) rfl⟩⟩
  refine .list _ (List.forall_mem_cons.mpr ⟨.negative number, ?_⟩)
  refine List.forall_mem_singleton.mpr (.object Gap.none ?_ ?_)
  · exact List.forall_mem_nil _
  · exact List.forall_mem_nil _

def assorted : List (String × Bytes) :=
  [("body", Json.quoted [Octet.backslash, Octet.letterU, 0x30, 0x30, 0x65, 0x39]), ("extra", mixture),
   ("header", Json.quoted (Utf8.encode "Entry".toList)),
   ("status", Json.objectText Gap.none [compact ("Success", Json.nullText)]),
   ("error", Json.nullText)]

theorem spelled_assorted :
    Spelled ⟨none, .success, some "Entry", some (.string "é"), none⟩ (assorted.map compact) := by
  have acute : Spells [Octet.backslash, Octet.letterU, 0x30, 0x30, 0x65, 0x39] "é".toList :=
    @Spells.unit 0x30 0x30 0x65 0x39 0xE9 [] [] rfl rfl rfl .none
  have entry : Spells (Utf8.encode "Entry".toList) "Entry".toList := spells_bare rfl
  have success : Spells (compact ("Success", Json.nullText)).letters Status.success.text.toList :=
    @spells_bare "Success" rfl
  refine spelled_compact rfl ?_ ?_ ?_
  · simp only [assorted, List.forall_mem_cons]
    refine ⟨.inl ⟨.content, by decide, .some (.string acute) fun same => by cases same⟩,
      .inr ⟨fun field => ?_, isValue_mixture⟩, .inl ⟨.kind, by decide, .some entry⟩,
      .inl ⟨.status, by decide, .object _ _ success rfl⟩, .inl ⟨.error, by decide, .none⟩,
      List.forall_mem_nil _⟩
    cases field <;> decide
  · simp only [assorted, List.pairwise_cons, List.forall_mem_cons]
    refine ⟨⟨?_, ?_, ?_, ?_, List.forall_mem_nil _⟩, ⟨?_, ?_, ?_, List.forall_mem_nil _⟩,
      ⟨?_, ?_, List.forall_mem_nil _⟩, ⟨?_, List.forall_mem_nil _⟩, List.forall_mem_nil _, .nil⟩ <;>
      (intro field; cases field <;> decide)
  · intro field has
    cases field with
    | id => exact absurd rfl has
    | error => exact absurd rfl has
    | status => decide
    | kind => decide
    | content => decide

def twofold : List (String × Bytes) :=
  [("kind", [0x31]), ("status", Json.quoted (Utf8.encode "Fail".toList)), ("header", Json.nullText)]

theorem inbound_spelled_assorted :
    Frame.inbound ⟨.response, Utf8.encode ("\x7b\"body\":\"\\u00e9\",\"extra\":[ -1.50e+3 ,\x7b\x7d]," ++
        "\"header\":\"Entry\",\"status\":\x7b\"Success\":null\x7d,\"error\":null\x7d").toList⟩ =
      .ok (.response ⟨none, .success, some "Entry", some (.string "é"), none⟩) ∧
    ∃ fault, Frame.inbound ⟨.response,
        Utf8.encode ("\x7b\"kind\":1,\"status\":\"Fail\",\"header\":null\x7d".toList)⟩ =
      .error (Frame.malformed "response" fault) := by
  refine ⟨inbound_spelled.1 _ _ spelled_assorted Gap.none Gap.none Gap.none, ?_⟩
  have valid : ∀ one ∈ twofold.map compact, IsLetters one.letters ∧ IsValue one.item.value := by
    have letters : ∀ name : String, isBare name = true → IsLetters (Utf8.encode name.toList) :=
      fun name bare => (spells_bare bare).isLetters
    have number : Json.IsNumber [0x31] :=
      ⟨[0x31], [], [], rfl, .inr ⟨⟨by decide, List.forall_mem_singleton.mpr rfl⟩, by decide⟩,
        .inl rfl, .inl rfl⟩
    simp only [twofold, List.map_cons, List.map_nil, List.forall_mem_cons]
    exact ⟨⟨letters "kind" rfl, .number number⟩,
      ⟨letters "status" rfl, .string (letters "Fail" rfl)⟩, ⟨letters "header" rfl, .null⟩,
      List.forall_mem_nil _⟩
  exact inbound_spelled.2 (twofold.map compact) valid _ _ .kind
    (.cons_cons _ (.cons _ (.cons_cons _ .slnil))) ((names_compact rfl).mpr (by decide))
    ((names_compact rfl).mpr (by decide)) Gap.none Gap.none []

end Response

end EngineClient
