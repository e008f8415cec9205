import EngineClient.CommandLine.Arguments
import EngineClient.Proofs.Json.Insertion

/-!
What the arguments of the command line stand for. Flags may stand anywhere among the others, and the last
one holds; a request has the parameters that are assigned, each in the place of its first assignment and
with the value of its last one; and an argument that assigns nothing is refused wherever it stands.
-/

namespace EngineClient.CommandLine

def flag : Link.Kind → String
  | .process => "--process"
  | .socket => "--socket"

def helpWords : List String := ["-h", "--help"]

def optionWords : List String := [flag .process, flag .socket] ++ helpWords

/-- The flags of `kinds`, in this order, stand anywhere among the arguments of `plain`. -/
inductive Flagged : List Link.Kind → List String → List String → Prop where
  | nil : Flagged [] [] []
  | flag {kinds : List Link.Kind} {plain arguments : List String} (kind : Link.Kind)
      (behind : Flagged kinds plain arguments) :
      Flagged (kind :: kinds) plain (flag kind :: arguments)
  | word {kinds : List Link.Kind} {plain arguments : List String} (argument : String)
      (behind : Flagged kinds plain arguments) :
      Flagged kinds (argument :: plain) (argument :: arguments)

variable {settings : Settings} {kinds : List Link.Kind} {plain arguments : List String}
variable {argument : String}

theorem option_cases (option : argument ∈ optionWords) :
    (∃ kind, argument = flag kind) ∨ argument ∈ helpWords := by
  rcases List.mem_append.mp option with named | asks
  · simp only [List.mem_cons, List.not_mem_nil, or_false] at named
    rcases named with rfl | rfl
    · exact .inl ⟨.process, rfl⟩
    · exact .inl ⟨.socket, rfl⟩
  · exact .inr asks

/-! One equation for each sort of argument: flags, words that ask for help, and all others. -/

theorem takeOptions_flag (settings : Settings) (kind : Link.Kind) (arguments : List String) :
    takeOptions settings (flag kind :: arguments) = takeOptions (settings.withKind kind) arguments := by
  cases kind with
  | process => rw [takeOptions, flag, if_neg (by decide), if_pos rfl]
  | socket => rw [takeOptions, flag, if_pos rfl]

theorem takeOptions_asked (settings : Settings) (asks : argument ∈ helpWords)
    (arguments : List String) : takeOptions settings (argument :: arguments) = .error .usage := by
  simp only [helpWords, List.mem_cons, List.not_mem_nil, or_false] at asks
  rcases asks with rfl | rfl
  · rw [takeOptions, if_neg (by decide), if_neg (by decide), if_pos (.inl rfl)]
  · rw [takeOptions, if_neg (by decide), if_neg (by decide), if_pos (.inr rfl)]

theorem takeOptions_word (settings : Settings) (word : argument ∉ optionWords)
    (arguments : List String) : takeOptions settings (argument :: arguments) =
      (takeOptions settings arguments).map fun (settings, others) =>
        (settings, argument :: others) := by
  simp only [optionWords, helpWords, flag, List.cons_append, List.nil_append, List.mem_cons,
    List.not_mem_nil, or_false, not_or] at word
  obtain ⟨process, socket, short, long⟩ := word
  rw [takeOptions, if_neg socket, if_neg process, if_neg (not_or.mpr ⟨short, long⟩)]

theorem takeOptions_flagged (flagged : Flagged kinds plain arguments)
    (words : ∀ argument ∈ plain, argument ∉ optionWords) : takeOptions settings arguments =
      .ok (settings.withKind (kinds.getLastD settings.kind), plain) := by
  induction flagged generalizing settings with
  | nil => rfl
  | flag kind behind ih =>
    rw [takeOptions_flag, ih words, List.getLastD_cons]
    rfl
  | word argument behind ih =>
    obtain ⟨here, later⟩ := List.forall_mem_cons.mp words
    rw [takeOptions_word settings here, ih later]
    rfl

theorem takeOptions_help (help : ∃ word ∈ helpWords, word ∈ arguments) :
    takeOptions settings arguments = .error .usage := by
  obtain ⟨word, asks, present⟩ := help
  induction arguments generalizing settings with
  | nil => cases present
  | cons argument arguments ih =>
    by_cases here : argument ∈ helpWords
    · exact takeOptions_asked settings here arguments
    · have later : word ∈ arguments := by
        rcases List.mem_cons.mp present with rfl | later
        · exact absurd asks here
        · exact later
      by_cases option : argument ∈ optionWords
      · obtain ⟨kind, rfl⟩ := (option_cases option).resolve_right here
        rw [takeOptions_flag, ih later]
      · rw [takeOptions_word settings option, ih later]
        rfl

theorem exists_flagged (helpless : ¬ ∃ word ∈ helpWords, word ∈ arguments) :
    ∃ kinds, Flagged kinds (arguments.filter (· ∉ optionWords)) arguments := by
  induction arguments with
  | nil => exact ⟨[], .nil⟩
  | cons argument arguments ih =>
    obtain ⟨kinds, behind⟩ := ih fun ⟨word, asks, present⟩ =>
      helpless ⟨word, asks, List.mem_cons_of_mem argument present⟩
    by_cases option : argument ∈ optionWords
    · rw [List.filter_cons_of_neg (by simpa using option)]
      rcases option_cases option with ⟨kind, rfl⟩ | asks
      · exact ⟨kind :: kinds, .flag kind behind⟩
      · exact absurd ⟨argument, asks, List.mem_cons_self⟩ helpless
    · rw [List.filter_cons_of_pos (by simpa using option)]
      exact ⟨kinds, .word argument behind⟩

/-- What a parameter can be given: a truth value, or any text that is not the word for one. -/
inductive Value where
  | truth (value : Bool)
  | text (value : String) (other : value ≠ "true" ∧ value ≠ "false")

def Value.typed : Value → String
  | .truth true => "true"
  | .truth false => "false"
  | .text value _ => value

def Value.json : Value → Json
  | .truth value => .bool value
  | .text value _ => .string value

structure Assignment where
  key : String
  value : Value
  plain : '=' ∉ key.toList

namespace Assignment

def typed (assignment : Assignment) : String := assignment.key ++ "=" ++ assignment.value.typed

def member (assignment : Assignment) : String × Json := (assignment.key, assignment.value.json)

theorem toList_typed (assignment : Assignment) : assignment.typed.toList =
    assignment.key.toList ++ '=' :: assignment.value.typed.toList := by
  have sign : "=".toList = ['='] := rfl
  rw [typed, String.toList_append, String.toList_append, sign, List.append_assoc]
  rfl

theorem typed_not_option (assignment : Assignment) : assignment.typed ∉ optionWords := by
  intro option
  have without : ∀ word ∈ optionWords, '=' ∉ word.toList := by decide
  apply without _ option
  rw [toList_typed]
  exact List.mem_append_right _ List.mem_cons_self

end Assignment

theorem valueOf_typed (value : Value) : valueOf value.typed = value.json := by
  cases value with
  | truth value => cases value <;> rfl
  | text value other => rw [Value.typed, valueOf, if_neg other.1, if_neg other.2, Value.json]

theorem splitAssignment?_append {key : List Char} (plain : '=' ∉ key) (value : List Char) :
    splitAssignment? (key ++ '=' :: value) = some (key, value) := by
  induction key with
  | nil => rw [List.nil_append, splitAssignment?, if_pos rfl]
  | cons c key ih =>
    obtain ⟨other, rest⟩ := List.ne_and_not_mem_of_not_mem_cons plain
    rw [List.cons_append, splitAssignment?, if_neg other.symm, ih rest]
    rfl

theorem splitAssignment?_eq_none_iff {text : List Char} :
    splitAssignment? text = none ↔ '=' ∉ text := by
  induction text with
  | nil => simp [splitAssignment?]
  | cons c text ih =>
    rw [splitAssignment?]
    by_cases sign : c = '='
    · simp [sign]
    · have other : ¬ '=' = c := fun equal => sign equal.symm
      simp [sign, other, ih]

theorem addParameter_typed (request : Request) (assignment : Assignment) :
    addParameter request assignment.typed =
      .ok (request.withParam assignment.key assignment.value.json) := by
  rw [addParameter, Assignment.toList_typed, splitAssignment?_append assignment.plain]
  simp only [String.ofList_toList, valueOf_typed]

theorem addParameters_typed (request : Request) (assignments : List Assignment) :
    addParameters request (assignments.map Assignment.typed) =
      .ok { request with
        payload := Json.insertAll request.payload (assignments.map Assignment.member) } := by
  induction assignments generalizing request with
  | nil => rfl
  | cons assignment assignments ih =>
    rw [List.map_cons, addParameters, addParameter_typed]
    exact ih (request.withParam assignment.key assignment.value.json)

theorem addParameters_unassigned {others : List String}
    (first : others.find? ('=' ∉ ·.toList) = some argument) (request : Request) :
    addParameters request others = .error (.notAssignment argument) := by
  induction others generalizing request with
  | nil => cases first
  | cons other others ih =>
    rw [addParameters, addParameter]
    rw [List.find?_cons] at first
    cases halves : splitAssignment? other.toList with
    | none =>
      have bare := splitAssignment?_eq_none_iff.mp halves
      simp only [bare, not_false_eq_true, decide_true] at first
      cases first
      rfl
    | some pair =>
      have present : '=' ∈ other.toList := by
        apply Decidable.not_not.mp
        intro bare
        rw [splitAssignment?_eq_none_iff.mpr bare] at halves
        cases halves
      simp only [present, not_true_eq_false, decide_false] at first
      exact ih first _

theorem parse_flagged {header : String} {others : List String}
    (flagged : Flagged kinds (header :: others) arguments)
    (words : ∀ argument ∈ header :: others, argument ∉ optionWords) (sends : header ≠ "watch") :
    parse settings arguments = (addParameters (Request.new header) others).map fun request =>
      (settings.withKind (kinds.getLastD settings.kind), .send request) := by
  rw [parse, takeOptions_flagged flagged words]
  simp only [bind, Except.bind, if_neg sends]
  cases addParameters (Request.new header) others <;> rfl

theorem parse_typed {header : String} {assignments : List Assignment}
    (flagged : Flagged kinds (header :: assignments.map Assignment.typed) arguments)
    (word : header ∉ optionWords) (sends : header ≠ "watch") : parse settings arguments =
      .ok (settings.withKind (kinds.getLastD settings.kind),
        .send ⟨none, header, Json.insertAll [] (assignments.map Assignment.member)⟩) := by
  have words : ∀ argument ∈ header :: assignments.map Assignment.typed, argument ∉ optionWords := by
    intro argument present
    rcases List.mem_cons.mp present with rfl | given
    · exact word
    · obtain ⟨assignment, -, rfl⟩ := List.mem_map.mp given
      exact assignment.typed_not_option
  rw [parse_flagged flagged words sends, addParameters_typed]
  rfl

theorem parse_unassigned {header : String} {others : List String}
    (plain : arguments.filter (· ∉ optionWords) = header :: others) (sends : header ≠ "watch")
    (first : others.find? ('=' ∉ ·.toList) = some argument) : parse settings arguments =
      .error (if ∃ word ∈ helpWords, word ∈ arguments then .usage else .notAssignment argument) := by
  split
  next help =>
    rw [parse, takeOptions_help help]
    rfl
  next helpless =>
    obtain ⟨kinds, flagged⟩ := exists_flagged helpless
    have words : ∀ argument ∈ arguments.filter (· ∉ optionWords), argument ∉ optionWords := by
      intro argument present
      exact of_decide_eq_true (List.mem_filter.mp present).2
    rw [plain] at flagged words
    rw [parse_flagged flagged words sends, addParameters_unassigned first]
    rfl

/-- A header and assignments, with flags anywhere among them, are read as what they say: the request
that they describe, with every key once, in the order of first appearance and with its last value, and
the kind of the last flag. But an argument that assigns nothing is refused, wherever it stands behind the
header: the first one of them is reported, unless help is asked for. -/
theorem arguments_read_back (settings : Settings) :
    (∀ (header : String) (assignments : List Assignment) (kinds : List Link.Kind)
        (arguments : List String), header ≠ "watch" → header ∉ optionWords →
      Flagged kinds (header :: assignments.map Assignment.typed) arguments →
      ∃ payload : Json.Members,
        parse settings arguments = .ok ({ settings with kind := kinds.getLastD settings.kind },
          .send ⟨none, header, payload⟩) ∧
        (payload.map Prod.fst).Nodup ∧
        payload.map Prod.fst = (assignments.map Assignment.key).eraseDups ∧
        ∀ key, Json.Members.find? key payload =
          (assignments.reverse.find? (·.key = key)).map (·.value.json)) ∧
    (∀ (header : String) (others arguments : List String),
      arguments.filter (· ∉ optionWords) = header :: others → header ≠ "watch" →
      (∃ argument ∈ others, '=' ∉ argument.toList) →
      ∃ argument, others.find? ('=' ∉ ·.toList) = some argument ∧
        parse settings arguments = .error (if ∃ word ∈ helpWords, word ∈ arguments then .usage
          else .notAssignment argument)) := by
  constructor
  · intro header assignments kinds arguments sends word flagged
    have keys : (assignments.map Assignment.member).map Prod.fst =
        assignments.map Assignment.key := by
      rw [List.map_map]
      rfl
    refine ⟨Json.insertAll [] (assignments.map Assignment.member), parse_typed flagged word sends,
      Json.nodup_insertAll _, ?_, ?_⟩
    · rw [Json.keys_insertAll, keys]
    · intro key
      rw [Json.find?_insertAll, ← List.map_reverse, List.find?_map, Option.map_map]
      rfl
  · intro header others arguments plain sends unassigned
    obtain ⟨bare, present, without⟩ := unassigned
    have found : (others.find? ('=' ∉ ·.toList)).isSome := by
      rw [List.find?_isSome]
      exact ⟨bare, present, decide_eq_true without⟩
    obtain ⟨argument, first⟩ := Option.isSome_iff_exists.mp found
    exact ⟨argument, first, parse_unassigned plain sends first⟩

theorem arguments_read_back_repeated :
    let settings : Settings :=
      ⟨.process, Settings.defaultProgram, [Settings.serveArgument], .default, none⟩
    let assignments : List Assignment :=
      [⟨"path", .text "/a" (by decide), by decide⟩, ⟨"overwrite", .truth true, by decide⟩,
        ⟨"path", .text "b=c" (by decide), by decide⟩]
    let arguments :=
      ["--socket", "Save", "path=/a", "--process", "overwrite=true", "--socket", "path=b=c"]
    Flagged [.socket, .process, .socket] ("Save" :: assignments.map Assignment.typed) arguments ∧
      (∃ payload : Json.Members,
        parse settings arguments =
          .ok ({ settings with kind := .socket }, .send ⟨none, "Save", payload⟩) ∧
        payload.map Prod.fst = ["path", "overwrite"] ∧
        Json.Members.find? "path" payload = some (.string "b=c") ∧
        Json.Members.find? "overwrite" payload = some (.bool true)) ∧
      parse settings ["--socket", "Save", "path=/a", "--process", "overwrite", "path"] =
        .error (.notAssignment "overwrite") := by
  intro settings assignments arguments
  have texts : assignments.map Assignment.typed = ["path=/a", "overwrite=true", "path=b=c"] := by
    decide +kernel
  have flagged : Flagged [.socket, .process, .socket]
      ("Save" :: assignments.map Assignment.typed) arguments := by
    rw [texts]
    exact .flag .socket (.word _ (.word _ (.flag .process (.word _ (.flag .socket (.word _ .nil))))))
  obtain ⟨read, refused⟩ := arguments_read_back settings
  refine ⟨flagged, ?_, ?_⟩
  · obtain ⟨payload, parsed, -, keys, values⟩ :=
      read "Save" assignments _ arguments (by decide) (by decide) flagged
    refine ⟨payload, parsed, ?_, values "path", values "overwrite"⟩
    rw [keys]
    decide +kernel
  · obtain ⟨argument, first, refusal⟩ := refused "Save" ["path=/a", "overwrite", "path"]
      ["--socket", "Save", "path=/a", "--process", "overwrite", "path"] (by decide) (by decide)
      ⟨"path", by decide, by decide⟩
    cases first
    rw [refusal, if_neg (by decide)]

end EngineClient.CommandLine
