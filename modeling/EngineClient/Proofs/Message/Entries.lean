import EngineClient.Message.Entry
import EngineClient.Proofs.Json.Keys
import Mathlib.Data.List.Forall2

/-!
The forms in which an entry can be given, and that the reader takes just these: what an object or a list
says is read, and a value that says no entry is a fault of the whole list that it stands in.
-/

namespace EngineClient

namespace Entry

inductive Field where
  | name
  | directory
  | file
  | virtual
  deriving DecidableEq, Repr

def Field.key : Field → String
  | .name => "name"
  | .directory => "is_dir"
  | .file => "is_file"
  | .virtual => "is_virtual"

def shown (entry : Entry) : Field → Json
  | .name => .string entry.name
  | .directory => .bool entry.isDirectory
  | .file => .bool entry.isFile
  | .virtual => .bool entry.isVirtual

/-- Flags one after another; at the end, those that are false may be left out. -/
inductive Flags : List Bool → List Json → Prop where
  | omitted (count : Nat) : Flags (List.replicate count false) []
  | given {flags : List Bool} {items : List Json} (flag : Bool) (rest : Flags flags items) :
      Flags (flag :: flags) (.bool flag :: items)

/-- A value that says this entry. In an object, its fields stand in any order, among members of any other
names, and only a flag that is false may be left out. In a list, the name stands first and the flags behind
it. -/
inductive Written (entry : Entry) : Json → Prop where
  | object {members : Json.Members} (distinct : (members.map Prod.fst).Nodup)
      (each : ∀ field value, (Field.key field, value) ∈ members → value = entry.shown field)
      (given : ∀ field, entry.shown field ≠ .bool false →
        (Field.key field, entry.shown field) ∈ members) : Written entry (.object members)
  | list {items : List Json}
      (flags : Flags [entry.isDirectory, entry.isFile, entry.isVirtual] items) :
      Written entry (.list (.string entry.name :: items))

/-- What the members met so far tell of a field. -/
def Slots.told (slots : Slots) : Field → Option Json
  | .name => slots.name.map .string
  | .directory => some (.bool slots.entry.isDirectory)
  | .file => some (.bool slots.entry.isFile)
  | .virtual => some (.bool slots.entry.isVirtual)

variable {slots after : Slots} {key : String} {value : Json} {members : Json.Members} {entry : Entry}

theorem take_foreign (foreign : ∀ field : Field, key ≠ field.key) :
    slots.take key value = .ok slots :=
  (if_neg (foreign .name)).trans ((if_neg (foreign .directory)).trans
    ((if_neg (foreign .file)).trans (if_neg (foreign .virtual))))

theorem told_take {field : Field} (taken : slots.take field.key value = .ok after) (other : Field) :
    after.told other = if other = field then some value else slots.told other := by
  cases field with
  | name =>
    cases value with
    | string text => cases taken; cases other <;> rfl
    | _ => cases taken
  | directory =>
    cases value with
    | bool flag => cases taken; cases other <;> rfl
    | _ => cases taken
  | file =>
    cases value with
    | bool flag => cases taken; cases other <;> rfl
    | _ => cases taken
  | virtual =>
    cases value with
    | bool flag => cases taken; cases other <;> rfl
    | _ => cases taken

theorem exists_take (slots : Slots) (entry : Entry) (field : Field) :
    ∃ after, slots.take field.key (entry.shown field) = .ok after := by
  cases field <;> exact ⟨_, rfl⟩

theorem told_takeAll (distinct : (members.map Prod.fst).Nodup)
    (taken : slots.takeAll members = .ok after) (field : Field) :
    after.told field = (Json.Members.find? field.key members).or (slots.told field) := by
  induction members generalizing slots with
  | nil =>
    cases taken
    rfl
  | cons member members ih =>
    obtain ⟨key, value⟩ := member
    obtain ⟨fresh, rest⟩ := List.nodup_cons.mp distinct
    obtain ⟨next, first, later⟩ := Json.bind_eq_ok taken
    rw [ih rest later, Json.Members.find?]
    by_cases same : key = field.key
    · subst same
      have absent : Json.Members.find? field.key members = none := by
        apply Option.eq_none_iff_forall_ne_some.mpr
        intro other found
        have present := (Json.Members.find?_eq_some_iff rest).mp found
        exact fresh (List.mem_map.mpr ⟨(field.key, other), present, rfl⟩)
      rw [absent, told_take first, if_pos rfl, if_pos rfl]
      rfl
    · have kept : next.told field = slots.told field := by
        by_cases known : ∃ other : Field, key = other.key
        · obtain ⟨other, rfl⟩ := known
          rw [told_take first, if_neg fun equal => same (congrArg Field.key equal.symm)]
        · cases (take_foreign (not_exists.mp known)).symm.trans first
          rfl
      rw [if_neg same, kept]

theorem exists_takeAll (each : ∀ field value, (Field.key field, value) ∈ members →
    value = entry.shown field) (slots : Slots) : ∃ after, slots.takeAll members = .ok after := by
  induction members generalizing slots with
  | nil => exact ⟨slots, rfl⟩
  | cons member members ih =>
    obtain ⟨key, value⟩ := member
    obtain ⟨next, first⟩ : ∃ next, slots.take key value = .ok next := by
      by_cases known : ∃ field : Field, key = field.key
      · obtain ⟨field, rfl⟩ := known
        rw [each field value List.mem_cons_self]
        exact exists_take slots entry field
      · exact ⟨slots, take_foreign (not_exists.mp known)⟩
    obtain ⟨after, later⟩ := ih (fun field value present =>
      each field value (List.mem_cons_of_mem _ present)) next
    refine ⟨after, ?_⟩
    rw [Slots.takeAll, first]
    exact later

def blank : Slots := ⟨none, ⟨"", false, false, false⟩⟩

theorem ofMembers_eq_ok (members : Json.Members) :
    ofMembers members = .ok entry ↔
      ∃ slots, blank.takeAll members = .ok slots ∧ ∀ field, slots.told field = some (entry.shown field) := by
  constructor
  · intro read
    obtain ⟨slots, taken, built⟩ := Json.bind_eq_ok read
    refine ⟨slots, taken, ?_⟩
    cases named : slots.name with
    | none =>
      rw [named] at built
      cases built
    | some name =>
      rw [named] at built
      cases built
      intro field
      cases field with
      | name => exact congrArg (Option.map Json.string) named
      | _ => rfl
  · rintro ⟨⟨name, others⟩, taken, told⟩
    obtain ⟨text, directory, file, virtual⟩ := entry
    have named : name.map Json.string = some (.string text) := told .name
    cases name with
    | none => cases named
    | some name =>
      cases named
      cases told .directory
      cases told .file
      cases told .virtual
      show (blank.takeAll members).bind _ = _
      rw [taken]
      rfl

theorem ofMembers_iff (distinct : (members.map Prod.fst).Nodup) :
    ofMembers members = .ok entry ↔ entry.Written (.object members) := by
  rw [ofMembers_eq_ok]
  constructor
  · rintro ⟨slots, taken, told⟩
    have found (field : Field) : (Json.Members.find? field.key members).or (blank.told field) =
        some (entry.shown field) := (told_takeAll distinct taken field).symm.trans (told field)
    refine .object distinct ?_ ?_
    · intro field value present
      have tells := found field
      rw [(Json.Members.find?_eq_some_iff distinct).mpr present] at tells
      exact Option.some.inj tells
    · intro field shows
      apply (Json.Members.find?_eq_some_iff distinct).mp
      have tells := found field
      cases given : Json.Members.find? field.key members with
      | some value =>
        rw [given] at tells
        exact tells
      | none =>
        -- What is left out is a flag, and false.
        rw [given] at tells
        cases field with
        | name => cases tells
        | _ => exact absurd (Option.some.inj tells).symm shows
  · intro written
    cases written with
    | object _ each given =>
      obtain ⟨slots, taken⟩ := exists_takeAll each blank
      refine ⟨slots, taken, ?_⟩
      intro field
      rw [told_takeAll distinct taken]
      cases found : Json.Members.find? field.key members with
      | some value =>
        have present := (Json.Members.find?_eq_some_iff distinct).mp found
        rw [each field value present]
        rfl
      | none =>
        have left_out : entry.shown field = .bool false := by
          by_contra shows
          have present := (Json.Members.find?_eq_some_iff distinct).mpr (given field shows)
          cases found.symm.trans present
        rw [left_out]
        cases field with
        | name => cases left_out
        | _ => rfl

variable {flag : Bool} {flags : List Bool} {items : List Json}

theorem nextFlag_flags : Flags (flag :: flags) items ↔
    ∃ rest, nextFlag items = .ok (flag, rest) ∧ Flags flags rest := by
  constructor
  · generalize same : flag :: flags = all
    intro told
    cases told with
    | omitted count =>
      cases count with
      | zero => cases same
      | succ count =>
        cases same
        exact ⟨[], rfl, .omitted count⟩
    | given flag rest =>
      cases same
      exact ⟨_, rfl, rest⟩
  · rintro ⟨rest, read, told⟩
    cases items with
    | nil =>
      cases read
      cases told with
      | omitted count => exact .omitted (count + 1)
    | cons item items =>
      cases item with
      | bool given =>
        cases read
        exact .given flag told
      | _ => cases read

theorem flags_nil : Flags [] items ↔ items = [] := by
  constructor
  · generalize same : ([] : List Bool) = none
    intro told
    cases told with
    | omitted count => rfl
    | given flag rest => cases same
  · rintro rfl
    exact .omitted 0

theorem ofItems_iff : ofItems items = .ok entry ↔ entry.Written (.list items) := by
  constructor
  · intro read
    cases items with
    | nil => cases read
    | cons item items =>
      obtain ⟨name, named, read⟩ := Json.bind_eq_ok read
      obtain ⟨⟨directory, after_directory⟩, first, read⟩ := Json.bind_eq_ok read
      obtain ⟨⟨file, after_file⟩, second, read⟩ := Json.bind_eq_ok read
      obtain ⟨⟨virtual, behind⟩, third, read⟩ := Json.bind_eq_ok read
      cases behind with
      | cons extra extras => cases read
      | nil =>
        cases read
        cases item with
        | string text =>
          cases named
          apply Written.list
          exact nextFlag_flags.mpr ⟨_, first, nextFlag_flags.mpr ⟨_, second,
            nextFlag_flags.mpr ⟨_, third, flags_nil.mpr rfl⟩⟩⟩
        | _ => cases named
  · intro written
    cases written with
    | @list given told =>
      obtain ⟨after_directory, first, told⟩ := nextFlag_flags.mp told
      obtain ⟨after_file, second, told⟩ := nextFlag_flags.mp told
      obtain ⟨behind, third, told⟩ := nextFlag_flags.mp told
      cases flags_nil.mp told
      simp only [ofItems, asName, first, second, third, bind, Except.bind, pure, Except.pure]

/-- A value is read as an entry just when it says it. -/
theorem ofJson_iff {item : Json} (keyed : item.Keyed) :
    ofJson item = .ok entry ↔ entry.Written item := by
  cases item with
  | object members => exact ofMembers_iff (keyed members rfl)
  | list items => exact ofItems_iff
  | _ =>
    constructor
    · intro read
      cases read
    · intro written
      cases written

theorem Written.keyed {item : Json} (written : entry.Written item) : item.Keyed := by
  cases written with
  | object distinct each given =>
    rintro members ⟨⟩
    exact distinct
  | list flags =>
    intro members same
    cases same

theorem Written.read {item : Json} (written : entry.Written item) : ofJson item = .ok entry :=
  (ofJson_iff written.keyed).mpr written

theorem allOfJson_written {entries : List Entry} (written : List.Forall₂ Written entries items) :
    allOfJson items = .ok entries := by
  induction written with
  | nil => rfl
  | cons first rest ih =>
    rw [allOfJson, first.read, ih]
    rfl

theorem allOfJson_fault (keyed : ∀ item ∈ items, item.Keyed)
    (bad : ∃ item ∈ items, ∀ entry : Entry, ¬ entry.Written item) :
    ∃ entries before item after fault, items = before ++ item :: after ∧
      List.Forall₂ Written entries before ∧ ofJson item = .error fault ∧
      allOfJson items = .error fault := by
  induction items with
  | nil =>
    obtain ⟨item, impossible, -⟩ := bad
    cases impossible
  | cons item items ih =>
    obtain ⟨own, others⟩ := List.forall_mem_cons.mp keyed
    cases read : ofJson item with
    | error fault =>
      refine ⟨[], [], item, items, fault, rfl, .nil, read, ?_⟩
      rw [allOfJson, read]
      rfl
    | ok entry =>
      have written := (ofJson_iff own).mp read
      have later : ∃ item ∈ items, ∀ entry : Entry, ¬ entry.Written item := by
        obtain ⟨other, present, none⟩ := bad
        rcases List.mem_cons.mp present with rfl | behind
        · exact absurd written (none entry)
        · exact ⟨other, behind, none⟩
      obtain ⟨entries, before, faulty, after, fault, split, said, wrong, all⟩ := ih others later
      refine ⟨entry :: entries, item :: before, faulty, after, fault, by rw [split]; rfl,
        .cons written said, wrong, ?_⟩
      rw [allOfJson, read, all]
      rfl

end Entry

end EngineClient
