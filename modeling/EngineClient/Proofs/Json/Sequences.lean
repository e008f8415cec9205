import EngineClient.Json.Record
import EngineClient.Proofs.Json.Skimming

/-!
The loops over the items of a list and the members of an object, for any reader of an item or a member and
whatever blanks stand between the tokens.
-/

namespace EngineClient.Json

variable {α β σ : Type} {item : Reader α} {track input : Bytes} {first : Bool}

/-- In front of anything that cannot extend a number, the reader takes this value from the text. -/
def Reads (reader : Reader α) (text : Bytes) (value : α) : Prop :=
  ∀ rest, Ends rest → reader (text ++ rest) = .ok (value, rest)

/-- A reader that takes a value from the text, and not from a part of it or from what follows. -/
def Stops (reader : Reader α) (text : Bytes) : Prop :=
  ∀ rest value after, Ends rest → reader (text ++ rest) = .ok (value, after) → after = rest

theorem Reads.stops {reader : Reader α} {text : Bytes} {value : α} (reads : Reads reader text value) :
    Stops reader text := by
  intro rest other after ends read
  rw [reads rest ends] at read
  cases read
  rfl

theorem bind_eq_ok {x : Except Error α} {f : α → Except Error β} {result : β}
    (bound : (x >>= f) = .ok result) : ∃ value, x = .ok value ∧ f value = .ok result := by
  cases x with
  | error fault => cases bound
  | ok value => exact ⟨value, rfl, bound⟩

theorem nextItem_gap (first : Bool) (gap : Gap) (input : Bytes) :
    nextItem first (gap.val ++ input) = nextItem first input := by
  rw [nextItem, nextItem, skipBlanks_gap]

theorem nextItem_close (first : Bool) (rest : Bytes) :
    nextItem first (Octet.closeList :: rest) = .ok (.close (Octet.closeList :: rest)) := by
  rw [nextItem, skipBlanks_solid (by decide)]
  simp

theorem nextItem_first {text : Bytes} (begins : Begins text) (rest : Bytes) :
    nextItem true (text ++ rest) = .ok (.entry (text ++ rest)) := by
  obtain ⟨octet, tail, rfl, solid, inside⟩ := begins
  rw [List.cons_append, nextItem, skipBlanks_solid solid]
  simp [inside]

theorem nextItem_comma {text : Bytes} (begins : Begins text) (gap : Gap) (rest : Bytes) :
    nextItem false (Octet.comma :: (gap.val ++ (text ++ rest))) = .ok (.entry (text ++ rest)) := by
  obtain ⟨octet, tail, rfl, solid, inside⟩ := begins
  have no_close : Octet.comma ≠ Octet.closeList := by decide
  rw [nextItem, skipBlanks_solid (by decide)]
  simp only [no_close, if_false, Bool.false_eq_true, if_true, skipBlanks_gap, List.cons_append,
    skipBlanks_solid solid, inside]

theorem readItems_gap (gap : Gap) :
    readItems item track first (gap.val ++ input) = readItems item track first input := by
  cases track with
  | nil => rfl
  | cons mark track => rw [readItems, readItems, nextItem_gap]

theorem readItems_close (mark : UInt8) (track : Bytes) (first : Bool) (rest : Bytes) :
    readItems item (mark :: track) first (Octet.closeList :: rest) =
      .ok ([], Octet.closeList :: rest) := by
  rw [readItems, nextItem_close]
  rfl

def readItem (item : Reader α) (track : Bytes) (input : Bytes) : Except Error (List α × Bytes) := do
  let (value, rest) ← item input
  let (values, rest) ← readItems item track false rest
  return (value :: values, rest)

theorem readItems_first {one : Item} (begins : Begins one.value) (mark : UInt8) (rest : Bytes) :
    readItems item (mark :: track) true (one.text ++ rest) =
      readItem item track (one.value ++ (one.behind.val ++ rest)) := by
  rw [Item.text, List.append_assoc, List.append_assoc, readItems_gap, readItems,
    nextItem_first begins]
  rfl

theorem readItems_comma {one : Item} (begins : Begins one.value) (mark : UInt8) (rest : Bytes) :
    readItems item (mark :: track) false (Octet.comma :: (one.text ++ rest)) =
      readItem item track (one.value ++ (one.behind.val ++ rest)) := by
  rw [Item.text, List.append_assoc, List.append_assoc, readItems, nextItem_comma begins]
  rfl

theorem readItem_reads {one : Item} {value : α} {rest : Bytes} (reads : Reads item one.value value)
    (ends : Ends rest) : readItem item track (one.value ++ (one.behind.val ++ rest)) =
      (readItems item track false rest).map fun read => (value :: read.1, read.2) := by
  rw [readItem, reads _ (ends_gap one.behind ends)]
  simp only [bind, Except.bind, readItems_gap]
  cases readItems item track false rest <;> rfl

theorem readItem_stops {one : Item} {values : List α} {rest after : Bytes}
    (stops : Stops item one.value) (ends : Ends rest)
    (read : readItem item track (one.value ++ (one.behind.val ++ rest)) = .ok (values, after)) :
    ∃ later, readItems item track false rest = .ok (later, after) := by
  obtain ⟨⟨value, behind⟩, reading, read⟩ := bind_eq_ok read
  obtain ⟨⟨later, last⟩, readings, read⟩ := bind_eq_ok read
  cases read
  rw [stops _ _ _ (ends_gap one.behind ends) reading, readItems_gap] at readings
  exact ⟨later, readings⟩

theorem readItems_reads {pairs : List (Item × α)}
    (each : ∀ pair ∈ pairs, Begins pair.1.value ∧ Reads item pair.1.value pair.2)
    (enough : pairs.length < track.length) (rest : Bytes) :
    readItems item track false ((pairs.map fun pair => pair.1.text).flatMap (Octet.comma :: ·) ++
      Octet.closeList :: rest) = .ok (pairs.map Prod.snd, Octet.closeList :: rest) := by
  -- the track is longer than the items are many, so a byte of it is left at the bracket
  induction pairs generalizing track with
  | nil =>
    obtain ⟨mark, track, rfl⟩ := List.exists_cons_of_length_pos (by omega : 0 < track.length)
    exact readItems_close mark track false rest
  | cons pair pairs ih =>
    obtain ⟨mark, track, rfl⟩ := List.exists_cons_of_length_pos (by omega : 0 < track.length)
    obtain ⟨⟨begins, reads⟩, each⟩ := List.forall_mem_cons.mp each
    have later := ih each (by simpa using enough)
    rw [List.map_cons, List.flatMap_cons, List.cons_append, List.cons_append, List.append_assoc,
      readItems_comma begins, readItem_reads reads (ends_later _ (ends_closeList rest)), later]
    rfl

theorem readItems_stops {items : List Item}
    (each : ∀ one ∈ items, Begins one.value ∧ Stops item one.value) {rest after : Bytes}
    {values : List α} (read : readItems item track false
      ((items.map Item.text).flatMap (Octet.comma :: ·) ++ Octet.closeList :: rest) =
        .ok (values, after)) : after = Octet.closeList :: rest := by
  induction items generalizing track values with
  | nil =>
    cases track with
    | nil => cases read
    | cons mark track =>
      rw [List.map_nil, List.flatMap_nil, List.nil_append, readItems_close] at read
      cases read
      rfl
  | cons one items ih =>
    cases track with
    | nil => cases read
    | cons mark track =>
      obtain ⟨⟨begins, stops⟩, each⟩ := List.forall_mem_cons.mp each
      rw [List.map_cons, List.flatMap_cons, List.cons_append, List.cons_append, List.append_assoc,
        readItems_comma begins] at read
      obtain ⟨later, read⟩ := readItem_stops stops (ends_later _ (ends_closeList rest)) read
      exact ih each read

theorem endList_close (rest : Bytes) : endList (Octet.closeList :: rest) = .ok rest := by
  rw [endList, skipBlanks_solid (by decide)]
  simp

theorem length_le_joined (pieces : List Bytes) : pieces.length ≤ (joined pieces).length + 1 := by
  cases pieces with
  | nil => exact Nat.zero_le _
  | cons piece pieces =>
    have later : pieces.length ≤ (pieces.flatMap (Octet.comma :: ·)).length := by
      induction pieces with
      | nil => exact Nat.le_refl _
      | cons next pieces ih =>
        rw [List.flatMap_cons, List.length_append, List.length_cons, List.length_cons]
        omega
    rw [joined, List.length_append, List.length_cons]
    omega

theorem readList_reads {pairs : List (Item × α)}
    (each : ∀ pair ∈ pairs, Begins pair.1.value ∧ Reads item pair.1.value pair.2) (lead : Gap)
    (rest : Bytes) :
    readList item (lead.val ++ (joined (pairs.map fun pair => pair.1.text) ++
      Octet.closeList :: rest)) = .ok (pairs.map Prod.snd, rest) := by
  have enough := length_le_joined (pairs.map fun pair => pair.1.text)
  have read : readItems item (Octet.openList :: (lead.val ++ (joined (pairs.map fun pair =>
      pair.1.text) ++ Octet.closeList :: rest))) true (lead.val ++ (joined (pairs.map fun pair =>
      pair.1.text) ++ Octet.closeList :: rest)) =
      .ok (pairs.map Prod.snd, Octet.closeList :: rest) := by
    rw [readItems_gap]
    cases pairs with
    | nil => exact readItems_close _ _ true rest
    | cons pair pairs =>
      obtain ⟨⟨begins, reads⟩, each⟩ := List.forall_mem_cons.mp each
      rw [List.map_cons, joined, List.append_assoc, readItems_first begins,
        readItem_reads reads (ends_later _ (ends_closeList rest)), readItems_reads each]
      · rfl
      · simp only [List.length_map, List.length_cons, List.length_append, List.map_cons,
          joined] at enough ⊢
        omega
  rw [readList, read]
  simp only [bind, Except.bind, endList_close, pure, Except.pure]

theorem readList_stops {items : List Item}
    (each : ∀ one ∈ items, Begins one.value ∧ Stops item one.value) {lead : Gap}
    {rest after : Bytes} {values : List α} (read : readList item (lead.val ++
      (joined (items.map Item.text) ++ Octet.closeList :: rest)) = .ok (values, after)) :
    after = rest := by
  obtain ⟨⟨others, last⟩, reading, read⟩ := bind_eq_ok read
  have stopped : last = Octet.closeList :: rest := by
    rw [readItems_gap] at reading
    cases items with
    | nil =>
      rw [List.map_nil, joined, List.nil_append, readItems_close] at reading
      cases reading
      rfl
    | cons one items =>
      obtain ⟨⟨begins, stops⟩, each⟩ := List.forall_mem_cons.mp each
      rw [List.map_cons, joined, List.append_assoc, readItems_first begins] at reading
      obtain ⟨later, reading⟩ := readItem_stops stops (ends_later _ (ends_closeList rest)) reading
      exact readItems_stops each reading
  rw [stopped] at read
  simp only [endList_close, bind, Except.bind, pure, Except.pure] at read
  cases read
  rfl

variable {member : σ → String → Reader σ}

def Member.tail (one : Member) : Bytes :=
  one.pause.val ++ Octet.colon :: (one.item.before.val ++ one.item.value)

theorem Member.text_append (one : Member) (rest : Bytes) :
    one.text ++ rest = one.before.val ++ Octet.quote :: (one.letters ++ Octet.quote ::
      (one.tail ++ (one.item.behind.val ++ rest))) := by
  simp [Member.text, Member.tail, Item.text, quoted]

theorem nextKey_gap (first : Bool) (gap : Gap) (input : Bytes) :
    nextKey first (gap.val ++ input) = nextKey first input := by
  rw [nextKey, nextKey, skipBlanks_gap]

theorem nextKey_close (first : Bool) (rest : Bytes) :
    nextKey first (Octet.closeObject :: rest) = .ok (.close (Octet.closeObject :: rest)) := by
  rw [nextKey, skipBlanks_solid (by decide)]
  simp

theorem nextKey_first (rest : Bytes) :
    nextKey true (Octet.quote :: rest) = .ok (.entry rest) := by
  have no_close : Octet.quote ≠ Octet.closeObject := by decide
  rw [nextKey, skipBlanks_solid (by decide)]
  simp only [no_close, if_false, if_true]

theorem nextKey_comma (gap : Gap) (rest : Bytes) :
    nextKey false (Octet.comma :: (gap.val ++ Octet.quote :: rest)) = .ok (.entry rest) := by
  have no_close : Octet.comma ≠ Octet.closeObject := by decide
  rw [nextKey, skipBlanks_solid (by decide)]
  simp only [no_close, if_false, Bool.false_eq_true, if_true, skipBlanks_gap,
    skipBlanks_solid (by decide : isBlank Octet.quote = false)]

theorem readMembers_gap (state : σ) (gap : Gap) :
    readMembers member track first state (gap.val ++ input) =
      readMembers member track first state input := by
  cases track with
  | nil => rfl
  | cons mark track => rw [readMembers, readMembers, nextKey_gap]

theorem readMembers_close (mark : UInt8) (track : Bytes) (first : Bool) (state : σ)
    (rest : Bytes) :
    readMembers member (mark :: track) first state (Octet.closeObject :: rest) =
      .ok (state, Octet.closeObject :: rest) := by
  rw [readMembers, nextKey_close]
  rfl

def readKeyed (member : σ → String → Reader σ) (track : Bytes) (state : σ) (input : Bytes) :
    Except Error (σ × Bytes) := do
  let (key, rest) ← readString input
  let (state, rest) ← member state key rest
  readMembers member track false state rest

theorem readMembers_first (one : Member) (mark : UInt8) (state : σ) (rest : Bytes) :
    readMembers member (mark :: track) true state (one.text ++ rest) =
      readKeyed member track state (one.letters ++ Octet.quote ::
        (one.tail ++ (one.item.behind.val ++ rest))) := by
  rw [one.text_append, readMembers_gap, readMembers, nextKey_first]
  rfl

theorem readMembers_comma (one : Member) (mark : UInt8) (state : σ) (rest : Bytes) :
    readMembers member (mark :: track) false state (Octet.comma :: (one.text ++ rest)) =
      readKeyed member track state (one.letters ++ Octet.quote ::
        (one.tail ++ (one.item.behind.val ++ rest))) := by
  rw [one.text_append, readMembers, nextKey_comma]
  rfl

/-- One member after another leads from a state to a state. -/
inductive Chain (step : σ → Member → σ → Prop) : σ → List Member → σ → Prop
  | none (state : σ) : Chain step state [] state
  | member {state next last : σ} {one : Member} {members : List Member}
      (first : step state one next) (later : Chain step next members last) :
      Chain step state (one :: members) last

def Leads (member : σ → String → Reader σ) (state : σ) (one : Member) (next : σ) : Prop :=
  ∃ key, (∀ rest, readString (one.letters ++ Octet.quote :: rest) = .ok (key, rest)) ∧
    Reads (member state key) one.tail next

def Led (member : σ → String → Reader σ) (state : σ) (one : Member) (next : σ) : Prop :=
  ∃ key before behind,
    readString (one.letters ++ Octet.quote :: before) = .ok (key, before) ∧
    member state key (one.tail ++ behind) = .ok (next, behind)

theorem readKeyed_leads {one : Member} {state next : σ} {rest : Bytes}
    (leads : Leads member state one next) (ends : Ends rest) :
    readKeyed member track state (one.letters ++ Octet.quote ::
      (one.tail ++ (one.item.behind.val ++ rest))) =
      readMembers member track false next rest := by
  obtain ⟨key, keyed, reads⟩ := leads
  rw [readKeyed, keyed]
  simp only [bind, Except.bind, reads _ (ends_gap one.item.behind ends), readMembers_gap]

/-- The text of a member has its key in quotes, and no reader takes less or more of what stands behind it. -/
def Sound (member : σ → String → Reader σ) (one : Member) : Prop :=
  IsLetters one.letters ∧ ∀ state key, Stops (member state key) one.tail

theorem led_of_readKeyed {one : Member} {state last : σ} {rest after : Bytes}
    (sound : Sound member one) (ends : Ends rest)
    (read : readKeyed member track state (one.letters ++ Octet.quote ::
      (one.tail ++ (one.item.behind.val ++ rest))) = .ok (last, after)) :
    ∃ next, Led member state one next ∧
      readMembers member track false next rest = .ok (last, after) := by
  obtain ⟨⟨key, behind⟩, keyed, read⟩ := bind_eq_ok read
  obtain ⟨⟨next, later⟩, taken, read⟩ := bind_eq_ok read
  obtain rfl := readString_stops sound.1 keyed
  obtain rfl := sound.2 state key _ _ _ (ends_gap one.item.behind ends) taken
  dsimp only at read
  rw [readMembers_gap] at read
  exact ⟨next, ⟨key, _, _, keyed, taken⟩, read⟩

theorem readMembers_chain {members : List Member} {state last : σ}
    (chain : Chain (Leads member) state members last) (enough : members.length < track.length)
    (rest : Bytes) :
    readMembers member track false state ((members.map Member.text).flatMap (Octet.comma :: ·) ++
      Octet.closeObject :: rest) = .ok (last, Octet.closeObject :: rest) := by
  induction chain generalizing track with
  | none state =>
    obtain ⟨mark, track, rfl⟩ := List.exists_cons_of_length_pos (by omega : 0 < track.length)
    exact readMembers_close mark track false _ rest
  | member leads later ih =>
    obtain ⟨mark, track, rfl⟩ := List.exists_cons_of_length_pos (by omega : 0 < track.length)
    rw [List.map_cons, List.flatMap_cons, List.cons_append, List.cons_append, List.append_assoc,
      readMembers_comma, readKeyed_leads leads (ends_later _ (ends_closeObject rest))]
    exact ih (by simpa using enough)

theorem chain_of_readMembers {members : List Member}
    (each : ∀ one ∈ members, Sound member one) {state last : σ} {rest after : Bytes}
    (read : readMembers member track false state ((members.map Member.text).flatMap
      (Octet.comma :: ·) ++ Octet.closeObject :: rest) = .ok (last, after)) :
    Chain (Led member) state members last ∧ after = Octet.closeObject :: rest := by
  induction members generalizing track state with
  | nil =>
    cases track with
    | nil => cases read
    | cons mark track =>
      rw [List.map_nil, List.flatMap_nil, List.nil_append, readMembers_close] at read
      cases read
      exact ⟨.none _, rfl⟩
  | cons one members ih =>
    cases track with
    | nil => cases read
    | cons mark track =>
      obtain ⟨sound, each⟩ := List.forall_mem_cons.mp each
      rw [List.map_cons, List.flatMap_cons, List.cons_append, List.cons_append, List.append_assoc,
        readMembers_comma] at read
      obtain ⟨next, led, read⟩ := led_of_readKeyed sound (ends_later _ (ends_closeObject rest)) read
      obtain ⟨chain, stopped⟩ := ih each read
      exact ⟨.member led chain, stopped⟩

theorem endObject_close (rest : Bytes) : endObject (Octet.closeObject :: rest) = .ok rest := by
  rw [endObject, skipBlanks_solid (by decide)]
  simp

theorem readMembers_joined {members : List Member} {state last : σ}
    (chain : Chain (Leads member) state members last) (mark : UInt8) (lead : Gap) (rest : Bytes) :
    readMembers member (mark :: (lead.val ++ (joined (members.map Member.text) ++
      Octet.closeObject :: rest))) true state (lead.val ++ (joined (members.map Member.text) ++
      Octet.closeObject :: rest)) = .ok (last, Octet.closeObject :: rest) := by
  have enough := length_le_joined (members.map Member.text)
  rw [readMembers_gap]
  cases chain with
  | none => exact readMembers_close _ _ true state rest
  | member leads later =>
    rw [List.map_cons, joined, List.append_assoc, readMembers_first,
      readKeyed_leads leads (ends_later _ (ends_closeObject rest)), readMembers_chain later]
    simp only [List.length_map, List.length_cons, List.length_append, List.map_cons,
      joined] at enough ⊢
    omega

theorem chain_of_joined {members : List Member} (each : ∀ one ∈ members, Sound member one)
    {state last : σ} {lead : Gap} {rest after : Bytes}
    (read : readMembers member track true state (lead.val ++ (joined (members.map Member.text) ++
      Octet.closeObject :: rest)) = .ok (last, after)) :
    Chain (Led member) state members last ∧ after = Octet.closeObject :: rest := by
  rw [readMembers_gap] at read
  cases track with
  | nil => cases read
  | cons mark track =>
    cases members with
    | nil =>
      rw [List.map_nil, joined, List.nil_append, readMembers_close] at read
      cases read
      exact ⟨.none _, rfl⟩
    | cons one members =>
      obtain ⟨sound, each⟩ := List.forall_mem_cons.mp each
      rw [List.map_cons, joined, List.append_assoc, readMembers_first] at read
      obtain ⟨next, led, read⟩ := led_of_readKeyed sound (ends_later _ (ends_closeObject rest)) read
      obtain ⟨chain, stopped⟩ := chain_of_readMembers each read
      exact ⟨.member led chain, stopped⟩

def Skips (reader : Reader α) : Prop :=
  ∀ (gap : Gap) input, reader (gap.val ++ input) = reader input

variable {reader : Reader Json}

theorem addMember_tail (skips : Skips reader) (members : Members) (key : String) (one : Member)
    (rest : Bytes) :
    addMember reader members key (one.tail ++ rest) =
      (reader (one.item.value ++ rest)).map fun read => (insert key read.1 members, read.2) := by
  rw [addMember, Member.tail, List.append_assoc, List.cons_append, List.append_assoc, colon_gap]
  simp only [bind, Except.bind]
  rw [skips]
  cases reader (one.item.value ++ rest) <;> rfl

abbrev Told := Member × String × Json

/-- What the members are to an object: a repeated key keeps its place and takes the last value. -/
def membersOf (told : List Told) (members : Members) : Members :=
  told.foldl (fun members one => insert one.2.1 one.2.2 members) members

theorem chain_addMember (skips : Skips reader) {told : List Told}
    (each : ∀ one ∈ told, (∀ rest, readString (one.1.letters ++ Octet.quote :: rest) =
      .ok (one.2.1, rest)) ∧ Reads reader one.1.item.value one.2.2) (members : Members) :
    Chain (Leads (addMember reader)) members (told.map Prod.fst) (membersOf told members) := by
  induction told generalizing members with
  | nil => exact .none members
  | cons one told ih =>
    obtain ⟨⟨keyed, reads⟩, each⟩ := List.forall_mem_cons.mp each
    refine .member ⟨one.2.1, keyed, fun rest ends => ?_⟩ (ih each (insert one.2.1 one.2.2 members))
    rw [addMember_tail skips, reads rest ends]
    rfl

/-- The text of an object behind its opening bracket is read member by member. -/
theorem readObject_reads (skips : Skips reader) {told : List Told}
    (each : ∀ one ∈ told, (∀ rest, readString (one.1.letters ++ Octet.quote :: rest) =
      .ok (one.2.1, rest)) ∧ Reads reader one.1.item.value one.2.2) (lead : Gap) (rest : Bytes) :
    readObject reader (lead.val ++ (joined ((told.map Prod.fst).map Member.text) ++
      Octet.closeObject :: rest)) = .ok (membersOf told [], rest) := by
  rw [readObject, readMembers_joined (chain_addMember skips each [])]
  simp only [bind, Except.bind, endObject_close, pure, Except.pure]

theorem readObject_stops (skips : Skips reader) {members : List Member}
    (keyed : ∀ one ∈ members, IsLetters one.letters)
    (each : ∀ one ∈ members, Stops reader one.item.value) {lead : Gap} {rest after : Bytes}
    {object : Members} (read : readObject reader (lead.val ++ (joined (members.map Member.text) ++
      Octet.closeObject :: rest)) = .ok (object, after)) : after = rest := by
  have sound : ∀ one ∈ members, Sound (addMember reader) one := by
    refine fun one present => ⟨keyed one present, fun before key rest next after ends taken => ?_⟩
    rw [addMember_tail skips] at taken
    cases reading : reader (one.item.value ++ rest) with
    | error fault =>
      rw [reading] at taken
      cases taken
    | ok result =>
      obtain ⟨value, behind⟩ := result
      rw [reading] at taken
      cases taken
      exact each one present rest value behind ends reading
  obtain ⟨⟨others, last⟩, reading, read⟩ := bind_eq_ok read
  obtain ⟨-, rfl⟩ := chain_of_joined sound reading
  simp only [endObject_close, bind, Except.bind, pure, Except.pure] at read
  cases read
  rfl

end EngineClient.Json
