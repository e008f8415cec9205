import EngineClient.Json.Printer
import EngineClient.Proofs.Json.Sequences

/-!
Lists and objects as they are written: item by item and member by member, with no blanks between the tokens.
An object reads back when its members do.
-/

namespace EngineClient.Json

/-- The reader takes the text of this value, and leaves what follows it. -/
def ReadsBack (reader : Reader Json) (json : Json) : Prop :=
  ∀ rest, Ends rest → reader (Utf8.encode json.render ++ rest) = .ok (json, rest)

theorem separated_cons (separator piece : List Char) (pieces : List (List Char)) :
    separated separator (piece :: pieces) = piece ++ pieces.flatMap (separator ++ ·) := by
  induction pieces generalizing piece with
  | nil => simp [separated]
  | cons next pieces ih => simp [separated, ih next]

theorem renderItems_eq_map (items : List Json) : renderItems items = items.map render := by
  induction items with
  | nil => rfl
  | cons item items ih => rw [renderItems, ih, List.map_cons]

def renderMember (member : String × Json) : List Char :=
  renderString member.1 ++ ':' :: member.2.render

theorem renderMembers_eq_map (members : Members) : renderMembers members = members.map renderMember := by
  induction members with
  | nil => rfl
  | cons member members ih => rw [renderMembers, ih, List.map_cons, renderMember]

theorem encode_comma (text : List Char) :
    Utf8.encode (',' :: text) = Octet.comma :: Utf8.encode text := rfl

theorem encode_colon (text : List Char) :
    Utf8.encode (':' :: text) = Octet.colon :: Utf8.encode text := rfl

theorem encode_separated (pieces : List (List Char)) :
    Utf8.encode (separated [','] pieces) = joined (pieces.map Utf8.encode) := by
  cases pieces with
  | nil => rfl
  | cons piece pieces =>
    rw [separated_cons, List.map_cons, joined, Utf8.encode_append]
    congr 1
    induction pieces with
    | nil => rfl
    | cons next pieces ih =>
      rw [List.flatMap_cons, List.map_cons, List.flatMap_cons, List.singleton_append,
        List.cons_append, encode_comma, Utf8.encode_append, ih, List.cons_append]

def Item.written (json : Json) : Item := ⟨Gap.none, Utf8.encode json.render, Gap.none⟩

theorem text_written (json : Json) : (Item.written json).text = Utf8.encode json.render :=
  List.append_nil _

theorem joined_renderItems (items : List Json) : Utf8.encode (separated [','] (renderItems items)) =
    joined (items.map fun json => (Item.written json).text) := by
  simp only [text_written]
  rw [encode_separated, renderItems_eq_map, List.map_map]
  rfl

def Member.written (member : String × Json) : Member :=
  ⟨Gap.none, Utf8.encode (member.1.toList.flatMap escape), Gap.none, Item.written member.2⟩

/-- The reader takes these members one after another, which leads from a state to a state. -/
inductive Takes {σ : Type} (member : σ → String → Reader σ) : σ → Members → σ → Prop
  | none (state : σ) : Takes member state [] state
  | member {state next last : σ} {key : String} {value : Json} {members : Members}
      (taken : ∀ rest, Ends rest → member state key
        (Octet.colon :: Utf8.encode value.render ++ rest) = .ok (next, rest))
      (later : Takes member next members last) :
      Takes member state ((key, value) :: members) last

theorem Takes.chain {σ : Type} {member : σ → String → Reader σ} {state last : σ}
    {members : Members} (takes : Takes member state members last) :
    Chain (Leads member) state (members.map Member.written) last := by
  induction takes with
  | none state => exact .none state
  | member taken later ih => exact .member ⟨_, readString_text _, taken⟩ ih

theorem member_text_written (member : String × Json) :
    (Member.written member).text = Utf8.encode (renderMember member) := by
  have value := text_written member.2
  rw [renderMember, Utf8.encode_append, encode_renderString, encode_colon, ← value]
  rfl

theorem joined_renderMembers (members : Members) :
    Utf8.encode (separated [','] (renderMembers members)) =
      joined ((members.map Member.written).map Member.text) := by
  rw [encode_separated, renderMembers_eq_map, List.map_map, List.map_map]
  exact congrArg joined (List.map_congr_left fun member _ => (member_text_written member).symm)

theorem insert_fresh {key : String} {members : Members} (fresh : key ∉ members.map Prod.fst)
    (value : Json) : insert key value members = members ++ [(key, value)] := by
  induction members with
  | nil => rfl
  | cons member members ih =>
    rw [List.map_cons, List.mem_cons, not_or] at fresh
    obtain ⟨other, fresh⟩ := fresh
    rw [insert, if_neg (Ne.symm other), ih fresh, List.cons_append]

def toldOf (members : Members) : List Told :=
  members.map fun member => (Member.written member, member)

theorem map_fst_toldOf (members : Members) :
    (toldOf members).map Prod.fst = members.map Member.written := List.map_map

theorem membersOf_toldOf {before members : Members}
    (distinct : ((before ++ members).map Prod.fst).Nodup) :
    membersOf (toldOf members) before = before ++ members := by
  induction members generalizing before with
  | nil => exact (List.append_nil before).symm
  | cons member members ih =>
    have fresh : member.1 ∉ before.map Prod.fst := by
      rw [List.map_append, List.map_cons] at distinct
      intro present
      exact (List.nodup_append.mp distinct).2.2 _ present _ List.mem_cons_self rfl
    rw [List.append_cons] at distinct ⊢
    rw [← ih distinct, ← insert_fresh fresh]
    rfl

theorem readObject_members {reader : Reader Json} (skips : Skips reader) {members : Members}
    (each : ∀ member ∈ members, ReadsBack reader member.2)
    (distinct : (members.map Prod.fst).Nodup) (rest : Bytes) :
    readObject reader
      (Utf8.encode (separated [','] (renderMembers members)) ++ Octet.closeObject :: rest) =
      .ok (members, rest) := by
  have told : ∀ one ∈ toldOf members,
      (∀ rest, readString (one.1.letters ++ Octet.quote :: rest) = .ok (one.2.1, rest)) ∧
        Reads reader one.1.item.value one.2.2 :=
    List.forall_mem_map.mpr fun member present => ⟨readString_text member.1, each member present⟩
  have read := readObject_reads skips told Gap.none rest
  rw [@membersOf_toldOf [] members distinct, map_fst_toldOf] at read
  rw [joined_renderMembers]
  exact read

end EngineClient.Json
