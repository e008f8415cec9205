import EngineClient.Proofs.Message.Spelling

/-!
Requests, responses, events and entries read back as they are written.
-/

namespace EngineClient

open Json (Plain Takes Ends Member Gap)

namespace Request

theorem takes_optional {σ α : Type} {member : σ → String → Json.Reader σ} {last : σ}
    {key : String} {text : α → Json} {members : Json.Members} (next : Option α → σ)
    (value : Option α)
    (taken : ∀ shown, value = some shown → ∀ rest, Ends rest → member (next none) key
      (Octet.colon :: Utf8.encode (text shown).render ++ rest) = .ok (next (some shown), rest))
    (later : Takes member (next value) members last) :
    Takes member (next none) (optionalMember key (value.map text) ++ members) last := by
  cases value with
  | none => exact later
  | some shown => exact .member (taken shown rfl) later

theorem readPayload_object {levels : Nat} {payload : Json.Members}
    (plain : Plain levels (.object payload)) (rest : Bytes) :
    readPayload levels (Utf8.encode (Json.render (.object payload)) ++ rest) =
      .ok (payload, rest) := by
  cases plain with
  | @object levels _ each distinct =>
    have reads : ∀ member ∈ payload, Json.ReadsBack (Json.readValue levels) member.2 :=
      fun member present => Json.readValue_render (each member present)
    rw [Json.encode_object, readPayload, Json.skipBlanks_solid (by decide)]
    dsimp only
    rw [if_pos rfl]
    exact Json.readObject_members (Json.skips_readValue _) reads distinct rest

variable {levels : Nat} {slots : Slots}

theorem readMember_id (free : slots.id = none) (id : String) (rest : Bytes) :
    readMember levels slots "id"
      (Octet.colon :: Utf8.encode (Json.render (.string id)) ++ rest) =
      .ok ({ slots with id := some (some id) }, rest) := by
  have read := Json.once_colon "id" (Json.readOptionalString_text id rest)
  rw [readMember, if_pos rfl, free, read]
  rfl

theorem readMember_header (free : slots.header = none) (header : String) (rest : Bytes) :
    readMember levels slots "header"
      (Octet.colon :: Utf8.encode (Json.render (.string header)) ++ rest) =
      .ok ({ slots with header := some header }, rest) := by
  have read := Json.once_colon "header" (Json.readStringAs_text "a string" header rest)
  rw [readMember, if_neg (by decide), if_pos rfl, free, read]
  rfl

theorem readMember_payload (free : slots.payload = none) {payload : Json.Members}
    (plain : Plain levels (.object payload)) (rest : Bytes) :
    readMember levels slots "payload"
      (Octet.colon :: Utf8.encode (Json.render (.object payload)) ++ rest) =
      .ok ({ slots with payload := some payload }, rest) := by
  have read := Json.once_colon "payload" (readPayload_object plain rest)
  rw [readMember, if_neg (by decide), if_neg (by decide), if_pos rfl, free, read]
  rfl

theorem parse_toJson {request : Request} (plain : Plain Json.deepest request.toJson) :
    parse request.toJson.bytes = .ok request := by
  obtain ⟨id, header, payload⟩ := request
  cases plain with
  | object each distinct =>
    have nested : Plain 126 (.object payload) := each ("payload", .object payload) (by simp)
    have takes : Takes (readMember 126) ⟨none, none, none⟩ _
        ⟨id.map some, some header, some payload⟩ :=
      takes_optional (fun id => ⟨id.map some, none, none⟩) id
        (fun id _ rest _ => readMember_id rfl id rest)
        (.member (fun rest _ => readMember_header rfl header rest)
          (.member (fun rest _ => readMember_payload rfl nested rest) (.none _)))
    have built : ofSlots ⟨id.map some, some header, some payload⟩ = .ok ⟨id, header, payload⟩ := by
      cases id <;> rfl
    exact Json.readText_record rfl takes built

theorem outbound_frame {request : Request} (plain : Plain Json.deepest request.toJson) :
    request.frame.outbound = .ok request := by
  rw [Frame.outbound, frame]
  dsimp only
  rw [parse_toJson plain]
  rfl

end Request

namespace Response

variable {response : Response} {field : Field}

def Field.key : Field → String
  | .id => "id"
  | .status => "status"
  | .kind => "kind"
  | .content => "content"
  | .error => "error"

theorem Field.key_mem_names (field : Field) : field.key ∈ field.names := by
  cases field <;> decide

/-- What is written for a field, if anything is. -/
def written? (response : Response) : Field → Option Json
  | .id => response.id.map .string
  | .status => some (.string response.status.text)
  | .kind => response.kind.map .string
  | .content => response.content
  | .error => response.error.map .string

def fields : List Field := [.id, .status, .kind, .content, .error]

def members (response : Response) : Json.Members :=
  fields.filterMap fun field => (response.written? field).map (field.key, ·)

theorem toJson_eq_object (response : Response) : response.toJson = .object response.members := by
  obtain ⟨id, status, kind, content, error⟩ := response
  cases id <;> cases kind <;> cases content <;> cases error <;> rfl

theorem mem_members {member : String × Json} (present : member ∈ response.members) :
    ∃ field, member.1 = field.key ∧ response.written? field = some member.2 := by
  obtain ⟨field, -, written⟩ := List.mem_filterMap.mp present
  obtain ⟨json, shown, rfl⟩ := Option.map_eq_some_iff.mp written
  exact ⟨field, rfl, shown⟩

theorem showsString_written {text : Option String} {json : Json}
    (written : text.map Json.string = some json) : ShowsString text (Utf8.encode json.render) := by
  obtain ⟨shown, rfl, rfl⟩ := Option.map_eq_some_iff.mp written
  rw [Json.render, Json.encode_renderString]
  exact .some (Json.spells_escaped shown.toList)

theorem showsContent_written {json : Json} (plain : Plain (Json.deepest - 1) json) :
    ShowsContent (Json.present? json) (Utf8.encode json.render) := by
  by_cases word : json = .null
  · subst word
    exact .none
  · rw [Json.present?_eq_some word]
    exact .some (Json.denotes_render plain) word

theorem pairwise_members : (response.members.map Member.written).Pairwise fun first second =>
    ∀ field, Names first field → ¬ Names second field := by
  have distinct : fields.Nodup := by decide
  refine List.pairwise_map.mpr (List.pairwise_filterMap.mpr (distinct.imp ?_))
  intro field other apart first shown second shown' known names names'
  obtain ⟨json, -, rfl⟩ := Option.map_eq_some_iff.mp shown
  obtain ⟨json', -, rfl⟩ := Option.map_eq_some_iff.mp shown'
  have same : field = known :=
    field_unique field.key_mem_names ((names_iff (Json.spells_escaped _)).mp names)
  have same' : other = known :=
    field_unique other.key_mem_names ((names_iff (Json.spells_escaped _)).mp names')
  exact apart (same.trans same'.symm)

theorem exists_written (present : response.written? field ≠ none) :
    ∃ one ∈ response.members.map Member.written, Names one field := by
  obtain ⟨json, written⟩ := Option.ne_none_iff_exists'.mp present
  have among : (field.key, json) ∈ response.members := by
    refine List.mem_filterMap.mpr ⟨field, ?_, by rw [written]; rfl⟩
    cases field <;> decide
  exact ⟨_, List.mem_map_of_mem among, (names_iff (Json.spells_escaped _)).mpr field.key_mem_names⟩

theorem spelled_members (plain : Plain Json.deepest (.object response.members)) :
    Spelled { response with content := response.content.bind Json.present? }
      (response.members.map Member.written) := by
  cases plain with
  | object each distinct =>
    refine ⟨fun one present => .inl ?_, pairwise_members, fun field has => exists_written ?_⟩
    · obtain ⟨⟨key, json⟩, among, rfl⟩ := List.mem_map.mp present
      have nested := each _ among
      obtain ⟨field, rfl, written⟩ := mem_members among
      refine ⟨field, ⟨field.key, field.key_mem_names, Json.spells_escaped _⟩, ?_⟩
      cases field with
      | id => exact showsString_written written
      | status =>
        cases written
        change ShowsStatus response.status (Utf8.encode (Json.render (.string response.status.text)))
        rw [Json.render, Json.encode_renderString]
        exact .name (Json.spells_escaped response.status.text.toList)
      | kind => exact showsString_written written
      | content =>
        have known : response.content = some json := written
        change ShowsContent (response.content.bind Json.present?) _
        rw [known]
        exact showsContent_written nested
      | error => exact showsString_written written
    · cases field with
      | status => exact Option.some_ne_none _
      | content =>
        intro none
        exact has (congrArg (Option.bind · Json.present?) none)
      | _ => exact fun none => has (Option.map_eq_none_iff.mp none)

theorem parse_toJson (plain : Plain Json.deepest response.toJson) :
    parse response.toJson.bytes =
      .ok { response with content := response.content.bind Json.present? } := by
  rw [toJson_eq_object] at plain ⊢
  have read := parse_spelled (spelled_members plain) Gap.none Gap.none Gap.none
  rw [Json.bytes, Json.objectText_written]
  exact (congrArg _ (List.append_nil _).symm).trans read

theorem inbound_frame (plain : Plain Json.deepest response.toJson) :
    response.frame.inbound =
      .ok (.response { response with content := response.content.bind Json.present? }) := by
  rw [Frame.inbound, frame]
  dsimp only
  rw [parse_toJson plain]
  rfl

end Response

namespace Event

variable {levels : Nat} {slots : Slots}

theorem readMember_id (free : slots.id = none) (id : String) (rest : Bytes) :
    readMember levels slots "id"
      (Octet.colon :: Utf8.encode (Json.render (.string id)) ++ rest) =
      .ok ({ slots with id := some (some id) }, rest) := by
  have read := Json.once_colon "id" (Json.readOptionalString_text id rest)
  rw [readMember, if_pos rfl, free, read]
  rfl

theorem readMember_header (free : slots.header = none) (header : String) (rest : Bytes) :
    readMember levels slots "header"
      (Octet.colon :: Utf8.encode (Json.render (.string header)) ++ rest) =
      .ok ({ slots with header := some header }, rest) := by
  have read := Json.once_colon "header" (Json.readStringAs_text "a string" header rest)
  rw [readMember, if_neg (by decide), if_pos rfl, free, read]
  rfl

theorem readMember_payload (free : slots.payload = none) {payload : Json}
    (plain : Plain levels payload) {rest : Bytes} (ends : Ends rest) :
    readMember levels slots "payload" (Octet.colon :: Utf8.encode payload.render ++ rest) =
      .ok ({ slots with payload := some payload }, rest) := by
  have read := Json.once_colon "payload" (Json.readValue_render plain rest ends)
  rw [readMember, if_neg (by decide), if_neg (by decide), if_pos rfl, free, read]
  rfl

theorem parse_toJson {event : Event} (plain : Plain Json.deepest event.toJson) :
    parse event.toJson.bytes = .ok event := by
  obtain ⟨id, header, payload⟩ := event
  cases plain with
  | object each distinct =>
    have nested : Plain 126 payload := each ("payload", payload) (by simp)
    have takes : Takes (readMember 126) ⟨none, none, none⟩ _
        ⟨id.map some, some header, some payload⟩ :=
      Request.takes_optional (fun id => Slots.mk (id.map some) none none) id
        (fun id _ rest _ => readMember_id rfl id rest)
        (.member (fun rest _ => readMember_header rfl header rest)
          (.member (fun rest ends => readMember_payload rfl nested ends) (.none _)))
    have built : ofSlots ⟨id.map some, some header, some payload⟩ = .ok ⟨id, header, payload⟩ := by
      cases id <;> rfl
    exact Json.readText_record rfl takes built

theorem inbound_frame {event : Event} (plain : Plain Json.deepest event.toJson) :
    event.frame.inbound = .ok (.event event) := by
  rw [Frame.inbound, frame]
  dsimp only
  rw [parse_toJson plain]
  rfl

end Event

namespace Entry

theorem ofJson_toJson (entry : Entry) : ofJson entry.toJson = .ok entry := rfl

theorem allOfJson_toJson (entries : List Entry) : allOfJson (entries.map toJson) = .ok entries := by
  induction entries with
  | nil => rfl
  | cons entry entries ih =>
    rw [List.map_cons, allOfJson, ofJson_toJson, ih]
    rfl

theorem plain_toJson (levels : Nat) (entry : Entry) : Plain (levels + 1) entry.toJson := by
  have distinct : ["name", "is_dir", "is_file", "is_virtual"].Nodup := by decide
  refine .object ?_ distinct
  intro member present
  simp only [List.mem_cons, List.not_mem_nil, or_false] at present
  obtain rfl | rfl | rfl | rfl := present
  · exact .string _
  · exact .bool _
  · exact .bool _
  · exact .bool _

end Entry

theorem Request.outbound_directoryOpen (path id : String) :
    ((directoryOpen path).withId id).frame.outbound = .ok ((directoryOpen path).withId id) := by
  have keys : ["id", "header", "payload"].Nodup := by decide
  have payload : Plain 126 (.object [("path", .string path)]) :=
    .object (by simp [Json.Plain.string]) (by simp)
  have plain : Plain Json.deepest ((directoryOpen path).withId id).toJson := by
    refine .object ?_ keys
    intro member present
    simp only [optionalMember, withId, directoryOpen, withParam, new, Json.insert,
      Option.map_some, List.cons_append, List.nil_append, List.mem_cons, List.not_mem_nil,
      or_false] at present
    obtain rfl | rfl | rfl := present
    · exact .string _
    · exact .string _
    · exact payload
  exact outbound_frame plain

namespace Response

def ofEntries (id : String) (entries : List Entry) : Response :=
  success id collectionKind (.list (entries.map Entry.toJson))

theorem entries_ofEntries (id : String) (entries : List Entry) :
    (ofEntries id entries).entries = .ok entries := by
  have read := Entry.allOfJson_toJson entries
  have shown : (ofEntries id entries).result = .ok (.collection entries) := by
    rw [result]
    simp only [ofEntries, success, Option.getD_some, if_true, entriesOf, read]
    rfl
  rw [Response.entries, shown]
  rfl

theorem inbound_ofEntries (id : String) (entries : List Entry) :
    (ofEntries id entries).frame.inbound = .ok (.response (ofEntries id entries)) := by
  have keys : ["id", "status", "kind", "content"].Nodup := by decide
  have content : Plain 126 (.list (entries.map Entry.toJson)) := by
    refine .list ?_
    intro item present
    obtain ⟨entry, -, rfl⟩ := List.mem_map.mp present
    exact Entry.plain_toJson _ entry
  have plain : Plain Json.deepest (ofEntries id entries).toJson := by
    refine .object ?_ keys
    intro member present
    simp only [ofEntries, success, Request.optionalMember, Option.map_some, Option.map_none,
      List.cons_append, List.nil_append, List.append_nil, List.mem_cons, List.not_mem_nil,
      or_false] at present
    obtain rfl | rfl | rfl | rfl := present
    · exact .string _
    · exact .string _
    · exact .string _
    · exact content
  exact inbound_frame plain

end Response

end EngineClient
