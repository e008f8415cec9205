import EngineClient.Proofs.Frame.Codec
import EngineClient.Proofs.Json.Portable
import EngineClient.Proofs.Message.RoundTrip

/-!
Messages on the wire: what one side encodes, the other decodes and parses to the same value.
-/

namespace EngineClient

namespace Response

theorem getD_present (content : Option Json) :
    (content.bind Json.present?).getD .null = content.getD .null := by
  obtain _ | json := content
  · rfl
  · cases json <;> rfl

theorem string_present (content : Option Json) :
    content.bind Json.present? >>= Json.string? = content >>= Json.string? := by
  obtain _ | json := content
  · rfl
  · cases json <;> rfl

theorem errorMessage_present (response : Response) :
    errorMessage { response with content := response.content.bind Json.present? } =
      response.errorMessage := by
  rw [errorMessage, string_present, errorMessage]

theorem result_present (response : Response) :
    result { response with content := response.content.bind Json.present? } = response.result := by
  rw [result, result, errorMessage_present, getD_present]

theorem entries_present (response : Response) :
    entries { response with content := response.content.bind Json.present? } =
      response.entries := by
  rw [entries, entries, result_present]

theorem bind_present {response : Response} (shown : response.content ≠ some .null) :
    response.content.bind Json.present? = response.content := by
  cases same : response.content with
  | none => rfl
  | some json => exact Json.present?_eq_some fun null => shown (null ▸ same)

end Response

/-- Requests, events and responses come back from the wire as they were sent, whatever follows them,
and take exactly the bytes they were given. Only a content that is null comes back as none, which no
reading of the response tells apart. -/
theorem messages_read_back (rest : Bytes) :
    (∀ request : Request, request.toJson.Portable → request.frame.Fits →
      Frame.decode? (request.frame.encode ++ rest) =
          .ok (some (request.frame, request.frame.encode.length)) ∧
        request.frame.outbound = .ok request) ∧
    (∀ event : Event, event.toJson.Portable → event.frame.Fits →
      Frame.decode? (event.frame.encode ++ rest) =
          .ok (some (event.frame, event.frame.encode.length)) ∧
        event.frame.inbound = .ok (.event event)) ∧
    (∀ response : Response, response.toJson.Portable → response.frame.Fits →
      Frame.decode? (response.frame.encode ++ rest) =
          .ok (some (response.frame, response.frame.encode.length)) ∧
        ∃ back, response.frame.inbound = .ok (.response back) ∧
          (response.content ≠ some .null → back = response) ∧
          (response.content = some .null → back = { response with content := none }) ∧
          back.result = response.result ∧ back.entries = response.entries ∧
          back.errorMessage = response.errorMessage) := by
  refine ⟨fun request portable fits => ?_, fun event portable fits => ?_,
    fun response portable fits => ?_⟩
  · exact ⟨Frame.decode?_encode_append fits rest, Request.outbound_frame portable.plain⟩
  · exact ⟨Frame.decode?_encode_append fits rest, Event.inbound_frame portable.plain⟩
  · refine ⟨Frame.decode?_encode_append fits rest, _, Response.inbound_frame portable.plain,
      fun shown => ?_, fun null => ?_, response.result_present, response.entries_present,
      response.errorMessage_present⟩
    · rw [Response.bind_present shown]
    · rw [null]
      rfl

theorem messages_read_back_null :
    let response : Response := ⟨some "a\"\n\\é", .success, some "Entry", some .null, none⟩
    response.toJson.Portable ∧ response.frame.Fits ∧
      Frame.decode? (response.frame.encode ++ [Octet.quote]) =
        .ok (some (response.frame, response.frame.encode.length)) ∧
      response.frame.inbound = .ok (.response { response with content := none }) := by
  intro response
  have parts : response.toJson.parts = response.toJson ::
      [.string "a\"\n\\é", .string "Success", .string "Entry", .null] := rfl
  have keys : ["id", "status", "kind", "content"].Nodup := by decide
  have portable : response.toJson.Portable := by
    refine ⟨?_, ?_, by decide⟩
    · rw [parts]
      simp [response, Response.toJson]
    · intro members present
      obtain same | inside := List.mem_cons.mp (parts ▸ present)
      · cases same
        exact keys
      · simp at inside
  have fits : response.frame.Fits := by decide +kernel
  obtain ⟨decoded, back, parsed, -, same, -⟩ :=
    (messages_read_back [Octet.quote]).2.2 response portable fits
  exact ⟨portable, fits, decoded, by rw [parsed, same rfl]⟩

end EngineClient
