import EngineClient.Proofs.Session.Progress

/-!
Every directory that is listed in a session comes back with its entries.
-/

namespace EngineClient.Session

/-- In a session with an engine that answers each request with the entries at its path, whatever else it
writes and however its bytes are cut, a call never returns anything but the entries at its own path; and
once nothing is left to do, every call has returned them, once, and none is pending. Nothing keeps the
session from getting there, if the answers are not too long, and if what is on its way to the client holds
no response to a pending call but its answer. -/
theorem listings_return (listing : String → List Entry) (idPrefix : String) (kind : Link.Kind)
    (policy : Restart.Policy) (now : Nat) (turns : List Turn)
    (permits : Permits listing (start (Client.new idPrefix kind policy now)) turns) :
    let ending := (start (Client.new idPrefix kind policy now)).run listing turns
    (∀ (number : Nat) outcome, outcome ∈ Client.outcomes number ending.2 →
      ∃ path, (listed turns)[number]? = some path ∧
        Call.listing outcome = .ok (listing path)) ∧
    (ending.1.AtRest → Returned listing (listed turns) ending.1 ending.2) ∧
    (Answerable listing (listed turns) idPrefix →
      Unclaimed ending.1.client.dispatcher.pending ending.1.written →
      ∃ more, listed more = [] ∧ Permits listing ending.1 more ∧
        let last := ending.1.run listing more
        last.1.AtRest ∧ Returned listing (listed turns) last.1 (ending.2 ++ last.2)) := by
  intro ending
  obtain ⟨sending, flow⟩ := flow_run (flow_start idPrefix kind policy now) permits
  rw [List.nil_append, List.nil_append] at flow
  refine ⟨flow.returned, flow.all_returned, fun answerable unclaimed => ?_⟩
  have named : ending.1.client.idPrefix = idPrefix := idPrefix_run _ turns
  obtain ⟨after, leads, rest⟩ := exists_rest flow (named.symm ▸ answerable) unclaimed
  obtain ⟨more, none_listed, permitted, rfl⟩ := leads.exists_turns
  obtain ⟨_, last⟩ := flow_run flow permitted
  rw [none_listed, List.append_nil] at last
  exact ⟨more, none_listed, permitted, rest, last.all_returned rest⟩

theorem listings_return_crossed :
    let listing (path : String) : List Entry := [⟨path, false, true, false⟩]
    let asked : List Turn := [.list "a", .list "ü\"", .handle, .handle, .pour 1, .pour 300, .pour 1,
      .pour 1, .pour 300, .pour 1, .aside ⟨.event, [0x21]⟩]
    let turns : List Turn :=
      asked ++ [.answer 1, .answer 0, .deliver 30, .read, .deliver 300, .read]
    let client := Client.new "c" .socket ⟨5, ⟨0, by decide⟩, ⟨0, by decide⟩, none⟩ 0
    let ending := (start client).run listing turns
    let middle := (start client).run listing asked
    (∃ first second, Client.outcomes 0 ending.2 = [first] ∧
      Call.listing first = .ok (listing "a") ∧ Client.outcomes 1 ending.2 = [second] ∧
      Call.listing second = .ok (listing "ü\"")) ∧
    middle.1.client.pendingCalls = [0, 1] ∧
    ∃ more, listed more = [] ∧ (middle.1.run listing more).1.client.pendingCalls = [] := by
  intro listing asked turns client ending middle
  have permits : Permits listing (start client) turns := by decide +kernel
  have permitted : Permits listing (start client) asked := by decide +kernel
  have rest : ending.1.AtRest := by decide +kernel
  have paths : listed asked = ["a", "ü\""] := rfl
  have answerable : Answerable listing (listed asked) "c" := by
    rw [paths]
    intro number path there
    match number with
    | 0 =>
      obtain rfl := Option.some.inj there
      decide +kernel
    | 1 =>
      obtain rfl := Option.some.inj there
      decide +kernel
    | number + 2 => cases there
  obtain ⟨-, returned⟩ := (listings_return listing _ _ _ _ turns permits).2.1 rest
  obtain ⟨first, once, first_listed⟩ := returned 0 "a" rfl
  obtain ⟨second, again, second_listed⟩ := returned 1 "ü\"" rfl
  obtain ⟨more, none_listed, -, going⟩ :=
    (listings_return listing _ _ _ _ asked permitted).2.2 answerable (by decide +kernel)
  exact ⟨⟨first, second, once, first_listed, again, second_listed⟩, by decide +kernel, more,
    none_listed, going.2.none_pending⟩

end EngineClient.Session
