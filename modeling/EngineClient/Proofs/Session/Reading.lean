import EngineClient.Proofs.Session.Wires

/-!
What the client makes of a chunk that the engine has written: each answer goes to the call that asked, and
nothing else settles one.
-/

namespace EngineClient.Session

def answers (writings : List Writing) : List Request :=
  writings.filterMap fun
    | .answer request => some request
    | .aside _ => none

@[simp] theorem answers_append (first second : List Writing) :
    answers (first ++ second) = answers first ++ answers second := List.filterMap_append

def requestAt (paths : List String) (entry : String × Call.Number) : Request :=
  request entry.1 (paths.getD entry.2 "")

variable {listing : String → List Entry} {paths : List String} {dispatcher : Dispatcher}
  {now : Nat} {generation : Link.Generation}

theorem dispatch_aside (dispatcher : Dispatcher) {frame : Frame}
    (unclaimed : ∀ id ∈ answered? frame, dispatcher.pending.contains id = false) :
    (dispatcher.dispatch frame).1 = dispatcher ∧
      ∀ settlement, .settled settlement ∉ (dispatcher.dispatch frame).2 := by
  rcases Dispatcher.dispatch_cases dispatcher frame with
    ⟨skipped, -⟩ | ⟨message, -, -, delivered⟩ | ⟨reply, id, number, said, answered, found, -⟩
  · rw [skipped]
    exact ⟨rfl, by simp⟩
  · rw [delivered]
    exact ⟨rfl, by simp⟩
  · have free := unclaimed id (by rw [answered?, said]; exact answered)
    rw [Call.Pending.contains, found] at free
    cases free

theorem dispatch_answer (listing : String → List Entry) (dispatcher : Dispatcher)
    {id : String} {number : Call.Number} (path : String)
    (found : dispatcher.pending.find? id = some number) :
    dispatcher.dispatch ((Writing.answer (request id path)).frame listing) =
      ({ dispatcher with pending := dispatcher.pending.erase id },
        [.settled ⟨number, .ok (Response.ofEntries id (listing path))⟩]) := by
  have said : ((Writing.answer (request id path)).frame listing).inbound =
      .ok (.response (Response.ofEntries id (listing path))) :=
    Response.inbound_ofEntries id (listing path)
  have claimed : dispatcher.pending.resolve (Response.ofEntries id (listing path)) =
      some (⟨number, .ok (Response.ofEntries id (listing path))⟩, dispatcher.pending.erase id) :=
    Call.Pending.resolve_eq_some_iff.mpr ⟨id, number, rfl, found, rfl, rfl⟩
  simp only [Dispatcher.dispatch, said, claimed]

theorem take_writings {writings later : List Writing} (distinct : dispatcher.pending.Distinct)
    (unclaimed : Unclaimed dispatcher.pending (writings ++ later)) {others : List Request}
    (underway : (others ++ answers writings).Perm
      (dispatcher.pending.calls.map (requestAt paths))) :
    let taken := dispatcher.takeFrames now generation
      ((writings.map (Writing.frame listing)).map .ok)
    others.Perm (taken.1.pending.calls.map (requestAt paths)) ∧
    Unclaimed taken.1.pending later ∧
    ∀ settlement, .settled settlement ∈ taken.2 →
      (∃ id, (id, settlement.call) ∈ dispatcher.pending.calls) ∧
      Call.listing settlement.outcome = .ok (listing (paths.getD settlement.call "")) := by
  intro taken
  induction writings generalizing dispatcher with
  | nil =>
    simp only [taken, List.map_nil, Dispatcher.takeFrames_nil]
    refine ⟨?_, unclaimed, by simp⟩
    simpa [answers] using underway
  | cons writing writings ih =>
    simp only [taken, List.map_cons, Dispatcher.takeFrames_frame]
    cases writing with
    | aside frame =>
      obtain ⟨unclaimed, free⟩ := unclaimed
      obtain ⟨same, silent⟩ := dispatch_aside (dispatcher.healthy generation) unclaimed
      obtain ⟨left, rest, returned⟩ := @ih (dispatcher.healthy generation) distinct free underway
      rw [Writing.frame, same]
      refine ⟨left, rest, ?_⟩
      intro settlement settled
      rcases List.mem_append.mp settled with first | last
      · exact absurd first (silent settlement)
      · exact returned settlement last
    | answer asked =>
      have front : (others ++ answers (.answer asked :: writings)).Perm
          (asked :: (others ++ answers writings)) := List.perm_middle
      have waiting := front.symm.trans underway
      obtain ⟨⟨id, number⟩, present, rfl⟩ := List.mem_map.mp (waiting.subset List.mem_cons_self)
      obtain ⟨before, behind, split, erased⟩ := Call.Pending.exists_erase distinct present
      have found := Call.Pending.find_of_mem distinct present
      have rest : (others ++ answers writings).Perm
          ((dispatcher.pending.erase id).calls.map (requestAt paths)) := by
        rw [erased, List.map_append]
        rw [split, List.map_append, List.map_cons] at waiting
        exact (waiting.trans List.perm_middle).cons_inv
      have dispatched := dispatch_answer listing (dispatcher.healthy generation)
        (paths.getD number "") found
      obtain ⟨left, free, returned⟩ :=
        @ih { dispatcher.healthy generation with pending := dispatcher.pending.erase id }
          (Call.Pending.distinct_erase distinct) unclaimed rest
      rw [requestAt, dispatched]
      refine ⟨left, free, ?_⟩
      intro settlement settled
      rcases List.mem_append.mp settled with first | last
      · cases List.mem_singleton.mp first
        exact ⟨⟨id, present⟩, Response.entries_ofEntries id _⟩
      · obtain ⟨⟨other, there⟩, listed⟩ := returned settlement last
        exact ⟨⟨other, (Call.Pending.mem_erase.mp there).1⟩, listed⟩

end EngineClient.Session
