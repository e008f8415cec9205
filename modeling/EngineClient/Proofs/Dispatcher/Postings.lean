import EngineClient.Proofs.Dispatcher.Carriage
import EngineClient.Proofs.Dispatcher.Links

/-!
The frames that the dispatcher queues: at most one for a stimulus, that of the call which the stimulus
brings, and none if the call is settled at once.
-/

namespace EngineClient.Dispatcher

/-- The frame of a call, queued on the link of a generation. -/
structure Posting where
  generation : Link.Generation
  call : Call.Number
  chunk : Bytes

def Effect.posting? : Effect → Option Posting
  | .queued generation call chunk => some ⟨generation, call, chunk⟩
  | _ => none

def postings (effects : List Effect) : List Posting := effects.filterMap Effect.posting?

def chunksOn (generation : Link.Generation) (frames : List Posting) : Bytes :=
  (frames.filter fun posting => posting.generation = generation).flatMap Posting.chunk

theorem chunksOn_append (generation : Link.Generation) (first second : List Posting) :
    chunksOn generation (first ++ second) =
      chunksOn generation first ++ chunksOn generation second := by
  simp [chunksOn]

theorem chunksOn_own {generation : Link.Generation} {frames : List Posting}
    (own : ∀ posting ∈ frames, posting.generation = generation) :
    chunksOn generation frames = frames.flatMap Posting.chunk := by
  rw [chunksOn, List.filter_eq_self.mpr]
  simpa using own

theorem chunksOn_others {generation : Link.Generation} {frames : List Posting}
    (others : ∀ posting ∈ frames, posting.generation ≠ generation) :
    chunksOn generation frames = [] := by
  rw [chunksOn, List.filter_eq_nil_iff.mpr]
  · rfl
  · simpa using others

variable {dispatcher : Dispatcher} {now : Nat} {effects : List Effect}

theorem postings_untouched (untouched : ∀ effect ∈ effects, effect.touches = false) :
    postings effects = [] := by
  apply List.filterMap_eq_nil_iff.mpr
  intro effect present
  cases effect with
  | queued generation call chunk => cases untouched _ present
  | _ => rfl

theorem postings_dropped {generation : Link.Generation}
    (only : ∀ effect ∈ effects, effect.touches = true → effect = .dropped generation) :
    postings effects = [] := by
  apply List.filterMap_eq_nil_iff.mpr
  intro effect present
  cases effect with
  | queued origin call chunk => cases only _ present rfl
  | _ => rfl

theorem postings_handle (coherent : dispatcher.Coherent) (now : Nat) (stimulus : Stimulus) :
    postings (dispatcher.handle now stimulus).2 = [] ∨
    ∃ number request attempt writable generation,
      stimulus = .call number request attempt writable ∧
      postings (dispatcher.handle now stimulus).2 =
        [⟨generation, number, request.frame.encode⟩] := by
  have change : LinkChange dispatcher (dispatcher.handle now stimulus).1 stimulus
      (dispatcher.handle now stimulus).2 := linkChange_handle coherent stimulus
  generalize dispatcher.handle now stimulus = result at change
  obtain ⟨after, effects⟩ := result
  cases change with
  | left same untouched => exact .inl (postings_untouched untouched)
  | queued live same => exact .inr ⟨_, _, _, _, _, rfl, rfl⟩
  | opened down live => exact .inr ⟨_, _, _, _, _, rfl, rfl⟩
  | restarted down live => exact .inl rfl
  | dropped live down drops only => exact .inl (postings_dropped only)

theorem live_handle (coherent : dispatcher.Coherent) {stimulus : Stimulus}
    {generation : Link.Generation}
    (live : (dispatcher.handle now stimulus).1.connection.live = some generation) :
    dispatcher.connection.live = some generation ∨
      generation = dispatcher.connection.generation + 1 := by
  have change : LinkChange dispatcher (dispatcher.handle now stimulus).1 stimulus
      (dispatcher.handle now stimulus).2 := linkChange_handle coherent stimulus
  generalize dispatcher.handle now stimulus = result at change live
  obtain ⟨after, effects⟩ := result
  cases change with
  | left same untouched => exact .inl (same.symm.trans live)
  | queued before same => exact .inl (before.trans (same.symm.trans live))
  | opened down fresh => exact .inr (Option.some.inj (live.symm.trans fresh))
  | restarted down fresh => exact .inr (Option.some.inj (live.symm.trans fresh))
  | dropped before down drops only => cases down.symm.trans live

theorem dropped_handle (coherent : dispatcher.Coherent) {stimulus : Stimulus}
    {generation : Link.Generation}
    (drops : .dropped generation ∈ (dispatcher.handle now stimulus).2) :
    dispatcher.connection.live = some generation ∧
      (dispatcher.handle now stimulus).1.connection.live = none ∧
      postings (dispatcher.handle now stimulus).2 = [] := by
  have change : LinkChange dispatcher (dispatcher.handle now stimulus).1 stimulus
      (dispatcher.handle now stimulus).2 := linkChange_handle coherent stimulus
  generalize dispatcher.handle now stimulus = result at change drops ⊢
  obtain ⟨after, effects⟩ := result
  cases change with
  | left same untouched => cases untouched _ drops
  | queued live same => simp at drops
  | opened down live => simp at drops
  | restarted down live => simp at drops
  | dropped live down _ only =>
    cases only _ drops rfl
    exact ⟨live, down, postings_dropped only⟩

section Settled

variable {number : Call.Number} {request : Request} {attempt : Except Link.Error Unit}
  {writable : Bool}

theorem postings_settled (coherent : dispatcher.Coherent) {settlement : Call.Settlement}
    (shows : .settled settlement ∈ (dispatcher.call now number request attempt writable).2) :
    postings (dispatcher.call now number request attempt writable).2 = [] := by
  rcases call_cases dispatcher now number request attempt writable with
    ⟨-, duplicate⟩ | ⟨-, generation, -, -, queued⟩ | ⟨-, generation, -, -, refused⟩ |
    ⟨-, -, -, opened⟩ | ⟨-, down, error, -, failed⟩
  · rw [duplicate]
    rfl
  · simp [queued] at shows
  · rw [refused]
    rfl
  · simp [opened] at shows
  · rw [failed]
    exact postings_untouched (by
      simpa [Effect.touches] using
        (schedule_untouched (coherent_failed coherent down) down _).2)

theorem settled_of_failure {generation : Link.Generation}
    (shows : .attempted generation false ∈
      (dispatcher.call now number request attempt writable).2) :
    ∃ error, .settled ⟨number, .error error⟩ ∈
      (dispatcher.call now number request attempt writable).2 := by
  rcases call_cases dispatcher now number request attempt writable with
    ⟨-, duplicate⟩ | ⟨-, origin, -, -, queued⟩ | ⟨-, origin, -, -, refused⟩ |
    ⟨-, -, -, opened⟩ | ⟨-, -, error, -, failed⟩
  · simp [duplicate] at shows
  · simp [queued] at shows
  · simp [refused] at shows
  · simp [opened] at shows
  · rw [failed]
    exact ⟨.ofLink error, List.mem_cons_of_mem _ List.mem_cons_self⟩

theorem duplicate_handle (coherent : dispatcher.Coherent) {stimulus : Stimulus} {id : String}
    (shows : .settled ⟨number, .error (.duplicateId id)⟩ ∈ (dispatcher.handle now stimulus).2) :
    (∃ request attempt writable, stimulus = .call number request attempt writable) ∧
      (dispatcher.handle now stimulus).2 =
        [.settled ⟨number, .error (.duplicateId id)⟩] := by
  have cause := cause_handle coherent shows
  generalize refused : Except.error (Call.Error.duplicateId id) = outcome at cause ⊢
  cases cause with
  | duplicate taken =>
    rw [handle, call_duplicate taken]
    exact ⟨⟨_, _, _, rfl⟩, rfl⟩
  | @unreachable _ error => cases error <;> cases refused
  | refused => cases refused
  | @answered _ _ _ _ _ _ reply =>
    rw [Call.outcomeOf] at refused
    split at refused <;> cases refused
  | lost => cases refused
  | closed => cases refused

end Settled

end EngineClient.Dispatcher
