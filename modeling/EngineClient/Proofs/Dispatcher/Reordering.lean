import EngineClient.Proofs.Dispatcher.Likeness

/-!
The order of replies. As long as no id is answered twice, what becomes of each frame does not depend on the
frames in front of it; so frames that come in another order come to the same fates, and leave the same calls
waiting.
-/

namespace EngineClient

/-- The id under which a frame answers a call, if it is a response with one. -/
def Frame.answered (frame : Frame) : Option String :=
  match frame.inbound with
  | .ok (.response reply) => reply.id
  | _ => none

theorem Frame.answered_eq_some_iff {frame : Frame} {id : String} :
    frame.answered = some id ↔ ∃ reply, frame.Answers id reply := by
  rw [answered]
  constructor
  · intro named
    split at named
    next reply said => exact ⟨reply, said, named⟩
    next => cases named
  · rintro ⟨reply, said, named⟩
    rw [said]
    exact named

namespace Dispatcher

variable {dispatcher : Dispatcher} {now : Nat} {generation : Link.Generation}
  {waiting : Call.Pending} {frame : Frame} {frames : List Frame}

def unanswered (waiting : Call.Pending) (frames : List Frame) : Call.Pending :=
  ⟨waiting.calls.filter fun entry => frames.all fun frame => frame.answered ≠ some entry.1⟩

def fatesOf (waiting : Call.Pending) (frames : List Frame) : List Effect :=
  frames.flatMap fun frame => (fateOf waiting frame).effects

theorem unanswered_silent (silent : frame.answered = none) : unanswered waiting [frame] = waiting := by
  simp [unanswered, silent]

theorem unanswered_named {id : String} (named : frame.answered = some id) :
    unanswered waiting [frame] = waiting.erase id := by
  have test (entry : String × Call.Number) :
      [frame].all (fun frame => frame.answered ≠ some entry.1) = (entry.1 != id) := by
    rw [List.all_cons, List.all_nil, Bool.and_true, named]
    by_cases same : entry.1 = id
    · simp [same]
    · simp [same, Ne.symm same]
  simp only [unanswered, Call.Pending.erase, test]

theorem leaves_fateOf (waiting : Call.Pending) (frame : Frame) :
    (fateOf waiting frame).leaves waiting = unanswered waiting [frame] := by
  cases named : frame.answered with
  | none =>
    rw [unanswered_silent named]
    rcases fateOf_cases waiting frame with
      ⟨-, fate⟩ | ⟨id, number, reply, answers, -, -⟩ | ⟨message, -, -, fate⟩
    · rw [fate]
      rfl
    · cases named.symm.trans (Frame.answered_eq_some_iff.mpr ⟨reply, answers⟩)
    · rw [fate]
      rfl
  | some id =>
    rw [unanswered_named named]
    obtain ⟨reply, said, answers⟩ := Frame.answered_eq_some_iff.mp named
    rcases fateOf_cases waiting frame with
      ⟨unreadable, -⟩ | ⟨name, number, other, again, -, fate⟩ | ⟨message, delivers, free, fate⟩
    · exact absurd said (unreadable.inbound_ne _)
    · obtain ⟨rfl, -⟩ := Frame.Answers.unique ⟨said, answers⟩ again
      rw [fate]
      rfl
    · -- Nothing waits under the id, so that erasing it takes nothing out.
      cases said.symm.trans delivers
      rw [fate]
      exact (Call.Pending.erase_free (Call.Pending.free_iff.mpr (free id answers))).symm

theorem unanswered_cons (waiting : Call.Pending) (frame : Frame) (frames : List Frame) :
    unanswered (unanswered waiting [frame]) frames = unanswered waiting (frame :: frames) := by
  simp [unanswered, List.filter_filter, Bool.and_comm]

theorem fateOf_congr {other : Call.Pending}
    (same : ∀ id, frame.answered = some id → waiting.find? id = other.find? id) :
    fateOf waiting frame = fateOf other frame := by
  rw [fateOf, fateOf]
  cases said : frame.inbound with
  | error error => rfl
  | ok message =>
    cases message with
    | event push => rfl
    | response reply =>
      have claims : (reply.id.bind fun id => (waiting.find? id).map (id, ·)) =
          reply.id.bind fun id => (other.find? id).map (id, ·) := by
        cases named : reply.id with
        | none => rfl
        | some id =>
          have answers : frame.answered = some id :=
            Frame.answered_eq_some_iff.mpr ⟨reply, said, named⟩
          rw [Option.bind_some, Option.bind_some, same id answers]
      simp only [claims]

theorem find?_unanswered {id : String} (other : frame.answered ≠ some id) :
    (unanswered waiting [frame]).find? id = waiting.find? id := by
  rw [Call.Pending.find?, Call.Pending.find?, unanswered, List.find?_filter]
  congr 2
  funext entry
  cases here : entry.1 == id with
  | false => simp
  | true =>
    obtain rfl := eq_of_beq here
    simp [other]

theorem remaining_eq (waiting : Call.Pending) (frames : List Frame) :
    remaining waiting frames = unanswered waiting frames := by
  induction frames generalizing waiting with
  | nil => simp [remaining, unanswered]
  | cons frame frames ih =>
    calc remaining waiting (frame :: frames)
        = remaining ((fateOf waiting frame).leaves waiting) frames := rfl
      _ = unanswered (unanswered waiting [frame]) frames := by rw [leaves_fateOf, ih]
      _ = unanswered waiting (frame :: frames) := unanswered_cons waiting frame frames

/-- If no id is answered twice, no frame changes what becomes of another. -/
theorem effectsOf_receipts (distinct : (frames.filterMap Frame.answered).Nodup) :
    effectsOf (receipts generation waiting frames) = fatesOf waiting frames := by
  induction frames generalizing waiting with
  | nil => rfl
  | cons frame frames ih =>
    have apart : ∀ later ∈ frames, fateOf (unanswered waiting [frame]) later = fateOf waiting later := by
      intro later present
      apply fateOf_congr
      intro id named
      apply find?_unanswered
      intro same
      rw [List.filterMap_cons, same] at distinct
      exact (List.nodup_cons.mp distinct).1 (List.mem_filterMap.mpr ⟨later, present, named⟩)
    have rest : (frames.filterMap Frame.answered).Nodup := by
      rw [List.filterMap_cons] at distinct
      split at distinct
      next => exact distinct
      next => exact (List.nodup_cons.mp distinct).2
    calc effectsOf (receipts generation waiting (frame :: frames))
        = (fateOf waiting frame).effects ++ effectsOf (receipts generation
            ((fateOf waiting frame).leaves waiting) frames) := rfl
      _ = (fateOf waiting frame).effects ++ fatesOf (unanswered waiting [frame]) frames := by
        rw [leaves_fateOf, ih rest]
      _ = fatesOf waiting (frame :: frames) := by
        rw [fatesOf, fatesOf, List.flatMap_cons]
        congr 1
        apply List.flatMap_congr
        intro later present
        rw [apart later present]

theorem unanswered_perm {others : List Frame} (reordered : others.Perm frames) :
    unanswered waiting others = unanswered waiting frames := by
  have test (entry : String × Call.Number) :
      others.all (fun frame => frame.answered ≠ some entry.1) =
        frames.all fun frame => frame.answered ≠ some entry.1 := reordered.all_eq
  simp only [unanswered, test]

theorem fatesOf_perm {others : List Frame} (reordered : others.Perm frames) :
    (fatesOf waiting others).Perm (fatesOf waiting frames) := reordered.flatMap_right _

theorem mem_fatesOf {effect : Effect} (shows : effect ∈ fatesOf waiting frames) :
    (∃ settlement, effect = .settled settlement) ∨ ∃ message, effect = .delivered message := by
  obtain ⟨frame, -, led⟩ := List.mem_flatMap.mp shows
  cases fate : fateOf waiting frame with
  | skipped =>
    rw [fate] at led
    cases led
  | claimed id settlement =>
    rw [fate] at led
    exact .inl ⟨settlement, List.mem_singleton.mp led⟩
  | delivered message =>
    rw [fate] at led
    exact .inr ⟨message, List.mem_singleton.mp led⟩

theorem settled_fatesOf (distinct : waiting.Distinct) {number : Call.Number} {outcome : Call.Outcome} :
    .settled ⟨number, outcome⟩ ∈ fatesOf waiting frames ↔
      ∃ frame ∈ frames, ∃ id reply, frame.Answers id reply ∧ (id, number) ∈ waiting.calls ∧
        outcome = Call.outcomeOf reply := by
  constructor
  · intro settles
    obtain ⟨frame, present, led⟩ := List.mem_flatMap.mp settles
    cases fate : fateOf waiting frame with
    | skipped =>
      rw [fate] at led
      cases led
    | claimed id settlement =>
      rw [fate] at led
      obtain ⟨reply, answers, waits, given⟩ := (fateOf_claimed distinct).mp fate
      cases List.mem_singleton.mp led
      exact ⟨frame, present, id, reply, answers, waits, given⟩
    | delivered message =>
      rw [fate] at led
      cases List.mem_singleton.mp led
  · rintro ⟨frame, present, id, reply, answers, waits, rfl⟩
    have fate : fateOf waiting frame = .claimed id ⟨number, Call.outcomeOf reply⟩ :=
      (fateOf_claimed distinct).mpr ⟨reply, answers, waits, rfl⟩
    apply List.mem_flatMap.mpr
    refine ⟨frame, present, ?_⟩
    rw [fate]
    exact List.mem_singleton_self _

theorem signal_data_now {chunk : Bytes} {later : Nat}
    (survived : (dispatcher.signal later generation (.data chunk)).1.connection.live = some generation) :
    dispatcher.signal now generation (.data chunk) =
      dispatcher.signal later generation (.data chunk) := by
  by_cases live : dispatcher.connection.live = some generation
  · obtain ⟨frames, -, ⟨tail, -, stepped, clean⟩ | ⟨fault, -, kept, faulty⟩⟩ := data_cases later live chunk
    · rw [signal_data live, signal_data live, stepped, takeFrames_eq, takeFrames_eq]
    · rw [faulty] at survived
      cases (lose_down kept).2.2.symm.trans survived
  · rw [signal_stale live, signal_stale live]

theorem takePieces_eq_signal (coherent : dispatcher.Coherent) {pieces : List (Nat × Bytes)} {later : Nat}
    (survived : (dispatcher.signal later generation (.data (bytesOf pieces))).1.connection.live =
      some generation) :
    dispatcher.takePieces now generation pieces =
      dispatcher.signal later generation (.data (bytesOf pieces)) := by
  induction pieces generalizing dispatcher now with
  | nil => exact (signal_data_nil coherent).symm
  | cons piece pieces ih =>
    obtain ⟨nanos, chunk⟩ := piece
    have split : bytesOf ((nanos, chunk) :: pieces) = chunk ++ bytesOf pieces := rfl
    rw [split, signal_data_append] at survived ⊢
    dsimp only at survived ⊢
    have between : (dispatcher.signal later generation (.data chunk)).1.connection.live =
        some generation := by
      by_contra stale
      rw [signal_stale stale] at survived
      exact stale survived
    have still : (dispatcher.signal later generation (.data chunk)).1.Coherent :=
      coherent_signal coherent generation (.data chunk)
    rw [takePieces, signal_data_now between, ih still survived]

theorem takePieces_frames (coherent : dispatcher.Coherent)
    (live : dispatcher.connection.live = some generation) (boundary : dispatcher.decoder = .empty)
    (fits : ∀ frame ∈ frames, frame.Fits) (distinct : (frames.filterMap Frame.answered).Nodup)
    {pieces : List (Nat × Bytes)} (whole : bytesOf pieces = Frame.encodeAll frames) :
    dispatcher.takePieces now generation pieces =
      ({ dispatcher.tended generation frames with pending := unanswered dispatcher.pending frames },
        fatesOf dispatcher.pending frames) := by
  have stepped : dispatcher.decoder.step (bytesOf pieces) = (frames.map .ok, .empty) := by
    rw [boundary, whole, ← List.append_nil (Frame.encodeAll frames)]
    exact Frame.Decoder.step_empty fits Frame.incomplete_nil
  have same : ({ dispatcher with decoder := .empty } : Dispatcher) = dispatcher := by rw [← boundary]
  have once : dispatcher.signal now generation (.data (bytesOf pieces)) =
      ({ dispatcher.tended generation frames with pending := unanswered dispatcher.pending frames },
        fatesOf dispatcher.pending frames) := by
    rw [signal_data live, stepped, same, takeFrames_eq, remaining_eq, effectsOf_receipts distinct]
  have survived : (dispatcher.signal now generation (.data (bytesOf pieces))).1.connection.live =
      some generation := (signal_boundary now live stepped).1
  rw [takePieces_eq_signal coherent survived, once]

end Dispatcher

end EngineClient
