import EngineClient.Proofs.Dispatcher.Accounts
import EngineClient.Proofs.Dispatcher.Causes

/-!
Which frames the dispatcher queues, which link a pending call is on, and which bytes the decoder holds:
what one stimulus does to each of these.
-/

namespace EngineClient.Dispatcher

def Effect.frame? (number : Call.Number) : Effect → Option (Link.Generation × Bytes)
  | .queued generation call chunk => if call = number then some (generation, chunk) else none
  | _ => none

def frames (number : Call.Number) (effects : List Effect) : List (Link.Generation × Bytes) :=
  effects.filterMap (Effect.frame? number)

def receiving (dispatcher : Dispatcher) (generation : Link.Generation) : Stimulus → Bytes
  | .signal origin (.data chunk) =>
    if dispatcher.connection.live = some origin ∧ origin = generation then chunk else []
  | _ => []

variable {dispatcher : Dispatcher} {now : Nat} {number : Call.Number}

theorem frames_eq_nil {effects : List Effect}
    (silent : ∀ generation chunk, .queued generation number chunk ∉ effects) :
    frames number effects = [] := by
  apply List.filterMap_eq_nil_iff.mpr
  intro effect present
  cases effect with
  | queued generation call chunk =>
    have other : call ≠ number := by
      rintro rfl
      exact silent generation chunk present
    simp [Effect.frame?, other]
  | attempted generation opened => rfl
  | settled settlement => rfl
  | delivered message => rfl
  | decided decision => rfl
  | dropped generation => rfl
  | stopped => rfl
  | reported stats => rfl

theorem queued_handle (coherent : dispatcher.Coherent) {stimulus : Stimulus}
    {generation : Link.Generation} {chunk : Bytes}
    (shows : .queued generation number chunk ∈ (dispatcher.handle now stimulus).2) :
    ∃ request attempt writable, stimulus = .call number request attempt writable ∧
      chunk = request.frame.encode := by
  cases stimulus with
  | call call request attempt writable =>
    have shown := mem_call coherent shows
    simp only [reduceCtorEq, exists_false, and_false, Effect.queued.injEq, false_or,
      or_false] at shown
    obtain ⟨-, -, rfl, rfl⟩ := shown
    exact ⟨request, attempt, writable, rfl, rfl⟩
  | signal generation signal => exact absurd (mem_signal shows) (by simp)
  | timer attempt => exact absurd (mem_restart coherent shows) (by simp)
  | stats => simp [handle] at shows
  | shutdown => exact absurd (mem_shutdown shows) (by simp)

theorem frames_of_other (coherent : dispatcher.Coherent) {stimulus : Stimulus}
    (other : stimulus.call? ≠ some number) :
    frames number (dispatcher.handle now stimulus).2 = [] := by
  apply frames_eq_nil
  intro generation chunk shows
  obtain ⟨request, attempt, writable, rfl, -⟩ := queued_handle coherent shows
  exact other rfl

/-- A call that is pending after a stimulus was so before, on the same link, or has just been queued. -/
def Stays (before after : Dispatcher) (entry : String × Call.Number) : Prop :=
  entry ∈ before.pending.calls ∧ after.connection.live = before.connection.live

theorem stays_schedule {decision : Restart.Decision} {entry : String × Call.Number}
    (present : entry ∈ (dispatcher.schedule now decision).1.pending.calls) :
    dispatcher.Stays (dispatcher.schedule now decision).1 entry := by
  rcases schedule_cases dispatcher now decision with ⟨restartAt, moved⟩ | ⟨delay, -, -, stopped⟩
  · rw [moved] at present ⊢
    exact ⟨present, rfl⟩
  · rw [stopped] at present
    cases present

theorem stays_lose {generation : Link.Generation} {reason : String}
    {entry : String × Call.Number}
    (present : entry ∈ (dispatcher.lose now generation reason).1.pending.calls) :
    dispatcher.Stays (dispatcher.lose now generation reason).1 entry := by
  by_cases live : dispatcher.connection.live = some generation
  · rw [(lose_down live).1] at present
    cases present
  · rw [lose_stale live] at present ⊢
    exact ⟨present, rfl⟩

theorem stays_signal {generation : Link.Generation} {signal : Link.Signal}
    {entry : String × Call.Number}
    (present : entry ∈ (dispatcher.signal now generation signal).1.pending.calls) :
    dispatcher.Stays (dispatcher.signal now generation signal).1 entry := by
  rcases signal_cases dispatcher now generation signal with
    ⟨-, stale⟩ | ⟨live, chunk, rfl, -⟩ | ⟨-, reason, lost⟩
  · rw [stale] at present ⊢
    exact ⟨present, rfl⟩
  · obtain ⟨frames, -, ⟨tail, -, -, clean⟩ | ⟨fault, -, kept, faulty⟩⟩ :=
      data_cases now live chunk
    · rw [clean] at present ⊢
      exact ⟨(mem_takeFrames.mp present).1, (takeFrames_clean _ now generation frames).2.1⟩
    · rw [faulty, (lose_down kept).1] at present
      cases present
  · rw [lost] at present ⊢
    exact stays_lose present

theorem mem_call_pending (coherent : dispatcher.Coherent) {request : Request}
    {attempt : Except Link.Error Unit} {writable : Bool} {entry : String × Call.Number}
    (present : entry ∈ (dispatcher.call now number request attempt writable).1.pending.calls) :
    dispatcher.Stays (dispatcher.call now number request attempt writable).1 entry ∨
    ∃ generation, entry = (request.id.getD "", number) ∧
      (dispatcher.call now number request attempt writable).1.connection.live =
        some generation ∧
      frames number (dispatcher.call now number request attempt writable).2 =
        [(generation, request.frame.encode)] := by
  rcases call_cases dispatcher now number request attempt writable with
    ⟨-, duplicate⟩ | ⟨-, generation, live, -, queued⟩ | ⟨-, generation, -, -, refused⟩ |
    ⟨-, down, -, opened⟩ | ⟨-, down, error, -, failed⟩
  · rw [duplicate] at present ⊢
    exact .inl ⟨present, rfl⟩
  · rw [queued] at present ⊢
    rcases List.mem_append.mp present with before | added
    · exact .inl ⟨before, rfl⟩
    · exact .inr ⟨generation, List.mem_singleton.mp added, live, by simp [frames, Effect.frame?]⟩
  · rw [refused] at present ⊢
    exact .inl ⟨present, rfl⟩
  · rw [opened] at present ⊢
    rcases List.mem_append.mp present with before | added
    · -- a link is opened only while no call is pending
      rw [coherent.none_waits down] at before
      cases before
    · refine .inr ⟨_, List.mem_singleton.mp added, rfl, ?_⟩
      simp [frames, List.filterMap_cons, Effect.frame?]
  · rw [failed] at present ⊢
    exact .inl (stays_schedule present)

theorem mem_handle_pending (coherent : dispatcher.Coherent) {stimulus : Stimulus}
    {entry : String × Call.Number}
    (present : entry ∈ (dispatcher.handle now stimulus).1.pending.calls) :
    dispatcher.Stays (dispatcher.handle now stimulus).1 entry ∨
    ∃ request attempt writable generation, stimulus = .call entry.2 request attempt writable ∧
      entry.1 = request.id.getD "" ∧
      (dispatcher.handle now stimulus).1.connection.live = some generation ∧
      frames entry.2 (dispatcher.handle now stimulus).2 =
        [(generation, request.frame.encode)] := by
  cases stimulus with
  | call number request attempt writable =>
    rcases mem_call_pending coherent present with stays | ⟨generation, rfl, live, once⟩
    · exact .inl stays
    · exact .inr ⟨request, attempt, writable, generation, rfl, rfl, live, once⟩
  | signal generation signal => exact .inl (stays_signal present)
  | timer attempt =>
    left
    rcases restart_cases dispatcher now attempt with
      ⟨-, early⟩ | ⟨-, -, found⟩ | ⟨-, down, -, opened⟩ | ⟨-, down, -, failed⟩
    · rw [handle, early] at present ⊢
      exact ⟨present, rfl⟩
    · rw [handle, found] at present ⊢
      exact ⟨present, rfl⟩
    · rw [handle, opened] at present
      have before : entry ∈ dispatcher.pending.calls := present
      rw [coherent.none_waits down] at before
      cases before
    · rw [handle, failed] at present ⊢
      exact stays_schedule present
  | stats => exact .inl ⟨present, rfl⟩
  | shutdown => cases present

/-- What the decoder holds after a stimulus. Either a link was opened just now, and nothing has come from
it; or the link was live before, and frames were cut off the front of what it has brought. -/
def Fed (before after : Dispatcher) (generation : Link.Generation) (chunk : Bytes) : Prop :=
  (before.connection.live = none ∧ generation = before.connection.generation + 1 ∧
    after.decoder = .empty) ∨
  (before.connection.live = some generation ∧ ∃ frames : List Frame,
    (∀ frame ∈ frames, frame.Fits) ∧
    before.decoder.buffer ++ chunk = Frame.encodeAll frames ++ after.decoder.buffer)

theorem fed_same {after : Dispatcher} {generation : Link.Generation}
    (live : dispatcher.connection.live = some generation)
    (held : after.decoder = dispatcher.decoder) : dispatcher.Fed after generation [] :=
  .inr ⟨live, [], by simp, by simp [held]⟩

theorem fed_schedule {decision : Restart.Decision} {generation : Link.Generation}
    (live : (dispatcher.schedule now decision).1.connection.live = some generation) :
    dispatcher.connection.live = some generation ∧
      (dispatcher.schedule now decision).1.decoder = dispatcher.decoder := by
  rcases schedule_cases dispatcher now decision with ⟨restartAt, moved⟩ | ⟨delay, -, -, stopped⟩
  · rw [moved] at live ⊢
    exact ⟨live, rfl⟩
  · rw [stopped] at live
    cases live

theorem fed_call (coherent : dispatcher.Coherent) {request : Request}
    {attempt : Except Link.Error Unit} {writable : Bool} {generation : Link.Generation}
    (live : (dispatcher.call now number request attempt writable).1.connection.live =
      some generation) :
    dispatcher.Fed (dispatcher.call now number request attempt writable).1 generation [] := by
  rcases call_cases dispatcher now number request attempt writable with
    ⟨-, duplicate⟩ | ⟨-, newest, -, -, queued⟩ | ⟨-, newest, -, -, refused⟩ |
    ⟨-, down, -, opened⟩ | ⟨-, down, error, -, failed⟩
  · rw [duplicate] at live ⊢
    exact fed_same live rfl
  · rw [queued] at live ⊢
    exact fed_same live rfl
  · rw [refused] at live ⊢
    exact fed_same live rfl
  · rw [opened] at live ⊢
    cases live
    exact .inl ⟨down, rfl, coherent.none_held down⟩
  · rw [failed] at live
    have impossible := (fed_schedule live).1
    rw [show ({ dispatcher with connection := dispatcher.connection.failed } :
      Dispatcher).connection.live = none from down] at impossible
    cases impossible

theorem fed_lose {generation origin : Link.Generation} {reason : String}
    (live : (dispatcher.lose now origin reason).1.connection.live = some generation) :
    dispatcher.connection.live ≠ some origin ∧ dispatcher.connection.live = some generation ∧
      (dispatcher.lose now origin reason).1 = dispatcher := by
  by_cases current : dispatcher.connection.live = some origin
  · rw [(lose_down current).2.2] at live
    cases live
  · rw [lose_stale current] at live ⊢
    exact ⟨current, live, rfl⟩

theorem fed_signal {origin generation : Link.Generation} {signal : Link.Signal}
    (live : (dispatcher.signal now origin signal).1.connection.live = some generation) :
    dispatcher.Fed (dispatcher.signal now origin signal).1 generation
      (dispatcher.receiving generation (.signal origin signal)) := by
  rcases signal_cases dispatcher now origin signal with
    ⟨other, stale⟩ | ⟨current, chunk, rfl, -⟩ | ⟨current, reason, lost⟩
  · rw [stale] at live ⊢
    have nothing : dispatcher.receiving generation (.signal origin signal) = [] := by
      cases signal <;> simp [receiving, other]
    rw [nothing]
    exact fed_same live rfl
  · obtain ⟨frames, fits, ⟨tail, split, -, clean⟩ | ⟨fault, -, kept, faulty⟩⟩ :=
      data_cases now current chunk
    · rw [clean] at live ⊢
      obtain ⟨held, kept, -, -⟩ :=
        takeFrames_clean { dispatcher with decoder := ⟨tail⟩ } now origin frames
      have same : origin = generation := by
        rw [kept] at live
        exact Option.some.inj (current.symm.trans live)
      subst same
      refine .inr ⟨current, frames, fits, ?_⟩
      simp only [receiving, current, and_self, if_true, held, split]
    · rw [faulty, (lose_down kept).2.2] at live
      cases live
  · rw [lost] at live
    exact absurd current (fed_lose live).1

theorem fed_handle (coherent : dispatcher.Coherent) {stimulus : Stimulus}
    {generation : Link.Generation}
    (live : (dispatcher.handle now stimulus).1.connection.live = some generation) :
    dispatcher.Fed (dispatcher.handle now stimulus).1 generation
      (dispatcher.receiving generation stimulus) := by
  cases stimulus with
  | call number request attempt writable => exact fed_call coherent live
  | signal origin signal => exact fed_signal live
  | timer attempt =>
    rcases restart_cases dispatcher now attempt with
      ⟨-, early⟩ | ⟨-, -, found⟩ | ⟨-, down, -, opened⟩ | ⟨-, down, -, failed⟩
    · rw [handle, early] at live ⊢
      exact fed_same live rfl
    · rw [handle, found] at live ⊢
      exact fed_same live rfl
    · rw [handle, opened] at live ⊢
      cases live
      exact .inl ⟨down, rfl, coherent.none_held down⟩
    · rw [handle, failed] at live
      have impossible := (fed_schedule live).1
      rw [show ({ dispatcher.fired with connection := dispatcher.connection.failed } :
        Dispatcher).connection.live = none from down] at impossible
      cases impossible
  | stats => exact fed_same live rfl
  | shutdown => cases live

theorem receiving_down {generation : Link.Generation} {stimulus : Stimulus}
    (down : dispatcher.connection.live = none) : dispatcher.receiving generation stimulus = [] := by
  cases stimulus with
  | signal origin signal => cases signal <;> simp [receiving, down]
  | call number request attempt writable => rfl
  | timer attempt => rfl
  | stats => rfl
  | shutdown => rfl

theorem receiving_ahead (coherent : dispatcher.Coherent) {generation : Link.Generation}
    {stimulus : Stimulus} (ahead : dispatcher.connection.generation < generation) :
    dispatcher.receiving generation stimulus = [] := by
  cases stimulus with
  | signal origin signal =>
    cases signal with
    | data chunk =>
      rw [receiving, if_neg]
      rintro ⟨live, rfl⟩
      exact ahead.ne (coherent.newest origin live).symm
    | closed reason => rfl
    | failed detail => rfl
  | call number request attempt writable => rfl
  | timer attempt => rfl
  | stats => rfl
  | shutdown => rfl

theorem generation_schedule (decision : Restart.Decision) :
    (dispatcher.schedule now decision).1.connection.generation =
      dispatcher.connection.generation := by
  rcases schedule_cases dispatcher now decision with ⟨restartAt, moved⟩ | ⟨delay, -, -, stopped⟩
  · rw [moved]
  · rw [stopped]
    rfl

theorem generation_lose (dispatcher : Dispatcher) (origin : Link.Generation) (reason : String) :
    (dispatcher.lose now origin reason).1.connection.generation =
      dispatcher.connection.generation := by
  by_cases current : dispatcher.connection.live = some origin
  · rw [lose_current current]
    exact generation_schedule _
  · rw [lose_stale current]

theorem generation_handle (stimulus : Stimulus) :
    dispatcher.connection.generation ≤
      (dispatcher.handle now stimulus).1.connection.generation := by
  cases stimulus with
  | call number request attempt writable =>
    rcases call_cases dispatcher now number request attempt writable with
      ⟨-, duplicate⟩ | ⟨-, newest, -, -, queued⟩ | ⟨-, newest, -, -, refused⟩ |
      ⟨-, -, -, opened⟩ | ⟨-, -, error, -, failed⟩
    · rw [handle, duplicate]
    · rw [handle, queued]
    · rw [handle, refused]
    · rw [handle, opened]
      exact Nat.le_succ _
    · rw [handle, failed]
      simp only [generation_schedule]
      exact Nat.le_succ _
  | signal origin signal =>
    rcases signal_cases dispatcher now origin signal with
      ⟨-, stale⟩ | ⟨live, chunk, rfl, -⟩ | ⟨-, reason, lost⟩
    · rw [handle, stale]
    · obtain ⟨frames, -, ⟨tail, -, -, clean⟩ | ⟨fault, -, -, faulty⟩⟩ :=
        data_cases now live chunk
      · rw [handle, clean, (takeFrames_clean _ now origin frames).2.2.1]
      · rw [handle, faulty, generation_lose, (takeFrames_clean _ now origin frames).2.2.1]
    · rw [handle, lost, generation_lose]
  | timer attempt =>
    rcases restart_cases dispatcher now attempt with
      ⟨-, early⟩ | ⟨-, -, found⟩ | ⟨-, -, -, opened⟩ | ⟨-, -, -, failed⟩
    · rw [handle, early]
    · rw [handle, found]
      rfl
    · rw [handle, opened]
      exact Nat.le_succ _
    · rw [handle, failed]
      simp only [generation_schedule]
      exact Nat.le_succ _
  | stats => exact Nat.le_refl _
  | shutdown => exact Nat.le_refl _

theorem attempted_handle (coherent : dispatcher.Coherent) {stimulus : Stimulus}
    {generation : Link.Generation} {opened : Bool}
    (shows : .attempted generation opened ∈ (dispatcher.handle now stimulus).2) :
    dispatcher.connection.live = none ∧ generation = dispatcher.connection.generation + 1 := by
  cases stimulus with
  | call call request attempt writable =>
    have shown := mem_call coherent shows
    simp only [reduceCtorEq, exists_false, Effect.attempted.injEq, false_or, or_false] at shown
    exact ⟨shown.1, shown.2.1⟩
  | signal generation signal => exact absurd (mem_signal shows) (by simp)
  | timer attempt =>
    have shown := mem_restart coherent shows
    simp only [reduceCtorEq, exists_false, Effect.attempted.injEq, or_false] at shown
    exact ⟨shown.1, shown.2.1⟩
  | stats => simp [handle] at shows
  | shutdown => exact absurd (mem_shutdown shows) (by simp)

end EngineClient.Dispatcher
