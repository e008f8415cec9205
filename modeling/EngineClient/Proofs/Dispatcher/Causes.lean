import EngineClient.Proofs.Dispatcher.Coherence
import EngineClient.Proofs.Dispatcher.Data

/-!
Why a stimulus settles a call: every settlement that the dispatcher makes has one of a few causes, each
read off the state before the stimulus. Counts are reported for the asking only.
-/

namespace EngineClient.Dispatcher

variable {dispatcher : Dispatcher} {now : Nat} {generation : Link.Generation}

theorem mem_shutdown {effect : Effect} (shows : effect ∈ dispatcher.shutdown.2) :
    (∃ number ∈ dispatcher.pending.numbers,
      effect = .settled ⟨number, .error .clientClosed⟩) ∨
    (∃ generation, dispatcher.connection.live = some generation ∧ effect = .dropped generation) ∨
    effect = .stopped := by
  simp only [shutdown, List.mem_append, List.mem_map, Call.Pending.rejectAll,
    List.mem_singleton, Option.mem_toList] at shows
  rcases shows with (⟨settlement, ⟨entry, present, rfl⟩, rfl⟩ | ⟨generation, live, rfl⟩) | stopped
  · exact .inl ⟨entry.2, List.mem_map_of_mem present, rfl⟩
  · exact .inr (.inl ⟨generation, live, rfl⟩)
  · exact .inr (.inr stopped)

theorem mem_schedule (waits : dispatcher.pending = .empty)
    (down : dispatcher.connection.live = none) {decision : Restart.Decision} {effect : Effect}
    (shows : effect ∈ (dispatcher.schedule now decision).2) :
    effect = .decided decision ∨ effect = .stopped := by
  rcases schedule_cases dispatcher now decision with ⟨restartAt, moved⟩ | ⟨delay, -, -, stopped⟩
  · rw [moved] at shows
    exact .inl (List.mem_singleton.mp shows)
  · rw [stopped] at shows
    rcases List.mem_cons.mp shows with decided | later
    · exact .inl decided
    · rcases mem_shutdown later with ⟨number, present, -⟩ | ⟨generation, live, -⟩ | done
      · rw [waits] at present
        cases present
      · rw [down] at live
        cases live
      · exact .inr done

theorem settled_dispatch {frame : Frame} {number : Call.Number} {outcome : Call.Outcome}
    (shows : .settled ⟨number, outcome⟩ ∈ (dispatcher.dispatch frame).2) :
    ∃ id reply, (id, number) ∈ dispatcher.pending.calls ∧ frame.Answers id reply ∧
      outcome = Call.outcomeOf reply := by
  rcases dispatch_cases dispatcher frame with
    ⟨skipped, -⟩ | ⟨message, -, -, delivered⟩ | ⟨reply, id, call, said, answered, found, settled⟩
  · simp [skipped] at shows
  · simp [delivered] at shows
  · simp only [settled, List.mem_singleton, Effect.settled.injEq, Call.Settlement.mk.injEq]
      at shows
    obtain ⟨rfl, rfl⟩ := shows
    exact ⟨id, reply, Call.Pending.mem_of_find found, ⟨said, answered⟩, rfl⟩

theorem settled_takeFrames {frames : List Frame} {number : Call.Number} {outcome : Call.Outcome}
    (shows : .settled ⟨number, outcome⟩ ∈
      (dispatcher.takeFrames now generation (frames.map .ok)).2) :
    ∃ earlier frame later id reply, frames = earlier ++ frame :: later ∧
      (id, number) ∈ dispatcher.pending.calls ∧
      (∀ other ∈ earlier, ∀ said, ¬ other.Answers id said) ∧
      frame.Answers id reply ∧ outcome = Call.outcomeOf reply := by
  induction frames generalizing dispatcher with
  | nil => simp [takeFrames_nil] at shows
  | cons frame rest ih =>
    rw [List.map_cons, takeFrames_frame] at shows
    rcases List.mem_append.mp shows with now_settled | later_settled
    · obtain ⟨id, reply, waits, answers, rfl⟩ := settled_dispatch now_settled
      exact ⟨[], frame, rest, id, reply, rfl, waits, by simp, answers, rfl⟩
    · obtain ⟨earlier, answer, later, id, reply, rfl, waits, first, answers, rfl⟩ :=
        ih later_settled
      obtain ⟨before, unanswered⟩ := mem_dispatch.mp waits
      refine ⟨frame :: earlier, answer, later, id, reply, rfl, before, ?_, answers, rfl⟩
      simpa only [List.forall_mem_cons] using ⟨unanswered, first⟩

theorem mem_lose {reason : String} {effect : Effect}
    (live : dispatcher.connection.live = some generation)
    (shows : effect ∈ (dispatcher.lose now generation reason).2) :
    effect = .dropped generation ∨
    (∃ number ∈ dispatcher.pending.numbers,
      effect = .settled ⟨number, .error (.linkLost reason)⟩) ∨
    effect = .decided dispatcher.connection.lost.decision ∨ effect = .stopped := by
  rw [lose_current live] at shows
  rcases List.mem_append.mp shows with first | later
  · rcases List.mem_cons.mp first with dropped | settled
    · exact .inl dropped
    · simp only [Call.Pending.rejectAll, List.mem_map] at settled
      obtain ⟨settlement, ⟨entry, present, rfl⟩, rfl⟩ := settled
      exact .inr (.inl ⟨entry.2, List.mem_map_of_mem present, rfl⟩)
  · exact .inr (.inr (mem_schedule rfl rfl later))

theorem mem_takeFrames_shown {frames : List Frame} {effect : Effect}
    (shows : effect ∈ (dispatcher.takeFrames now generation (frames.map .ok)).2) :
    (∃ settlement, effect = .settled settlement) ∨ ∃ message, effect = .delivered message := by
  induction frames generalizing dispatcher with
  | nil => simp [takeFrames_nil] at shows
  | cons frame rest ih =>
    rw [List.map_cons, takeFrames_frame] at shows
    rcases List.mem_append.mp shows with first | later
    · rcases dispatch_cases (dispatcher.healthy generation) frame with
        ⟨skipped, -⟩ | ⟨message, -, -, delivered⟩ | ⟨reply, id, number, -, -, -, settled⟩
      · simp [skipped] at first
      · rw [delivered] at first
        exact .inr ⟨message, List.mem_singleton.mp first⟩
      · rw [settled] at first
        exact .inl ⟨_, List.mem_singleton.mp first⟩
    · exact ih later

theorem mem_signal {signal : Link.Signal} {effect : Effect}
    (shows : effect ∈ (dispatcher.signal now generation signal).2) :
    (∃ settlement, effect = .settled settlement) ∨ (∃ message, effect = .delivered message) ∨
    effect = .dropped generation ∨ (∃ decision, effect = .decided decision) ∨
    effect = .stopped := by
  have of_lose {dispatcher : Dispatcher} {reason : String}
      (live : dispatcher.connection.live = some generation)
      (shows : effect ∈ (dispatcher.lose now generation reason).2) :
      (∃ settlement, effect = .settled settlement) ∨ (∃ message, effect = .delivered message) ∨
      effect = .dropped generation ∨ (∃ decision, effect = .decided decision) ∨
      effect = .stopped := by
    rcases mem_lose live shows with dropped | ⟨number, -, settled⟩ | decided | stopped
    · exact .inr (.inr (.inl dropped))
    · exact .inl ⟨_, settled⟩
    · exact .inr (.inr (.inr (.inl ⟨_, decided⟩)))
    · exact .inr (.inr (.inr (.inr stopped)))
  rcases signal_cases dispatcher now generation signal with
    ⟨-, stale⟩ | ⟨live, chunk, rfl, -⟩ | ⟨live, reason, lost⟩
  · simp [stale] at shows
  · obtain ⟨frames, -, ⟨tail, -, -, clean⟩ | ⟨fault, -, kept, faulty⟩⟩ :=
      data_cases now live chunk
    · rw [clean] at shows
      rcases mem_takeFrames_shown shows with settled | delivered
      · exact .inl settled
      · exact .inr (.inl delivered)
    · rw [faulty] at shows
      rcases List.mem_append.mp shows with early | late
      · rcases mem_takeFrames_shown early with settled | delivered
        · exact .inl settled
        · exact .inr (.inl delivered)
      · exact of_lose kept late
  · rw [lost] at shows
    exact of_lose live shows

theorem mem_restart (coherent : dispatcher.Coherent) {attempt : Except Link.Error Unit}
    {effect : Effect} (shows : effect ∈ (dispatcher.restart now attempt).2) :
    (dispatcher.connection.live = none ∧
      effect = .attempted (dispatcher.connection.generation + 1) attempt.isOk) ∨
    (∃ decision, effect = .decided decision) ∨ effect = .stopped := by
  rcases restart_cases dispatcher now attempt with
    ⟨-, early⟩ | ⟨-, -, found⟩ | ⟨-, down, rfl, opened⟩ | ⟨-, down, ⟨error, rfl⟩, failed⟩
  · simp [early] at shows
  · simp [found] at shows
  · rw [opened] at shows
    exact .inl ⟨down, List.mem_singleton.mp shows⟩
  · rw [failed] at shows
    rcases List.mem_cons.mp shows with attempted | later
    · exact .inl ⟨down, attempted⟩
    · have broken := coherent_failed (coherent_fired coherent) down
      rcases mem_schedule (broken.none_waits down) down later with decided | stopped
      · exact .inr (.inl ⟨_, decided⟩)
      · exact .inr (.inr stopped)

theorem mem_call (coherent : dispatcher.Coherent) {number : Call.Number} {request : Request}
    {attempt : Except Link.Error Unit} {writable : Bool} {effect : Effect}
    (shows : effect ∈ (dispatcher.call now number request attempt writable).2) :
    (∃ error, effect = .settled ⟨number, .error error⟩) ∨
    (dispatcher.connection.live = none ∧
      effect = .attempted (dispatcher.connection.generation + 1) attempt.isOk) ∨
    (∃ generation, effect = .queued generation number request.frame.encode) ∨
    (∃ decision, effect = .decided decision) ∨ effect = .stopped := by
  rcases call_cases dispatcher now number request attempt writable with
    ⟨-, duplicate⟩ | ⟨-, generation, -, -, queued⟩ | ⟨-, generation, -, rfl, refused⟩ |
    ⟨-, down, rfl, opened⟩ | ⟨-, down, error, rfl, failed⟩
  · rw [duplicate] at shows
    exact .inl ⟨_, List.mem_singleton.mp shows⟩
  · rw [queued] at shows
    exact .inr (.inr (.inl ⟨generation, List.mem_singleton.mp shows⟩))
  · rw [refused] at shows
    exact .inl ⟨_, List.mem_singleton.mp shows⟩
  · rw [opened] at shows
    rcases List.mem_cons.mp shows with attempted | later
    · exact .inr (.inl ⟨down, attempted⟩)
    · exact .inr (.inr (.inl ⟨_, List.mem_singleton.mp later⟩))
  · rw [failed] at shows
    rcases List.mem_cons.mp shows with attempted | rest
    · exact .inr (.inl ⟨down, attempted⟩)
    · rcases List.mem_cons.mp rest with settled | later
      · exact .inl ⟨_, settled⟩
      · have broken := coherent_failed coherent down
        rcases mem_schedule (broken.none_waits down) down later with decided | stopped
        · exact .inr (.inr (.inr (.inl ⟨_, decided⟩)))
        · exact .inr (.inr (.inr (.inr stopped)))

theorem reported_handle (coherent : dispatcher.Coherent) {stimulus : Stimulus} {stats : Stats}
    (shows : .reported stats ∈ (dispatcher.handle now stimulus).2) :
    stimulus = .stats ∧ stats = dispatcher.stats := by
  cases stimulus with
  | call number request attempt writable => exact absurd (mem_call coherent shows) (by simp)
  | signal generation signal => exact absurd (mem_signal shows) (by simp)
  | timer attempt => exact absurd (mem_restart coherent shows) (by simp)
  | stats =>
    simp only [handle, List.mem_singleton, Effect.reported.injEq] at shows
    exact ⟨rfl, shows⟩
  | shutdown => exact absurd (mem_shutdown shows) (by simp)

inductive Ends (dispatcher : Dispatcher) : Link.Signal → String → Prop where
  | closed (reason : Link.CloseReason) : Ends dispatcher (.closed reason) reason.text
  | failed (detail : String) : Ends dispatcher (.failed detail) detail
  | fault {chunk : Bytes} {frames : List Frame} {fault : Frame.Error}
      (framed : (dispatcher.decoder.step chunk).1 = frames.map .ok ++ [.error fault]) :
      Ends dispatcher (.data chunk) ("protocol error: " ++ fault.message)

theorem dropped_of_ends {signal : Link.Signal} {reason : String}
    (live : dispatcher.connection.live = some generation) (ends : dispatcher.Ends signal reason) :
    .dropped generation ∈ (dispatcher.signal now generation signal).2 := by
  have loses {early : Dispatcher} (still : early.connection.live = some generation) :
      .dropped generation ∈ (early.lose now generation reason).2 := by
    rw [lose_current still]
    exact List.mem_append_left _ List.mem_cons_self
  cases ends with
  | closed reason =>
    rw [signal_closed live]
    exact loses live
  | failed detail =>
    rw [signal_failed live]
    exact loses live
  | @fault chunk frames fault framed =>
    obtain ⟨others, -, ⟨tail, -, clean, -⟩ | ⟨other, faulty, kept, taken⟩⟩ :=
      data_cases now live chunk
    · have impossible : .error fault ∈ others.map (.ok : Frame → Except Frame.Error Frame) := by
        rw [← clean, framed]
        exact List.mem_append_right _ List.mem_cons_self
      simp at impossible
    · obtain ⟨-, same⟩ := List.append_inj' (framed.symm.trans faulty) rfl
      cases same
      rw [taken]
      exact List.mem_append_right _ (loses kept)

/-- Why a stimulus settles a call. -/
inductive Cause (dispatcher : Dispatcher) (number : Call.Number) :
    Stimulus → Call.Outcome → Prop where
  | duplicate {request : Request} {attempt : Except Link.Error Unit} {writable : Bool}
      (taken : dispatcher.pending.contains (request.id.getD "") = true) :
      Cause dispatcher number (.call number request attempt writable)
        (.error (.duplicateId (request.id.getD "")))
  | unreachable {request : Request} {error : Link.Error} {writable : Bool}
      (free : dispatcher.pending.contains (request.id.getD "") = false)
      (down : dispatcher.connection.live = none) :
      Cause dispatcher number (.call number request (.error error) writable)
        (.error (.ofLink error))
  | refused {request : Request} {attempt : Except Link.Error Unit} {generation : Link.Generation}
      (free : dispatcher.pending.contains (request.id.getD "") = false)
      (live : dispatcher.connection.live = some generation) :
      Cause dispatcher number (.call number request attempt false)
        (.error (.linkLost Link.Error.closed.message))
  | answered {generation : Link.Generation} {chunk : Bytes} {frames : List Frame}
      {ends : List (Except Frame.Error Frame)} {frame : Frame} {id : String} {reply : Response}
      (live : dispatcher.connection.live = some generation)
      (framed : (dispatcher.decoder.step chunk).1 = frames.map .ok ++ .ok frame :: ends)
      (waits : (id, number) ∈ dispatcher.pending.calls)
      (first : ∀ other ∈ frames, ∀ said, ¬ other.Answers id said)
      (answers : frame.Answers id reply) :
      Cause dispatcher number (.signal generation (.data chunk)) (Call.outcomeOf reply)
  | lost {generation : Link.Generation} {signal : Link.Signal} {reason : String}
      (live : dispatcher.connection.live = some generation)
      (ends : dispatcher.Ends signal reason)
      (waits : number ∈ dispatcher.pending.numbers) :
      Cause dispatcher number (.signal generation signal) (.error (.linkLost reason))
  | closed (waits : number ∈ dispatcher.pending.numbers) :
      Cause dispatcher number .shutdown (.error .clientClosed)

variable {number : Call.Number} {outcome : Call.Outcome}

theorem cause_call (coherent : dispatcher.Coherent) {call : Call.Number} {request : Request}
    {attempt : Except Link.Error Unit} {writable : Bool}
    (shows : .settled ⟨number, outcome⟩ ∈
      (dispatcher.call now call request attempt writable).2) :
    dispatcher.Cause number (.call call request attempt writable) outcome := by
  rcases call_cases dispatcher now call request attempt writable with
    ⟨taken, duplicate⟩ | ⟨-, generation, -, -, queued⟩ | ⟨free, generation, live, rfl, refused⟩ |
    ⟨-, -, -, opened⟩ | ⟨free, down, error, rfl, failed⟩
  · simp only [duplicate, List.mem_singleton, Effect.settled.injEq, Call.Settlement.mk.injEq]
      at shows
    obtain ⟨rfl, rfl⟩ := shows
    exact .duplicate taken
  · simp [queued] at shows
  · simp only [refused, List.mem_singleton, Effect.settled.injEq, Call.Settlement.mk.injEq]
      at shows
    obtain ⟨rfl, rfl⟩ := shows
    exact .refused free live
  · simp [opened] at shows
  · rw [failed] at shows
    rcases List.mem_cons.mp shows with attempted | rest
    · cases attempted
    · rcases List.mem_cons.mp rest with settled | later
      · simp only [Effect.settled.injEq, Call.Settlement.mk.injEq] at settled
        obtain ⟨rfl, rfl⟩ := settled
        exact .unreachable free down
      · have broken := coherent_failed coherent down
        rcases mem_schedule (broken.none_waits down) down later with decided | stopped
        · cases decided
        · cases stopped

theorem cause_lose {signal : Link.Signal} {reason : String}
    (live : dispatcher.connection.live = some generation) (ends : dispatcher.Ends signal reason)
    (shows : .settled ⟨number, outcome⟩ ∈ (dispatcher.lose now generation reason).2) :
    dispatcher.Cause number (.signal generation signal) outcome := by
  rcases mem_lose live shows with dropped | ⟨call, waits, settled⟩ | decided | stopped
  · cases dropped
  · simp only [Effect.settled.injEq, Call.Settlement.mk.injEq] at settled
    obtain ⟨rfl, rfl⟩ := settled
    exact .lost live ends waits
  · cases decided
  · cases stopped

theorem cause_data (live : dispatcher.connection.live = some generation) {chunk : Bytes}
    (shows : .settled ⟨number, outcome⟩ ∈
      (dispatcher.signal now generation (.data chunk)).2) :
    dispatcher.Cause number (.signal generation (.data chunk)) outcome := by
  obtain ⟨frames, -, ⟨tail, -, framed, clean⟩ | ⟨fault, framed, kept, faulty⟩⟩ :=
    data_cases now live chunk
  · rw [clean] at shows
    obtain ⟨earlier, frame, later, id, reply, rfl, waits, first, answers, rfl⟩ :=
      settled_takeFrames shows
    exact .answered live (by rw [framed, List.map_append, List.map_cons]) waits first answers
  · rw [faulty] at shows
    rcases List.mem_append.mp shows with early | late
    · obtain ⟨earlier, frame, later, id, reply, rfl, waits, first, answers, rfl⟩ :=
        settled_takeFrames early
      have split : (dispatcher.decoder.step chunk).1 =
          earlier.map .ok ++ .ok frame :: (later.map .ok ++ [.error fault]) := by
        rw [framed, List.map_append, List.map_cons, List.append_assoc, List.cons_append]
      exact .answered live split waits first answers
    · rcases mem_lose kept late with dropped | ⟨call, waits, settled⟩ | decided | stopped
      · cases dropped
      · simp only [Effect.settled.injEq, Call.Settlement.mk.injEq] at settled
        obtain ⟨rfl, rfl⟩ := settled
        obtain ⟨entry, present, rfl⟩ := List.mem_map.mp waits
        exact .lost live (.fault framed)
          (List.mem_map_of_mem (mem_takeFrames.mp present).1)
      · cases decided
      · cases stopped

/-- Every settlement has a cause. -/
theorem cause_handle (coherent : dispatcher.Coherent) {stimulus : Stimulus}
    (shows : .settled ⟨number, outcome⟩ ∈ (dispatcher.handle now stimulus).2) :
    dispatcher.Cause number stimulus outcome := by
  cases stimulus with
  | call call request attempt writable => exact cause_call coherent shows
  | signal generation signal =>
    by_cases live : dispatcher.connection.live = some generation
    · cases signal with
      | data chunk => exact cause_data live shows
      | closed reason =>
        rw [handle, signal_closed live] at shows
        exact cause_lose live (.closed reason) shows
      | failed detail =>
        rw [handle, signal_failed live] at shows
        exact cause_lose live (.failed detail) shows
    · rw [handle, signal_stale live] at shows
      cases shows
  | timer attempt => exact absurd (mem_restart coherent shows) (by simp)
  | stats => simp [handle] at shows
  | shutdown =>
    rcases mem_shutdown shows with ⟨call, waits, settled⟩ | ⟨generation, -, dropped⟩ | stopped
    · simp only [Effect.settled.injEq, Call.Settlement.mk.injEq] at settled
      obtain ⟨rfl, rfl⟩ := settled
      exact .closed waits
    · cases dropped
    · cases stopped

end EngineClient.Dispatcher
