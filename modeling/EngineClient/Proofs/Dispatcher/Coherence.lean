import EngineClient.Proofs.Dispatcher.Steps
import EngineClient.Proofs.Frame.Stream

/-!
What holds of a dispatcher between any two things that it handles: its pending calls, its decoder and its
connection agree on the one live link.
-/

namespace EngineClient.Dispatcher

/-- Calls wait and bytes are held back only while a link is live, and the live link is the one that was
opened last. -/
structure Coherent (dispatcher : Dispatcher) : Prop where
  distinct : dispatcher.pending.Distinct
  none_waits : dispatcher.connection.live = none → dispatcher.pending = .empty
  none_held : dispatcher.connection.live = none → dispatcher.decoder = .empty
  newest : ∀ generation, dispatcher.connection.live = some generation →
    generation = dispatcher.connection.generation
  incomplete : Frame.Incomplete dispatcher.decoder.buffer

variable {dispatcher : Dispatcher} {now : Nat}

theorem coherent_new (policy : Restart.Policy) : (new policy).Coherent where
  distinct := Call.Pending.distinct_empty
  none_waits _ := rfl
  none_held _ := rfl
  newest _ impossible := by cases impossible
  incomplete := Frame.incomplete_nil

theorem coherent_down (down : dispatcher.connection.live = none)
    (waits : dispatcher.pending = .empty) (held : dispatcher.decoder = .empty) :
    dispatcher.Coherent where
  distinct := by rw [waits]; exact Call.Pending.distinct_empty
  none_waits _ := waits
  none_held _ := held
  newest _ live := by rw [down] at live; cases live
  incomplete := by rw [held]; exact Frame.incomplete_nil

theorem coherent_shutdown : dispatcher.shutdown.1.Coherent := coherent_down rfl rfl rfl

theorem coherent_schedule (coherent : dispatcher.Coherent) (decision : Restart.Decision) :
    (dispatcher.schedule now decision).1.Coherent := by
  rcases schedule_cases dispatcher now decision with ⟨restartAt, moved⟩ | ⟨delay, -, -, stopped⟩
  · rw [moved]
    exact ⟨coherent.distinct, coherent.none_waits, coherent.none_held, coherent.newest,
      coherent.incomplete⟩
  · rw [stopped]
    exact coherent_shutdown

theorem coherent_failed (coherent : dispatcher.Coherent) (down : dispatcher.connection.live = none) :
    ({ dispatcher with connection := dispatcher.connection.failed } : Dispatcher).Coherent :=
  coherent_down down (coherent.none_waits down) (coherent.none_held down)

theorem coherent_opened (coherent : dispatcher.Coherent) {pending : Call.Pending}
    (distinct : pending.Distinct) :
    ({ dispatcher with connection := dispatcher.connection.opened, pending } : Dispatcher).Coherent where
  distinct := distinct
  none_waits impossible := by cases impossible
  none_held impossible := by cases impossible
  newest _ live := by cases live; rfl
  incomplete := coherent.incomplete

theorem coherent_fired (coherent : dispatcher.Coherent) : dispatcher.fired.Coherent :=
  ⟨coherent.distinct, coherent.none_waits, coherent.none_held, coherent.newest, coherent.incomplete⟩

theorem coherent_call (coherent : dispatcher.Coherent) (number : Call.Number) (request : Request)
    (attempt : Except Link.Error Unit) (writable : Bool) :
    (dispatcher.call now number request attempt writable).1.Coherent := by
  rcases call_cases dispatcher now number request attempt writable with
    ⟨-, duplicate⟩ | ⟨free, generation, live, -, queued⟩ | ⟨-, generation, -, -, refused⟩ |
    ⟨free, -, -, opened⟩ | ⟨-, down, error, -, failed⟩
  · rw [duplicate]
    exact coherent
  · rw [queued]
    refine ⟨Call.Pending.distinct_adding coherent.distinct free, ?_, coherent.none_held,
      coherent.newest, coherent.incomplete⟩
    intro down
    simp [live] at down
  · rw [refused]
    exact coherent
  · rw [opened]
    exact coherent_opened coherent (Call.Pending.distinct_adding coherent.distinct free)
  · rw [failed]
    exact coherent_schedule (coherent_failed coherent down) _

theorem coherent_lose (coherent : dispatcher.Coherent) (generation : Link.Generation)
    (reason : String) : (dispatcher.lose now generation reason).1.Coherent := by
  by_cases current : dispatcher.connection.live = some generation
  · rw [lose_current current]
    have bereft : dispatcher.bereft.Coherent := coherent_down rfl rfl rfl
    exact coherent_schedule bereft _
  · rw [lose_stale current]
    exact coherent

theorem coherent_healthy (coherent : dispatcher.Coherent) (generation : Link.Generation) :
    (dispatcher.healthy generation).Coherent where
  distinct := coherent.distinct
  none_waits := by simpa using coherent.none_waits
  none_held := by simpa using coherent.none_held
  newest := by simpa using coherent.newest
  incomplete := coherent.incomplete

theorem coherent_dispatch (coherent : dispatcher.Coherent) (frame : Frame) :
    (dispatcher.dispatch frame).1.Coherent := by
  rcases dispatch_cases dispatcher frame with
    ⟨skipped, -⟩ | ⟨message, -, -, delivered⟩ | ⟨reply, id, number, -, -, found, settled⟩
  · rw [skipped]
    exact coherent
  · rw [delivered]
    exact coherent
  · rw [settled]
    refine ⟨Call.Pending.distinct_erase coherent.distinct, ?_, coherent.none_held,
      coherent.newest, coherent.incomplete⟩
    intro down
    have waits := coherent.none_waits down
    rw [waits] at found
    cases found

theorem coherent_takeFrames (coherent : dispatcher.Coherent) (generation : Link.Generation)
    (items : List (Except Frame.Error Frame)) :
    (dispatcher.takeFrames now generation items).1.Coherent := by
  induction items generalizing dispatcher with
  | nil => exact coherent
  | cons item rest ih =>
    cases item with
    | error fault =>
      rw [takeFrames_fault]
      exact coherent_lose coherent generation _
    | ok frame =>
      rw [takeFrames_frame]
      exact ih (coherent_dispatch (coherent_healthy coherent generation) frame)

theorem coherent_fed (coherent : dispatcher.Coherent) {generation : Link.Generation}
    (live : dispatcher.connection.live = some generation) (chunk : Bytes) :
    ({ dispatcher with decoder := (dispatcher.decoder.step chunk).2 } : Dispatcher).Coherent := by
  refine ⟨coherent.distinct, coherent.none_waits, ?_, coherent.newest,
    Frame.Decoder.step_incomplete _ _⟩
  intro down
  simp [live] at down

theorem coherent_signal (coherent : dispatcher.Coherent) (generation : Link.Generation)
    (signal : Link.Signal) : (dispatcher.signal now generation signal).1.Coherent := by
  rcases signal_cases dispatcher now generation signal with
    ⟨-, stale⟩ | ⟨live, chunk, -, taken⟩ | ⟨-, reason, lost⟩
  · rw [stale]
    exact coherent
  · rw [taken]
    exact coherent_takeFrames (coherent_fed coherent live chunk) generation _
  · rw [lost]
    exact coherent_lose coherent generation reason

theorem coherent_restart (coherent : dispatcher.Coherent) (attempt : Except Link.Error Unit) :
    (dispatcher.restart now attempt).1.Coherent := by
  have fired := coherent_fired coherent
  rcases restart_cases dispatcher now attempt with
    ⟨-, early⟩ | ⟨-, -, found⟩ | ⟨-, -, -, opened⟩ | ⟨-, down, -, failed⟩
  · rw [early]
    exact coherent
  · rw [found]
    exact fired
  · rw [opened]
    exact coherent_opened fired coherent.distinct
  · rw [failed]
    exact coherent_schedule (coherent_failed fired down) _

theorem coherent_handle (coherent : dispatcher.Coherent) (stimulus : Stimulus) :
    (dispatcher.handle now stimulus).1.Coherent := by
  cases stimulus with
  | call number request attempt writable => exact coherent_call coherent number request attempt writable
  | signal generation signal => exact coherent_signal coherent generation signal
  | timer attempt => exact coherent_restart coherent attempt
  | stats => exact coherent
  | shutdown => exact coherent_shutdown

end EngineClient.Dispatcher
