import EngineClient.Proofs.Dispatcher.Causes

/-!
What a stimulus does to the link: it leaves it as it is, queues one frame on it, opens one, or drops it.
-/

namespace EngineClient.Dispatcher

def Effect.touches : Effect → Bool
  | .attempted _ opened => opened
  | .queued _ _ _ => true
  | .dropped _ => true
  | .settled _ => false
  | .delivered _ => false
  | .decided _ => false
  | .stopped => false
  | .reported _ => false

/-- What a stimulus and its effects mean for the link. -/
inductive LinkChange (before after : Dispatcher) : Stimulus → List Effect → Prop where
  | left {stimulus : Stimulus} {effects : List Effect}
      (same : after.connection.live = before.connection.live)
      (untouched : ∀ effect ∈ effects, effect.touches = false) :
      LinkChange before after stimulus effects
  | queued {generation : Link.Generation} {number : Call.Number} {request : Request}
      {attempt : Except Link.Error Unit}
      (live : before.connection.live = some generation)
      (same : after.connection.live = some generation) :
      LinkChange before after (.call number request attempt true)
        [.queued generation number request.frame.encode]
  | opened {number : Call.Number} {request : Request} {writable : Bool}
      (down : before.connection.live = none)
      (live : after.connection.live = some (before.connection.generation + 1)) :
      LinkChange before after (.call number request (.ok ()) writable)
        [.attempted (before.connection.generation + 1) true,
          .queued (before.connection.generation + 1) number request.frame.encode]
  | restarted
      (down : before.connection.live = none)
      (live : after.connection.live = some (before.connection.generation + 1)) :
      LinkChange before after (.timer (.ok ()))
        [.attempted (before.connection.generation + 1) true]
  | dropped {generation : Link.Generation} {stimulus : Stimulus} {effects : List Effect}
      (live : before.connection.live = some generation)
      (down : after.connection.live = none)
      (drops : .dropped generation ∈ effects)
      (only : ∀ effect ∈ effects, effect.touches = true → effect = .dropped generation) :
      LinkChange before after stimulus effects

variable {dispatcher : Dispatcher} {now : Nat}

theorem schedule_untouched (coherent : dispatcher.Coherent)
    (down : dispatcher.connection.live = none) (decision : Restart.Decision) :
    (dispatcher.schedule now decision).1.connection.live = none ∧
      ∀ effect ∈ (dispatcher.schedule now decision).2, effect.touches = false := by
  constructor
  · rcases schedule_cases dispatcher now decision with ⟨restartAt, moved⟩ | ⟨delay, -, -, stopped⟩
    · rw [moved]
      exact down
    · rw [stopped]
      rfl
  · intro effect shows
    rcases mem_schedule (coherent.none_waits down) down shows with rfl | rfl
    · rfl
    · rfl

theorem linkChange_lose {generation : Link.Generation} {stimulus : Stimulus} {reason : String}
    (live : dispatcher.connection.live = some generation) {before : Dispatcher}
    (same : before.connection.live = some generation) {early : List Effect}
    (untouched : ∀ effect ∈ early, effect.touches = false) :
    LinkChange before (dispatcher.lose now generation reason).1 stimulus
      (early ++ (dispatcher.lose now generation reason).2) := by
  refine .dropped same (lose_down live).2.2 ?_ ?_
  · rw [lose_current live]
    exact List.mem_append_right early List.mem_cons_self
  · intro effect shows touches
    rcases List.mem_append.mp shows with first | later
    · rw [untouched effect first] at touches
      cases touches
    · rcases mem_lose live later with rfl | ⟨number, -, rfl⟩ | rfl | rfl
      · rfl
      · cases touches
      · cases touches
      · cases touches

theorem takeFrames_untouched {generation : Link.Generation} {frames : List Frame} :
    ∀ effect ∈ (dispatcher.takeFrames now generation (frames.map .ok)).2,
      effect.touches = false := by
  intro effect shows
  rcases mem_takeFrames_shown shows with ⟨settlement, rfl⟩ | ⟨message, rfl⟩
  · rfl
  · rfl

theorem linkChange_call (coherent : dispatcher.Coherent) (number : Call.Number)
    (request : Request) (attempt : Except Link.Error Unit) (writable : Bool) :
    LinkChange dispatcher (dispatcher.call now number request attempt writable).1
      (.call number request attempt writable)
      (dispatcher.call now number request attempt writable).2 := by
  rcases call_cases dispatcher now number request attempt writable with
    ⟨-, duplicate⟩ | ⟨-, generation, live, rfl, queued⟩ | ⟨-, generation, -, -, refused⟩ |
    ⟨-, down, rfl, opened⟩ | ⟨-, down, error, -, failed⟩
  · rw [duplicate]
    exact .left rfl (by simp [Effect.touches])
  · rw [queued]
    exact .queued live live
  · rw [refused]
    exact .left rfl (by simp [Effect.touches])
  · rw [opened]
    exact .opened down rfl
  · rw [failed]
    obtain ⟨still, untouched⟩ := schedule_untouched (coherent_failed coherent down) down
      dispatcher.connection.failed.decision
    refine .left (still.trans down.symm) ?_
    simpa [Effect.touches] using untouched

theorem linkChange_signal (generation : Link.Generation) (signal : Link.Signal) :
    LinkChange dispatcher (dispatcher.signal now generation signal).1
      (.signal generation signal) (dispatcher.signal now generation signal).2 := by
  rcases signal_cases dispatcher now generation signal with
    ⟨-, stale⟩ | ⟨live, chunk, rfl, -⟩ | ⟨live, reason, lost⟩
  · rw [stale]
    exact .left rfl (by simp)
  · obtain ⟨frames, -, ⟨tail, -, -, clean⟩ | ⟨fault, -, kept, faulty⟩⟩ :=
      data_cases now live chunk
    · rw [clean]
      exact .left (takeFrames_clean _ now generation frames).2.1 takeFrames_untouched
    · rw [faulty]
      exact linkChange_lose kept live takeFrames_untouched
  · rw [lost]
    have nothing : ∀ effect ∈ ([] : List Effect), effect.touches = false := by simp
    exact linkChange_lose live live nothing

theorem linkChange_restart (coherent : dispatcher.Coherent) (attempt : Except Link.Error Unit) :
    LinkChange dispatcher (dispatcher.restart now attempt).1 (.timer attempt)
      (dispatcher.restart now attempt).2 := by
  rcases restart_cases dispatcher now attempt with
    ⟨-, early⟩ | ⟨-, -, found⟩ | ⟨-, down, rfl, opened⟩ | ⟨-, down, -, failed⟩
  · rw [early]
    exact .left rfl (by simp)
  · rw [found]
    exact .left rfl (by simp)
  · rw [opened]
    exact .restarted down rfl
  · rw [failed]
    obtain ⟨still, untouched⟩ := schedule_untouched
      (coherent_failed (coherent_fired coherent) down) down dispatcher.connection.failed.decision
    refine .left (still.trans down.symm) ?_
    intro effect shows
    rcases List.mem_cons.mp shows with rfl | later
    · rfl
    · exact untouched effect later

theorem linkChange_shutdown :
    LinkChange dispatcher dispatcher.shutdown.1 .shutdown dispatcher.shutdown.2 := by
  cases live : dispatcher.connection.live with
  | none =>
    refine .left live.symm ?_
    intro effect shows
    rcases mem_shutdown shows with ⟨number, -, rfl⟩ | ⟨generation, up, -⟩ | rfl
    · rfl
    · rw [live] at up
      cases up
    · rfl
  | some generation =>
    refine .dropped live rfl ?_ ?_
    · simp [shutdown, live]
    · intro effect shows touches
      rcases mem_shutdown shows with ⟨number, -, rfl⟩ | ⟨other, up, rfl⟩ | rfl
      · cases touches
      · rw [live] at up
        cases up
        rfl
      · cases touches

/-- Every stimulus leaves the link, queues a frame on it, opens one, or drops it. -/
theorem linkChange_handle (coherent : dispatcher.Coherent) (stimulus : Stimulus) :
    LinkChange dispatcher (dispatcher.handle now stimulus).1 stimulus
      (dispatcher.handle now stimulus).2 := by
  cases stimulus with
  | call number request attempt writable =>
    exact linkChange_call coherent number request attempt writable
  | signal generation signal => exact linkChange_signal generation signal
  | timer attempt => exact linkChange_restart coherent attempt
  | stats => exact .left rfl (by simp [handle, Effect.touches])
  | shutdown => exact linkChange_shutdown

end EngineClient.Dispatcher
