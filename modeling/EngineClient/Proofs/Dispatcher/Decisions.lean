import EngineClient.Proofs.Dispatcher.Steps

/-!
What handling anything but a shutdown means for restarts: nothing is decided, or one decision is taken at
the end, behind effects that go on.
-/

namespace EngineClient.Dispatcher

def Effect.goesOn : Effect → Bool
  | .decided _ => false
  | .stopped => false
  | .attempted _ _ => true
  | .queued _ _ _ => true
  | .settled _ => true
  | .delivered _ => true
  | .dropped _ => true
  | .reported _ => true

/-- The timer is as before, or off. -/
def KeepsTimer (before after : Dispatcher) : Prop :=
  after.restartAt = before.restartAt ∨ after.restartAt = none

/-- A step goes on, and in the end a decision may be scheduled. -/
inductive Decides (before : Dispatcher) (now : Nat) : Dispatcher × List Effect → Prop where
  | nothing {after : Dispatcher} {effects : List Effect} (timer : KeepsTimer before after)
      (going : ∀ effect ∈ effects, effect.goesOn = true) : Decides before now (after, effects)
  | scheduled {between : Dispatcher} {effects : List Effect} (timer : KeepsTimer before between)
      (going : ∀ effect ∈ effects, effect.goesOn = true) (decision : Restart.Decision) :
      Decides before now
        ((between.schedule now decision).1, effects ++ (between.schedule now decision).2)

variable {dispatcher : Dispatcher} {now : Nat}

theorem keepsTimer_refl : KeepsTimer dispatcher dispatcher := .inl rfl

theorem Decides.of_same {before : Dispatcher} {result : Dispatcher × List Effect}
    (same : dispatcher.restartAt = before.restartAt) (decides : Decides dispatcher now result) :
    Decides before now result := by
  cases decides with
  | nothing timer going =>
    rw [KeepsTimer, same] at timer
    exact .nothing timer going
  | scheduled timer going decision =>
    rw [KeepsTimer, same] at timer
    exact .scheduled timer going decision

theorem Decides.behind {after : Dispatcher} {first second : List Effect}
    (going : ∀ effect ∈ first, effect.goesOn = true)
    (decides : Decides dispatcher now (after, second)) :
    Decides dispatcher now (after, first ++ second) := by
  have both {later : List Effect} (later_going : ∀ effect ∈ later, effect.goesOn = true) :
      ∀ effect ∈ first ++ later, effect.goesOn = true := fun effect shows =>
    (List.mem_append.mp shows).elim (going effect) (later_going effect)
  cases decides with
  | nothing timer later_going => exact .nothing timer (both later_going)
  | scheduled timer later_going decision =>
    rw [← List.append_assoc]
    exact .scheduled timer (both later_going) decision

theorem decides_call (number : Call.Number) (request : Request) (attempt : Except Link.Error Unit)
    (writable : Bool) :
    Decides dispatcher now (dispatcher.call now number request attempt writable) := by
  rcases call_cases dispatcher now number request attempt writable with
    ⟨-, duplicate⟩ | ⟨-, generation, -, -, queued⟩ | ⟨-, generation, -, -, refused⟩ |
    ⟨-, -, -, opened⟩ | ⟨-, -, error, -, failed⟩
  · rw [duplicate]
    exact .nothing keepsTimer_refl (by simp [Effect.goesOn])
  · rw [queued]
    exact .nothing (.inl rfl) (by simp [Effect.goesOn])
  · rw [refused]
    exact .nothing keepsTimer_refl (by simp [Effect.goesOn])
  · rw [opened]
    exact .nothing (.inl rfl) (by simp [Effect.goesOn])
  · rw [failed]
    have kept : KeepsTimer dispatcher
        { dispatcher with connection := dispatcher.connection.failed } := .inl rfl
    have going : ∀ effect ∈ [Effect.attempted (dispatcher.connection.generation + 1) false,
        .settled ⟨number, .error (.ofLink error)⟩], effect.goesOn = true := by
      simp [Effect.goesOn]
    exact .scheduled kept going dispatcher.connection.failed.decision

theorem decides_lose (generation : Link.Generation) (reason : String) :
    Decides dispatcher now (dispatcher.lose now generation reason) := by
  by_cases current : dispatcher.connection.live = some generation
  · rw [lose_current current]
    have kept : KeepsTimer dispatcher dispatcher.bereft := .inl rfl
    have going : ∀ effect ∈ Effect.dropped generation ::
        (dispatcher.pending.rejectAll (.linkLost reason)).map Effect.settled,
        effect.goesOn = true := by
      simp [Effect.goesOn]
    exact .scheduled kept going dispatcher.connection.lost.decision
  · rw [lose_stale current]
    exact .nothing keepsTimer_refl (by simp)

theorem dispatch_goes_on (frame : Frame) :
    ∀ effect ∈ (dispatcher.dispatch frame).2, effect.goesOn = true := by
  rcases dispatch_cases dispatcher frame with
    ⟨skipped, -⟩ | ⟨message, -, -, delivered⟩ | ⟨reply, id, number, -, -, -, settled⟩
  · simp [skipped]
  · simp [delivered, Effect.goesOn]
  · simp [settled, Effect.goesOn]

@[simp] theorem dispatch_restartAt (frame : Frame) :
    (dispatcher.dispatch frame).1.restartAt = dispatcher.restartAt := by
  rcases dispatch_cases dispatcher frame with
    ⟨skipped, -⟩ | ⟨message, -, -, delivered⟩ | ⟨reply, id, number, -, -, -, settled⟩
  · rw [skipped]
  · rw [delivered]
  · rw [settled]

theorem decides_takeFrames (generation : Link.Generation)
    (items : List (Except Frame.Error Frame)) :
    Decides dispatcher now (dispatcher.takeFrames now generation items) := by
  induction items generalizing dispatcher with
  | nil => exact .nothing keepsTimer_refl (by simp)
  | cons item rest ih =>
    cases item with
    | error fault =>
      rw [takeFrames_fault]
      exact decides_lose generation _
    | ok frame =>
      rw [takeFrames_frame]
      have same : ((dispatcher.healthy generation).dispatch frame).1.restartAt =
          dispatcher.restartAt := dispatch_restartAt frame
      exact (ih.of_same same).behind (dispatch_goes_on frame)

theorem decides_signal (generation : Link.Generation) (signal : Link.Signal) :
    Decides dispatcher now (dispatcher.signal now generation signal) := by
  rcases signal_cases dispatcher now generation signal with
    ⟨-, stale⟩ | ⟨-, chunk, -, taken⟩ | ⟨-, reason, lost⟩
  · rw [stale]
    exact .nothing keepsTimer_refl (by simp)
  · rw [taken]
    let fed : Dispatcher := { dispatcher with decoder := (dispatcher.decoder.step chunk).2 }
    have same : fed.restartAt = dispatcher.restartAt := rfl
    exact (decides_takeFrames generation _).of_same same
  · rw [lost]
    exact decides_lose generation reason

theorem decides_restart (attempt : Except Link.Error Unit) :
    Decides dispatcher now (dispatcher.restart now attempt) := by
  rcases restart_cases dispatcher now attempt with
    ⟨-, early⟩ | ⟨-, -, found⟩ | ⟨-, -, -, opened⟩ | ⟨-, -, -, failed⟩
  · rw [early]
    exact .nothing keepsTimer_refl (by simp)
  · rw [found]
    exact .nothing (.inr rfl) (by simp)
  · rw [opened]
    exact .nothing (.inr rfl) (by simp [Effect.goesOn])
  · rw [failed]
    have off : KeepsTimer dispatcher
        { dispatcher.fired with connection := dispatcher.connection.failed } := .inr rfl
    have going : ∀ effect ∈ [Effect.attempted (dispatcher.connection.generation + 1) false],
        effect.goesOn = true := by simp [Effect.goesOn]
    exact .scheduled off going dispatcher.connection.failed.decision

theorem decides_handle {stimulus : Stimulus} (other : stimulus ≠ .shutdown) :
    Decides dispatcher now (dispatcher.handle now stimulus) := by
  cases stimulus with
  | call number request attempt writable => exact decides_call number request attempt writable
  | signal generation signal => exact decides_signal generation signal
  | timer attempt => exact decides_restart attempt
  | stats => exact .nothing keepsTimer_refl (by simp [Effect.goesOn])
  | shutdown => exact absurd rfl other

end EngineClient.Dispatcher
