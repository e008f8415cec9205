import EngineClient.Proofs.Dispatcher.Coherence

/-!
The accounts of calls: whatever the dispatcher handles, the calls that are pending afterwards and those
that it settled are together the calls that were pending before and the one that came in.
-/

namespace EngineClient.Dispatcher

def Effect.outcome? (number : Call.Number) : Effect → Option Call.Outcome
  | .settled settlement => if settlement.call = number then some settlement.outcome else none
  | _ => none

def outcomes (number : Call.Number) (effects : List Effect) : List Call.Outcome :=
  effects.filterMap (Effect.outcome? number)

def Stimulus.call? : Stimulus → Option Call.Number
  | .call number _ _ _ => some number
  | _ => none

/-- How often a call is pending after a step or settled in it. -/
def tally (number : Call.Number) (result : Dispatcher × List Effect) : Nat :=
  result.1.pending.numbers.count number + (outcomes number result.2).length

variable {dispatcher : Dispatcher} {now : Nat} (number : Call.Number)

@[simp] theorem outcomes_nil : outcomes number [] = [] := rfl

@[simp] theorem outcomes_append (first second : List Effect) :
    outcomes number (first ++ second) = outcomes number first ++ outcomes number second :=
  List.filterMap_append

@[simp] theorem outcomes_settled (settlement : Call.Settlement) (effects : List Effect) :
    outcomes number (.settled settlement :: effects) =
      if settlement.call = number then settlement.outcome :: outcomes number effects
      else outcomes number effects := by
  by_cases same : settlement.call = number <;> simp [outcomes, Effect.outcome?, same]

theorem outcomes_cons_of_none {effect : Effect} (silent : effect.outcome? number = none)
    (effects : List Effect) : outcomes number (effect :: effects) = outcomes number effects := by
  simp [outcomes, silent]

theorem settled_of_mem_outcomes {effects : List Effect} {outcome : Call.Outcome}
    (given : outcome ∈ outcomes number effects) : .settled ⟨number, outcome⟩ ∈ effects := by
  obtain ⟨effect, present, gives⟩ := List.mem_filterMap.mp given
  cases effect with
  | settled settlement =>
    obtain ⟨call, other⟩ := settlement
    obtain ⟨rfl, rfl⟩ : call = number ∧ other = outcome := by simpa [Effect.outcome?] using gives
    exact present
  | _ => cases gives

theorem outcomes_rejectAll (pending : Call.Pending) (error : Call.Error) :
    outcomes number ((pending.rejectAll error).map .settled) =
      List.replicate (pending.numbers.count number) (.error error.shared) := by
  obtain ⟨calls⟩ := pending
  induction calls with
  | nil => rfl
  | cons entry rest ih =>
    simp only [Call.Pending.rejectAll, Call.Pending.numbers, List.map_cons, outcomes_settled]
      at ih ⊢
    rw [ih]
    by_cases same : entry.2 = number <;> simp [same, List.replicate_succ]

theorem outcomes_shutdown :
    outcomes number dispatcher.shutdown.2 =
      List.replicate (dispatcher.pending.numbers.count number) (.error .clientClosed) := by
  have dropped : outcomes number (dispatcher.connection.live.toList.map .dropped) = [] := by
    cases dispatcher.connection.live <;> rfl
  have stopped : outcomes number [Effect.stopped] = [] := rfl
  simp only [shutdown, outcomes_append, outcomes_rejectAll, dropped, stopped, List.append_nil]
  rfl

theorem tally_shutdown :
    tally number dispatcher.shutdown = dispatcher.pending.numbers.count number := by
  have none_left : dispatcher.shutdown.1.pending = .empty := rfl
  simp [tally, outcomes_shutdown, none_left]

theorem tally_schedule (dispatcher : Dispatcher) (now : Nat) (decision : Restart.Decision) :
    tally number (dispatcher.schedule now decision) = dispatcher.pending.numbers.count number := by
  rcases schedule_cases dispatcher now decision with ⟨restartAt, moved⟩ | ⟨delay, -, -, stopped⟩
  · rw [moved]
    simp [tally, outcomes, Effect.outcome?]
  · rw [stopped]
    have silent : (Effect.decided decision).outcome? number = none := rfl
    rw [tally, outcomes_cons_of_none number silent]
    exact tally_shutdown number

theorem tally_call (call : Call.Number) (request : Request) (attempt : Except Link.Error Unit)
    (writable : Bool) :
    tally number (dispatcher.call now call request attempt writable) =
      dispatcher.pending.numbers.count number + if call = number then 1 else 0 := by
  rcases call_cases dispatcher now call request attempt writable with
    ⟨-, duplicate⟩ | ⟨-, generation, -, -, queued⟩ | ⟨-, generation, -, -, refused⟩ |
    ⟨-, -, -, opened⟩ | ⟨-, -, error, -, failed⟩
  · rw [duplicate]
    by_cases same : call = number <;> simp [tally, same]
  · rw [queued]
    by_cases same : call = number <;> simp [tally, outcomes, Effect.outcome?, same]
  · rw [refused]
    by_cases same : call = number <;> simp [tally, same]
  · rw [opened]
    by_cases same : call = number <;> simp [tally, outcomes, Effect.outcome?, same]
  · have scheduled := tally_schedule number
      { dispatcher with connection := dispatcher.connection.failed } now
      dispatcher.connection.failed.decision
    have silent : (Effect.attempted (dispatcher.connection.generation + 1) false).outcome?
        number = none := rfl
    simp only [tally] at scheduled ⊢
    rw [failed, outcomes_cons_of_none number silent, outcomes_settled, ← scheduled]
    by_cases same : call = number
    · simp only [same, ↓reduceIte, List.length_cons]
      omega
    · simp only [same, ↓reduceIte]
      omega

theorem tally_lose (generation : Link.Generation) (reason : String) :
    tally number (dispatcher.lose now generation reason) =
      dispatcher.pending.numbers.count number := by
  by_cases current : dispatcher.connection.live = some generation
  · rw [lose_current current]
    have scheduled := tally_schedule number dispatcher.bereft now dispatcher.connection.lost.decision
    have silent : (Effect.dropped generation).outcome? number = none := rfl
    have none_left : dispatcher.bereft.pending = .empty := rfl
    simp only [tally, none_left, Call.Pending.numbers_empty, List.count_nil] at scheduled ⊢
    rw [List.cons_append, outcomes_cons_of_none number silent, outcomes_append,
      outcomes_rejectAll, List.length_append, List.length_replicate]
    omega
  · rw [lose_stale current]
    simp [tally]

theorem tally_dispatch (distinct : dispatcher.pending.Distinct) (frame : Frame) :
    tally number (dispatcher.dispatch frame) = dispatcher.pending.numbers.count number := by
  rcases dispatch_cases dispatcher frame with
    ⟨skipped, -⟩ | ⟨message, -, -, delivered⟩ | ⟨reply, id, call, -, -, found, settled⟩
  · rw [skipped]
    simp [tally]
  · rw [delivered]
    simp [tally, outcomes, Effect.outcome?]
  · rw [settled, ← Call.Pending.count_erase distinct found number]
    by_cases same : call = number <;> simp [tally, same]

theorem tally_takeFrames (coherent : dispatcher.Coherent) (generation : Link.Generation)
    (items : List (Except Frame.Error Frame)) :
    tally number (dispatcher.takeFrames now generation items) =
      dispatcher.pending.numbers.count number := by
  induction items generalizing dispatcher with
  | nil => simp [takeFrames_nil, tally]
  | cons item rest ih =>
    cases item with
    | error fault =>
      rw [takeFrames_fault]
      exact tally_lose number generation _
    | ok frame =>
      have sound := coherent_healthy coherent generation
      have first := tally_dispatch number sound.distinct frame
      have later := ih (coherent_dispatch sound frame)
      rw [takeFrames_frame]
      simp only [tally, healthy_pending, outcomes_append, List.length_append] at first later ⊢
      omega

theorem tally_signal (coherent : dispatcher.Coherent) (generation : Link.Generation)
    (signal : Link.Signal) :
    tally number (dispatcher.signal now generation signal) =
      dispatcher.pending.numbers.count number := by
  rcases signal_cases dispatcher now generation signal with
    ⟨-, stale⟩ | ⟨live, chunk, -, taken⟩ | ⟨-, reason, lost⟩
  · rw [stale]
    simp [tally]
  · rw [taken]
    exact tally_takeFrames number (coherent_fed coherent live chunk) generation _
  · rw [lost]
    exact tally_lose number generation reason

theorem tally_restart (attempt : Except Link.Error Unit) :
    tally number (dispatcher.restart now attempt) = dispatcher.pending.numbers.count number := by
  rcases restart_cases dispatcher now attempt with
    ⟨-, early⟩ | ⟨-, -, found⟩ | ⟨-, -, -, opened⟩ | ⟨-, -, -, failed⟩
  · rw [early]
    simp [tally]
  · rw [found]
    simp [tally, fired]
  · rw [opened]
    simp [tally, fired, outcomes, Effect.outcome?]
  · have scheduled := tally_schedule number
      { dispatcher.fired with connection := dispatcher.connection.failed } now
      dispatcher.connection.failed.decision
    have silent : (Effect.attempted (dispatcher.connection.generation + 1) false).outcome?
        number = none := rfl
    simp only [tally] at scheduled ⊢
    rw [failed, outcomes_cons_of_none number silent, scheduled]
    rfl

/-- Whatever is handled, no call is lost and none is settled twice. -/
theorem tally_handle (coherent : dispatcher.Coherent) (stimulus : Stimulus) :
    tally number (dispatcher.handle now stimulus) =
      dispatcher.pending.numbers.count number +
        if stimulus.call? = some number then 1 else 0 := by
  cases stimulus with
  | call call request attempt writable =>
    simpa [handle, Stimulus.call?] using tally_call number call request attempt writable
  | signal generation signal =>
    simpa [handle, Stimulus.call?] using tally_signal number coherent generation signal
  | timer attempt => simpa [handle, Stimulus.call?] using tally_restart number attempt
  | stats => simp [handle, tally, outcomes, Effect.outcome?, Stimulus.call?]
  | shutdown => simpa [handle, Stimulus.call?] using tally_shutdown number

end EngineClient.Dispatcher
