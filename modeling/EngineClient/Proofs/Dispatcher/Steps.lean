import EngineClient.Dispatcher
import EngineClient.Proofs.Call.Pending

/-!
What each operation of the dispatcher does, branch by branch. Later modules use these equations and do
not open the operations again.
-/

namespace EngineClient

namespace Connection

def opened (connection : Connection) : Connection :=
  { connection with
    generation := connection.generation + 1
    live := some (connection.generation + 1) }

def failed (connection : Connection) : Connection :=
  { connection with
    generation := connection.generation + 1
    failures := connection.failures + 1 }

def lost (connection : Connection) : Connection :=
  { connection with live := none, failures := connection.failures + 1 }

variable {connection : Connection} {generation : Link.Generation}

theorem lose_stale (stale : connection.live ≠ some generation) :
    connection.lose generation = none := by
  simp [lose, isCurrent, stale]

theorem lose_current (current : connection.live = some generation) :
    connection.lose generation = some (connection.lost.decision, connection.lost) := by
  simp [lose, isCurrent, current, lost]

@[simp] theorem markHealthy_live : (connection.markHealthy generation).live = connection.live := by
  unfold markHealthy
  split <;> rfl

@[simp] theorem markHealthy_generation :
    (connection.markHealthy generation).generation = connection.generation := by
  unfold markHealthy
  split <;> rfl

end Connection

namespace Dispatcher

variable {dispatcher : Dispatcher} {now : Nat} {generation : Link.Generation}

/-- A decision moves at most the timer, or its restart lies beyond the end of the clock and all
stops. -/
theorem schedule_cases (dispatcher : Dispatcher) (now : Nat) (decision : Restart.Decision) :
    (∃ restartAt,
      dispatcher.schedule now decision = ({ dispatcher with restartAt }, [.decided decision])) ∨
    (∃ delay, decision = .after delay ∧ clockEnd ≤ now + delay.nanos ∧
      dispatcher.schedule now decision =
        (dispatcher.shutdown.1, .decided decision :: dispatcher.shutdown.2)) := by
  cases decision with
  | suppressed => exact .inl ⟨dispatcher.restartAt, rfl⟩
  | gaveUp => exact .inl ⟨dispatcher.restartAt, rfl⟩
  | after delay =>
    by_cases within : now + delay.nanos < clockEnd
    · exact .inl ⟨some (now + delay.nanos), by simp [schedule, within]⟩
    · exact .inr ⟨delay, rfl, Nat.le_of_not_lt within, by simp [schedule, within]⟩

theorem schedule_overrun {delay : Duration} (late : clockEnd ≤ now + delay.nanos) :
    dispatcher.schedule now (.after delay) =
      (dispatcher.shutdown.1, .decided (.after delay) :: dispatcher.shutdown.2) := by
  simp [schedule, Nat.not_lt.mpr late]

section Calls

variable {number : Call.Number} {request : Request} {attempt : Except Link.Error Unit}
  {writable : Bool}

theorem call_duplicate (taken : dispatcher.pending.contains (request.id.getD "") = true) :
    dispatcher.call now number request attempt writable =
      (dispatcher, [.settled ⟨number, .error (.duplicateId (request.id.getD ""))⟩]) := by
  simp [call, Call.Pending.register_taken taken]

variable (free : dispatcher.pending.contains (request.id.getD "") = false)
include free

theorem call_queued (live : dispatcher.connection.live = some generation) :
    dispatcher.call now number request attempt true =
      ({ dispatcher with pending := dispatcher.pending.adding (request.id.getD "") number },
        [.queued generation number request.frame.encode]) := by
  simp [call, Call.Pending.register_free free, ensureLive, Connection.ensureLive, live,
    Connection.isLive]

theorem call_refused (live : dispatcher.connection.live = some generation) :
    dispatcher.call now number request attempt false =
      (dispatcher, [.settled ⟨number, .error (.linkLost Link.Error.closed.message)⟩]) := by
  simp [call, Call.Pending.register_free free, ensureLive, Connection.ensureLive, live,
    Connection.isLive, rejectCall, Call.Pending.reject_adding free]

theorem call_opened (down : dispatcher.connection.live = none) :
    dispatcher.call now number request (.ok ()) writable =
      ({ dispatcher with
          connection := dispatcher.connection.opened
          pending := dispatcher.pending.adding (request.id.getD "") number },
        [.attempted (dispatcher.connection.generation + 1) true,
          .queued (dispatcher.connection.generation + 1) number request.frame.encode]) := by
  simp [call, Call.Pending.register_free free, ensureLive, Connection.ensureLive, down,
    Connection.isLive, Connection.opened]

theorem call_failed (down : dispatcher.connection.live = none) (error : Link.Error) :
    dispatcher.call now number request (.error error) writable =
      let failed := { dispatcher with connection := dispatcher.connection.failed }
      let scheduled := failed.schedule now dispatcher.connection.failed.decision
      (scheduled.1, .attempted (dispatcher.connection.generation + 1) false ::
        .settled ⟨number, .error (.ofLink error)⟩ :: scheduled.2) := by
  simp [call, Call.Pending.register_free free, ensureLive, Connection.ensureLive, down,
    rejectCall, Call.Pending.reject_adding free, Connection.failed]

end Calls

/-- A call is refused as a duplicate, queued on the live link, refused by it, queued on a link that is
opened for it, or fails with the attempt to open one. -/
theorem call_cases (dispatcher : Dispatcher) (now : Nat) (number : Call.Number)
    (request : Request) (attempt : Except Link.Error Unit) (writable : Bool) :
    (dispatcher.pending.contains (request.id.getD "") = true ∧
      dispatcher.call now number request attempt writable =
        (dispatcher, [.settled ⟨number, .error (.duplicateId (request.id.getD ""))⟩])) ∨
    (dispatcher.pending.contains (request.id.getD "") = false ∧ ∃ generation,
      dispatcher.connection.live = some generation ∧ writable = true ∧
      dispatcher.call now number request attempt writable =
        ({ dispatcher with pending := dispatcher.pending.adding (request.id.getD "") number },
          [.queued generation number request.frame.encode])) ∨
    (dispatcher.pending.contains (request.id.getD "") = false ∧ ∃ generation,
      dispatcher.connection.live = some generation ∧ writable = false ∧
      dispatcher.call now number request attempt writable =
        (dispatcher, [.settled ⟨number, .error (.linkLost Link.Error.closed.message)⟩])) ∨
    (dispatcher.pending.contains (request.id.getD "") = false ∧
      dispatcher.connection.live = none ∧ attempt = .ok () ∧
      dispatcher.call now number request attempt writable =
        ({ dispatcher with
            connection := dispatcher.connection.opened
            pending := dispatcher.pending.adding (request.id.getD "") number },
          [.attempted (dispatcher.connection.generation + 1) true,
            .queued (dispatcher.connection.generation + 1) number request.frame.encode])) ∨
    (dispatcher.pending.contains (request.id.getD "") = false ∧
      dispatcher.connection.live = none ∧ ∃ error, attempt = .error error ∧
      dispatcher.call now number request attempt writable =
        let failed := { dispatcher with connection := dispatcher.connection.failed }
        let scheduled := failed.schedule now dispatcher.connection.failed.decision
        (scheduled.1, .attempted (dispatcher.connection.generation + 1) false ::
          .settled ⟨number, .error (.ofLink error)⟩ :: scheduled.2)) := by
  cases taken : dispatcher.pending.contains (request.id.getD "") with
  | true => exact .inl ⟨rfl, call_duplicate taken⟩
  | false =>
    cases live : dispatcher.connection.live with
    | some generation =>
      cases writable with
      | true => exact .inr (.inl ⟨rfl, generation, rfl, rfl, call_queued taken live⟩)
      | false => exact .inr (.inr (.inl ⟨rfl, generation, rfl, rfl, call_refused taken live⟩))
    | none =>
      cases attempt with
      | ok opened => exact .inr (.inr (.inr (.inl ⟨rfl, rfl, rfl, call_opened taken live⟩)))
      | error error =>
        exact .inr (.inr (.inr (.inr ⟨rfl, rfl, error, rfl, call_failed taken live error⟩)))

theorem lose_stale {reason : String} (stale : dispatcher.connection.live ≠ some generation) :
    dispatcher.lose now generation reason = (dispatcher, []) := by
  simp [lose, Connection.lose_stale stale]

/-- What is left after a loss, before the policy is asked. -/
def bereft (dispatcher : Dispatcher) : Dispatcher :=
  ⟨dispatcher.connection.lost, .empty, .empty, dispatcher.restartAt⟩

theorem lose_current {reason : String} (current : dispatcher.connection.live = some generation) :
    dispatcher.lose now generation reason =
      let scheduled := dispatcher.bereft.schedule now dispatcher.connection.lost.decision
      (scheduled.1, .dropped generation ::
        (dispatcher.pending.rejectAll (.linkLost reason)).map .settled ++ scheduled.2) := by
  simp [lose, Connection.lose_current current, bereft]

/-- A frame is skipped, delivered, or claimed by the call that waits for it. -/
theorem dispatch_cases (dispatcher : Dispatcher) (frame : Frame) :
    (dispatcher.dispatch frame = (dispatcher, []) ∧ ∃ error, frame.inbound = .error error) ∨
    (∃ message, frame.inbound = .ok message ∧
      (∀ reply, message = .response reply → dispatcher.pending.resolve reply = none) ∧
      dispatcher.dispatch frame = (dispatcher, [.delivered message])) ∨
    (∃ reply id number, frame.inbound = .ok (.response reply) ∧ reply.id = some id ∧
      dispatcher.pending.find? id = some number ∧
      dispatcher.dispatch frame =
        ({ dispatcher with pending := dispatcher.pending.erase id },
          [.settled ⟨number, Call.outcomeOf reply⟩])) := by
  cases said : frame.inbound with
  | error error => exact .inl ⟨by simp [dispatch, said], error, rfl⟩
  | ok message =>
    cases message with
    | event push =>
      refine .inr (.inl ⟨.event push, rfl, ?_, by simp [dispatch, said]⟩)
      intro reply impossible
      cases impossible
    | response reply =>
      cases claimed : dispatcher.pending.resolve reply with
      | none =>
        refine .inr (.inl ⟨.response reply, rfl, ?_, by simp [dispatch, said, claimed]⟩)
        intro other same
        cases same
        exact claimed
      | some settled =>
        obtain ⟨settlement, after⟩ := settled
        obtain ⟨id, number, answered, found, rfl, rfl⟩ :=
          Call.Pending.resolve_eq_some_iff.mp claimed
        exact .inr (.inr ⟨reply, id, number, rfl, answered, found,
          by simp [dispatch, said, claimed]⟩)

def healthy (dispatcher : Dispatcher) (generation : Link.Generation) : Dispatcher :=
  { dispatcher with connection := dispatcher.connection.markHealthy generation }

@[simp] theorem healthy_pending :
    (dispatcher.healthy generation).pending = dispatcher.pending := rfl

@[simp] theorem healthy_decoder :
    (dispatcher.healthy generation).decoder = dispatcher.decoder := rfl

@[simp] theorem healthy_live :
    (dispatcher.healthy generation).connection.live = dispatcher.connection.live :=
  Connection.markHealthy_live

@[simp] theorem healthy_generation :
    (dispatcher.healthy generation).connection.generation = dispatcher.connection.generation :=
  Connection.markHealthy_generation

theorem takeFrames_nil : dispatcher.takeFrames now generation [] = (dispatcher, []) := rfl

theorem takeFrames_fault {fault : Frame.Error} {rest : List (Except Frame.Error Frame)} :
    dispatcher.takeFrames now generation (.error fault :: rest) =
      dispatcher.lose now generation ("protocol error: " ++ fault.message) := rfl

theorem takeFrames_frame {frame : Frame} {rest : List (Except Frame.Error Frame)} :
    dispatcher.takeFrames now generation (.ok frame :: rest) =
      let dispatched := (dispatcher.healthy generation).dispatch frame
      let after := dispatched.1.takeFrames now generation rest
      (after.1, dispatched.2 ++ after.2) := rfl

theorem signal_stale {signal : Link.Signal}
    (stale : dispatcher.connection.live ≠ some generation) :
    dispatcher.signal now generation signal = (dispatcher, []) := by
  simp [Dispatcher.signal, Connection.isCurrent, stale]

theorem signal_data {chunk : Bytes} (current : dispatcher.connection.live = some generation) :
    dispatcher.signal now generation (.data chunk) =
      { dispatcher with decoder := (dispatcher.decoder.step chunk).2 }.takeFrames now generation
        (dispatcher.decoder.step chunk).1 := by
  simp [Dispatcher.signal, Connection.isCurrent, current, takeData]

theorem signal_closed {reason : Link.CloseReason}
    (current : dispatcher.connection.live = some generation) :
    dispatcher.signal now generation (.closed reason) =
      dispatcher.lose now generation reason.text := by
  simp [Dispatcher.signal, Connection.isCurrent, current]

theorem signal_failed {detail : String} (current : dispatcher.connection.live = some generation) :
    dispatcher.signal now generation (.failed detail) = dispatcher.lose now generation detail := by
  simp [Dispatcher.signal, Connection.isCurrent, current]

/-- A signal is stale, or brings data, or ends the live link for some reason. -/
theorem signal_cases (dispatcher : Dispatcher) (now : Nat) (generation : Link.Generation)
    (signal : Link.Signal) :
    (dispatcher.connection.live ≠ some generation ∧
      dispatcher.signal now generation signal = (dispatcher, [])) ∨
    (dispatcher.connection.live = some generation ∧ ∃ chunk, signal = .data chunk ∧
      dispatcher.signal now generation signal =
        { dispatcher with decoder := (dispatcher.decoder.step chunk).2 }.takeFrames now generation
          (dispatcher.decoder.step chunk).1) ∨
    (dispatcher.connection.live = some generation ∧ ∃ reason,
      dispatcher.signal now generation signal = dispatcher.lose now generation reason) := by
  by_cases current : dispatcher.connection.live = some generation
  · cases signal with
    | data chunk => exact .inr (.inl ⟨current, chunk, rfl, signal_data current⟩)
    | closed reason => exact .inr (.inr ⟨current, reason.text, signal_closed current⟩)
    | failed detail => exact .inr (.inr ⟨current, detail, signal_failed current⟩)
  · exact .inl ⟨current, signal_stale current⟩

def fired (dispatcher : Dispatcher) : Dispatcher := { dispatcher with restartAt := none }

theorem restart_early {attempt : Except Link.Error Unit} (early : dispatcher.isDue now = false) :
    dispatcher.restart now attempt = (dispatcher, []) := by
  simp [restart, early]

theorem restart_live {attempt : Except Link.Error Unit} (due : dispatcher.isDue now = true)
    (live : dispatcher.connection.live = some generation) :
    dispatcher.restart now attempt = (dispatcher.fired, []) := by
  simp [restart, due, Connection.isLive, live, fired]

theorem restart_opened (due : dispatcher.isDue now = true)
    (down : dispatcher.connection.live = none) :
    dispatcher.restart now (.ok ()) =
      ({ dispatcher.fired with connection := dispatcher.connection.opened },
        [.attempted (dispatcher.connection.generation + 1) true]) := by
  simp [restart, due, Connection.isLive, down, ensureLive, Connection.ensureLive,
    Connection.opened, fired]

theorem restart_failed (due : dispatcher.isDue now = true)
    (down : dispatcher.connection.live = none) (error : Link.Error) :
    dispatcher.restart now (.error error) =
      let failed := { dispatcher.fired with connection := dispatcher.connection.failed }
      let scheduled := failed.schedule now dispatcher.connection.failed.decision
      (scheduled.1, .attempted (dispatcher.connection.generation + 1) false :: scheduled.2) := by
  simp [restart, due, Connection.isLive, down, ensureLive, Connection.ensureLive,
    Connection.failed, fired]

/-- The timer is not due, finds a live link, opens one, or fails to. -/
theorem restart_cases (dispatcher : Dispatcher) (now : Nat) (attempt : Except Link.Error Unit) :
    (dispatcher.isDue now = false ∧ dispatcher.restart now attempt = (dispatcher, [])) ∨
    (dispatcher.isDue now = true ∧ (∃ generation, dispatcher.connection.live = some generation) ∧
      dispatcher.restart now attempt = (dispatcher.fired, [])) ∨
    (dispatcher.isDue now = true ∧ dispatcher.connection.live = none ∧ attempt = .ok () ∧
      dispatcher.restart now attempt =
        ({ dispatcher.fired with connection := dispatcher.connection.opened },
          [.attempted (dispatcher.connection.generation + 1) true])) ∨
    (dispatcher.isDue now = true ∧ dispatcher.connection.live = none ∧
      (∃ error, attempt = .error error) ∧ dispatcher.restart now attempt =
        let failed := { dispatcher.fired with connection := dispatcher.connection.failed }
        let scheduled := failed.schedule now dispatcher.connection.failed.decision
        (scheduled.1, .attempted (dispatcher.connection.generation + 1) false :: scheduled.2)) := by
  cases due : dispatcher.isDue now with
  | false => exact .inl ⟨rfl, restart_early due⟩
  | true =>
    cases live : dispatcher.connection.live with
    | some generation => exact .inr (.inl ⟨rfl, ⟨generation, rfl⟩, restart_live due live⟩)
    | none =>
      cases attempt with
      | ok opened => exact .inr (.inr (.inl ⟨rfl, rfl, rfl, restart_opened due live⟩))
      | error error =>
        exact .inr (.inr (.inr ⟨rfl, rfl, ⟨error, rfl⟩, restart_failed due live error⟩))

end Dispatcher

end EngineClient
