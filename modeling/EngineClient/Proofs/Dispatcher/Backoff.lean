import EngineClient.Proofs.Dispatcher.Lulls

/-!
The restarts of a link that cannot be opened, from the first failure beyond the threshold on: the next one
is due its delay after the last failure, until the limit is reached or the clock cannot reach it.
-/

namespace EngineClient.Dispatcher

def Stimulus.asks : Stimulus → Bool
  | .call _ _ _ _ => true
  | .shutdown => true
  | _ => false

theorem Stimulus.call?_of_unasked {stimulus : Stimulus} (unasked : stimulus.asks = false) :
    stimulus.call? = none := by
  cases stimulus with
  | call number request attempt writable => cases unasked
  | _ => rfl

/-- The time from a failure to the restart with this number, in nanoseconds. -/
def pause (policy : Restart.Policy) (tries : Nat) : Nat := (policy.delay (.ofNat tries)).nanos

/-- Restarts that a policy with this limit grants. -/
def granted (policy : Restart.Policy) (limit : UInt32) : Nat := limit.toNat - policy.threshold.toNat

/-- What is left of the restarts after `tries` of them, the last failure being at `since`: whether the
dispatcher still runs, and when the next one is due. -/
inductive Stage (policy : Restart.Policy) (limit : UInt32) (tries since : Nat) :
    Bool → Option Nat → Prop where
  | due (left : tries < granted policy limit) (within : since + pause policy tries < clockEnd) :
      Stage policy limit tries since true (some (since + pause policy tries))
  | spent (all : tries = granted policy limit) : Stage policy limit tries since true none
  /-- The next restart lies beyond the end of the clock. -/
  | cut (left : tries < granted policy limit) (beyond : clockEnd ≤ since + pause policy tries) :
      Stage policy limit tries since false none

theorem Stage.bounded {policy : Restart.Policy} {limit : UInt32} {tries since : Nat} {running : Bool}
    {restartAt : Option Nat} (stage : Stage policy limit tries since running restartAt) :
    tries ≤ granted policy limit := by
  cases stage with
  | due left within => exact Nat.le_of_lt left
  | spent all => exact Nat.le_of_eq all
  | cut left beyond => exact Nat.le_of_lt left

/-- A dispatcher that cannot open a link, `tries` restarts after the first failure beyond the threshold. -/
structure Retrying (dispatcher : Dispatcher) (policy : Restart.Policy) (limit : UInt32) (tries since : Nat)
    (running : Bool) : Prop where
  governed : dispatcher.connection.policy = policy
  down : dispatcher.connection.live = none
  failures : dispatcher.connection.failures.toNat = policy.threshold.toNat + 1 + tries
  stage : Stage policy limit tries since running dispatcher.restartAt

variable {dispatcher : Dispatcher} {now : Nat} {policy : Restart.Policy} {limit : UInt32} {tries since : Nat}

theorem attempt_of_failures {failures : UInt32}
    (counted : failures.toNat = policy.threshold.toNat + 1 + tries) :
    failures - policy.threshold - 1 = .ofNat tries := by
  have beyond : policy.threshold < failures := UInt32.lt_iff_toNat_lt.mpr (by omega)
  obtain ⟨excess, -, -, attempt⟩ := Restart.Policy.minus_beyond beyond
  have same : (failures - policy.threshold - 1).toNat = tries := by omega
  rw [← same, UInt32.ofNat_toNat]

theorem retrying_schedule (dispatcher : Dispatcher) (now : Nat) (limited : policy.giveUpAfter = some limit)
    (governed : dispatcher.connection.policy = policy) (down : dispatcher.connection.live = none)
    (off : dispatcher.restartAt = none)
    (counted : dispatcher.connection.failures.toNat = policy.threshold.toNat + 1 + tries)
    (bounded : tries ≤ granted policy limit) :
    ∃ running,
      Retrying (dispatcher.schedule now dispatcher.connection.decision).1 policy limit tries now running ∧
      (.stopped ∈ (dispatcher.schedule now dispatcher.connection.decision).2 ↔ running = false) := by
  have decided := decision_limited limited dispatcher.connection.failures
  rw [Connection.decision, governed]
  rcases decided with ⟨tolerated, -⟩ | ⟨-, many, gaveUp⟩ | ⟨-, within, after⟩
  · rw [UInt32.le_iff_toNat_le] at tolerated
    omega
  · rw [UInt32.lt_iff_toNat_lt] at many
    have all : tries = granted policy limit := by
      rw [granted] at bounded ⊢
      omega
    rw [gaveUp]
    refine ⟨true, ⟨governed, down, counted, ?_⟩, by simp [schedule]⟩
    show Stage policy limit tries now true dispatcher.restartAt
    rw [off]
    exact .spent all
  · rw [UInt32.le_iff_toNat_le] at within
    have left : tries < granted policy limit := by
      rw [granted]
      omega
    rw [after, attempt_of_failures counted]
    by_cases early : now + pause policy tries < clockEnd
    · have scheduled : dispatcher.schedule now (.after (policy.delay (.ofNat tries))) =
          ({ dispatcher with restartAt := some (now + pause policy tries) },
            [.decided (.after (policy.delay (.ofNat tries)))]) := if_pos early
      rw [scheduled]
      exact ⟨true, ⟨governed, down, counted, .due left early⟩, by simp⟩
    · have beyond : clockEnd ≤ now + pause policy tries := Nat.le_of_not_lt early
      rw [schedule_overrun beyond]
      exact ⟨false, ⟨governed, rfl, counted, .cut left beyond⟩,
        iff_of_true (List.mem_cons_of_mem _ shutdown_stops) rfl⟩

theorem retrying_call (coherent : dispatcher.Coherent) (now : Nat) (limited : policy.giveUpAfter = some limit)
    (room : policy.threshold.toNat + 1 < UInt32.size) (governed : dispatcher.connection.policy = policy)
    (down : dispatcher.connection.live = none) (off : dispatcher.restartAt = none)
    (tolerated : dispatcher.connection.failures = policy.threshold) (number : Call.Number)
    (request : Request) (error : Link.Error) (writable : Bool) :
    let result := dispatcher.handle now (.call number request (.error error) writable)
    trials now result.2 = [⟨now, dispatcher.connection.generation + 1, false⟩] ∧
      ∃ running, Retrying result.1 policy limit 0 now running ∧
        (.stopped ∈ result.2 ↔ running = false) := by
  intro result
  let failed : Dispatcher := { dispatcher with connection := dispatcher.connection.failed }
  have free : dispatcher.pending.contains (request.id.getD "") = false := by
    rw [coherent.none_waits down]
    rfl
  have shown : result = ((failed.schedule now failed.connection.decision).1,
      .attempted (dispatcher.connection.generation + 1) false ::
        .settled ⟨number, .error (.ofLink error)⟩ ::
        (failed.schedule now failed.connection.decision).2) := call_failed free down error
  have counted : failed.connection.failures.toNat = policy.threshold.toNat + 1 + 0 := by
    rw [← tolerated] at room ⊢
    exact toNat_succ room
  obtain ⟨running, first, stops⟩ :=
    retrying_schedule failed now limited governed down off counted (Nat.zero_le _)
  rw [shown]
  refine ⟨congrArg (List.cons _) (shown_schedule failed now _).1, running, first, ?_⟩
  rw [← stops]
  simp

/-- What becomes of a dispatcher that cannot open a link: nothing, or the restart that is due fails. -/
theorem Retrying.step (retrying : Retrying dispatcher policy limit tries since true)
    (limited : policy.giveUpAfter = some limit)
    (room : max policy.threshold.toNat limit.toNat + 1 < UInt32.size) {stimulus : Stimulus}
    {result : Dispatcher × List Effect} (lull : Lull dispatcher now stimulus result)
    (unasked : stimulus.asks = false) (failing : ∀ trial ∈ trials now result.2, trial.opened = false) :
    (trials now result.2 = [] ∧ .stopped ∉ result.2 ∧ result.1.restartAt = dispatcher.restartAt ∧
      Retrying result.1 policy limit tries since true) ∨
    (trials now result.2 = [⟨now, dispatcher.connection.generation + 1, false⟩] ∧
      dispatcher.restartAt = some (since + pause policy tries) ∧ since + pause policy tries ≤ now ∧
      ∃ running, Retrying result.1 policy limit (tries + 1) now running ∧
        (.stopped ∈ result.2 ↔ running = false)) := by
  cases lull with
  | idle stimulus decoder plain =>
    refine .inl ⟨trials_plain plain, fun stopped => ?_, rfl, ?_⟩
    · cases plain _ stopped
    · exact ⟨retrying.governed, retrying.down, retrying.failures, retrying.stage⟩
  | found attempt live => cases retrying.down.symm.trans live
  | opened due down => cases failing _ List.mem_cons_self
  | failed due down error scheduled =>
    subst scheduled
    rw [isDue, Option.any_eq_true] at due
    obtain ⟨deadline, set, passed⟩ := due
    have stage := retrying.stage
    rw [set] at stage
    cases stage with
    | due left within =>
      have space : dispatcher.connection.failures.toNat + 1 < UInt32.size := by
        rw [retrying.failures]
        rw [granted] at left
        omega
      have counted : dispatcher.unreached.connection.failures.toNat =
          policy.threshold.toNat + 1 + (tries + 1) := by
        rw [← Nat.add_assoc, ← retrying.failures]
        exact toNat_succ space
      obtain ⟨running, next, stops⟩ :=
        retrying_schedule dispatcher.unreached now limited retrying.governed down rfl counted left
      refine .inr ⟨congrArg (List.cons _) (shown_schedule dispatcher.unreached now _).1, set,
        of_decide_eq_true passed, running, next, ?_⟩
      rw [← stops]
      exact List.mem_cons.trans (or_iff_right (by simp))
  | lost signal live plain scheduled => cases retrying.down.symm.trans live
  | stopped => cases unasked

end EngineClient.Dispatcher
