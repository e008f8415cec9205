import EngineClient.Proofs.Dispatcher.Routing
import EngineClient.Proofs.Dispatcher.Timer
import EngineClient.Proofs.Restart.Policy

/-!
What the dispatcher does while no call has to be handled and no frame comes in: it loses its link, or the
restart timer makes it try to open one.
-/

namespace EngineClient.Dispatcher

/-- An attempt to open a link: when it was made, for which generation, and whether it succeeded. -/
structure Trial where
  time : Nat
  generation : Link.Generation
  opened : Bool
  deriving DecidableEq

def Effect.trial? (now : Nat) : Effect → Option Trial
  | .attempted generation opened => some ⟨now, generation, opened⟩
  | _ => none

def trials (now : Nat) (effects : List Effect) : List Trial := effects.filterMap (Effect.trial? now)

def Effect.isPlain : Effect → Bool
  | .attempted _ _ => false
  | .decided _ => false
  | .stopped => false
  | .queued _ _ _ => true
  | .settled _ => true
  | .delivered _ => true
  | .dropped _ => true
  | .reported _ => true

variable {dispatcher : Dispatcher} {now : Nat} {effects : List Effect}

def unreached (dispatcher : Dispatcher) : Dispatcher :=
  { dispatcher.fired with connection := dispatcher.connection.failed }

/-- What can become of a dispatcher that handles no call and hears no frame. -/
inductive Lull (before : Dispatcher) (now : Nat) : Stimulus → Dispatcher × List Effect → Prop where
  | idle (stimulus : Stimulus) (decoder : Frame.Decoder) {effects : List Effect}
      (plain : ∀ effect ∈ effects, effect.isPlain = true) :
      Lull before now stimulus ({ before with decoder }, effects)
  /-- The timer goes off and finds a live link. -/
  | found (attempt : Except Link.Error Unit) {generation : Link.Generation}
      (live : before.connection.live = some generation) :
      Lull before now (.timer attempt) (before.fired, [])
  | opened (due : before.isDue now = true) (down : before.connection.live = none) :
      Lull before now (.timer (.ok ()))
        ({ before.fired with connection := before.connection.opened },
          [.attempted (before.connection.generation + 1) true])
  | failed (due : before.isDue now = true) (down : before.connection.live = none)
      (error : Link.Error) {after : Dispatcher × List Effect}
      (scheduled : after = before.unreached.schedule now before.connection.failed.decision) :
      Lull before now (.timer (.error error))
        (after.1, .attempted (before.connection.generation + 1) false :: after.2)
  | lost {generation : Link.Generation} (signal : Link.Signal)
      (live : before.connection.live = some generation) {front : List Effect}
      (plain : ∀ effect ∈ front, effect.isPlain = true) {after : Dispatcher × List Effect}
      (scheduled : after = before.bereft.schedule now before.connection.lost.decision) :
      Lull before now (.signal generation signal) (after.1, front ++ after.2)
  | stopped : Lull before now .shutdown before.shutdown

theorem lull_lose {generation : Link.Generation} (signal : Link.Signal)
    (live : dispatcher.connection.live = some generation) (reason : String) :
    Lull dispatcher now (.signal generation signal) (dispatcher.lose now generation reason) := by
  rw [lose_current live]
  exact .lost signal live (by simp [Effect.isPlain]) rfl

theorem lull_signal {generation : Link.Generation} {signal : Link.Signal}
    (unheard : dispatcher.hearing (.signal generation signal) = []) :
    Lull dispatcher now (.signal generation signal) (dispatcher.signal now generation signal) := by
  rcases signal_cases dispatcher now generation signal with
    ⟨-, stale⟩ | ⟨live, chunk, rfl, taken⟩ | ⟨live, reason, lost⟩
  · rw [stale]
    exact .idle _ dispatcher.decoder (by simp)
  · rw [taken]
    rw [hearing_data live] at unheard
    have none_heard : Frame.Decoder.framesOf (dispatcher.decoder.step chunk).1 = [] := by
      rw [← frame_receipts (Frame.Decoder.framesOf _), unheard]
      rfl
    obtain ⟨frames, -, ⟨tail, -, -, stepped⟩ | ⟨tail, fault, -, -, stepped⟩⟩ :=
      Frame.Decoder.step_cases dispatcher.decoder chunk
    · rw [stepped, Frame.Decoder.framesOf_ok] at none_heard
      rw [stepped, none_heard]
      exact .idle _ ⟨tail⟩ (by simp)
    · -- No frame comes before the fault, so that it is met in the state before.
      rw [stepped, Frame.Decoder.framesOf_append, Frame.Decoder.framesOf_ok] at none_heard
      have up : ({ dispatcher with decoder := .empty } : Dispatcher).connection.live = some generation :=
        live
      rw [stepped, List.append_eq_nil_iff.mp none_heard |>.1, List.map_nil, List.nil_append,
        takeFrames_fault, lose_current up]
      exact .lost _ live (by simp [Effect.isPlain]) rfl
  · rw [lost]
    exact lull_lose signal live reason

theorem lull_handle {stimulus : Stimulus} (other : stimulus.call? = none)
    (unheard : dispatcher.hearing stimulus = []) :
    Lull dispatcher now stimulus (dispatcher.handle now stimulus) := by
  cases stimulus with
  | call number request attempt writable => cases other
  | signal generation signal => exact lull_signal unheard
  | timer attempt =>
    rw [handle]
    rcases restart_cases dispatcher now attempt with
      ⟨-, early⟩ | ⟨-, ⟨generation, live⟩, found⟩ | ⟨due, down, rfl, opened⟩ |
      ⟨due, down, ⟨error, rfl⟩, failed⟩
    · rw [early]
      exact .idle _ dispatcher.decoder (by simp)
    · rw [found]
      exact .found attempt live
    · rw [opened]
      exact .opened due down
    · rw [failed]
      exact .failed due down error rfl
  | stats => exact .idle _ dispatcher.decoder (by simp [Effect.isPlain])
  | shutdown => exact .stopped

theorem trials_append (first second : List Effect) :
    trials now (first ++ second) = trials now first ++ trials now second := List.filterMap_append

theorem trials_attempted (generation : Link.Generation) (opened : Bool) :
    trials now (.attempted generation opened :: effects) = ⟨now, generation, opened⟩ :: trials now effects :=
  rfl

theorem rulings_attempted (generation : Link.Generation) (opened : Bool) :
    rulings now (.attempted generation opened :: effects) = rulings now effects := rfl

theorem trials_plain (plain : ∀ effect ∈ effects, effect.isPlain = true) : trials now effects = [] := by
  refine List.filterMap_eq_nil_iff.mpr fun effect present => ?_
  have is := plain effect present
  cases effect with
  | attempted generation opened => cases is
  | _ => rfl

theorem rulings_plain (plain : ∀ effect ∈ effects, effect.isPlain = true) : rulings now effects = [] := by
  refine rulings_going fun effect present => ?_
  have is := plain effect present
  cases effect <;> first | rfl | cases is

theorem shutdown_plain (dispatcher : Dispatcher) :
    ∃ front, (∀ effect ∈ front, effect.isPlain = true) ∧ dispatcher.shutdown.2 = front ++ [.stopped] := by
  refine ⟨_, fun effect present => ?_, rfl⟩
  rcases List.mem_append.mp present with settled | dropped
  · obtain ⟨settlement, -, rfl⟩ := List.mem_map.mp settled
    rfl
  · obtain ⟨generation, -, rfl⟩ := List.mem_map.mp dropped
    rfl

theorem trials_shutdown : trials now dispatcher.shutdown.2 = [] := by
  obtain ⟨front, plain, shown⟩ := dispatcher.shutdown_plain
  rw [shown, trials_append, trials_plain plain]
  rfl

theorem rulings_shutdown : rulings now dispatcher.shutdown.2 = [] := by
  obtain ⟨front, plain, shown⟩ := dispatcher.shutdown_plain
  rw [shown, rulings_append, rulings_plain plain]
  rfl

theorem shown_schedule (dispatcher : Dispatcher) (now : Nat) (decision : Restart.Decision) :
    trials now (dispatcher.schedule now decision).2 = [] ∧
      rulings now (dispatcher.schedule now decision).2 = [⟨now, decision⟩] := by
  rcases schedule_cases dispatcher now decision with ⟨restartAt, moved⟩ | ⟨delay, -, -, stopped⟩
  · rw [moved]
    exact ⟨rfl, rfl⟩
  · rw [stopped]
    exact ⟨trials_shutdown, congrArg (List.cons _) rulings_shutdown⟩

theorem failures_schedule (dispatcher : Dispatcher) (now : Nat) (decision : Restart.Decision) :
    (dispatcher.schedule now decision).1.connection.failures = dispatcher.connection.failures := by
  rcases schedule_cases dispatcher now decision with ⟨restartAt, moved⟩ | ⟨delay, -, -, stopped⟩
  · rw [moved]
  · rw [stopped]
    rfl

theorem Lull.tallied {stimulus : Stimulus} {result : Dispatcher × List Effect}
    (lull : Lull dispatcher now stimulus result) :
    (rulings now result.2 = [] ∧
        result.1.connection.failures = dispatcher.connection.failures) ∨
      ∃ decision, rulings now result.2 = [⟨now, decision⟩] ∧
        result.1.connection.failures = dispatcher.connection.failures + 1 := by
  cases lull with
  | idle stimulus decoder plain => exact .inl ⟨rulings_plain plain, rfl⟩
  | found attempt live => exact .inl ⟨rfl, rfl⟩
  | opened due down => exact .inl ⟨rfl, rfl⟩
  | failed due down error scheduled =>
    subst scheduled
    exact .inr ⟨_, (shown_schedule _ now _).2, failures_schedule dispatcher.unreached now _⟩
  | lost signal live plain scheduled =>
    subst scheduled
    refine .inr ⟨dispatcher.connection.lost.decision, ?_,
      failures_schedule dispatcher.bereft now _⟩
    rw [rulings_append, rulings_plain plain, (shown_schedule _ now _).2]
    rfl
  | stopped => exact .inl ⟨rulings_shutdown, rfl⟩

theorem policy_schedule (dispatcher : Dispatcher) (now : Nat) (decision : Restart.Decision) :
    (dispatcher.schedule now decision).1.connection.policy = dispatcher.connection.policy := by
  rcases schedule_cases dispatcher now decision with ⟨restartAt, moved⟩ | ⟨delay, -, -, stopped⟩
  · rw [moved]
  · rw [stopped]
    rfl

theorem policy_lose (generation : Link.Generation) (reason : String) :
    (dispatcher.lose now generation reason).1.connection.policy = dispatcher.connection.policy := by
  by_cases live : dispatcher.connection.live = some generation
  · rw [lose_current live]
    exact policy_schedule dispatcher.bereft now _
  · rw [lose_stale live]

theorem policy_takeFrames (generation : Link.Generation) (items : List (Except Frame.Error Frame)) :
    (dispatcher.takeFrames now generation items).1.connection.policy =
      dispatcher.connection.policy := by
  induction items generalizing dispatcher with
  | nil => rfl
  | cons item items ih =>
    cases item with
    | error fault => exact policy_lose generation _
    | ok frame =>
      rw [takeFrames_frame, dispatch_fate]
      refine ih.trans ?_
      show (dispatcher.connection.markHealthy generation).policy = dispatcher.connection.policy
      rw [Connection.markHealthy]
      split <;> rfl

theorem policy_handle (dispatcher : Dispatcher) (now : Nat) (stimulus : Stimulus) :
    (dispatcher.handle now stimulus).1.connection.policy = dispatcher.connection.policy := by
  cases stimulus with
  | call number request attempt writable =>
    rw [handle]
    rcases call_cases dispatcher now number request attempt writable with
      ⟨-, duplicate⟩ | ⟨-, generation, -, -, queued⟩ | ⟨-, generation, -, -, refused⟩ |
      ⟨-, -, -, opened⟩ | ⟨-, -, error, -, failed⟩
    · rw [duplicate]
    · rw [queued]
    · rw [refused]
    · rw [opened]
      rfl
    · rw [failed]
      exact policy_schedule _ now _
  | signal generation signal =>
    rw [handle]
    rcases signal_cases dispatcher now generation signal with
      ⟨-, stale⟩ | ⟨-, chunk, -, taken⟩ | ⟨-, reason, lost⟩
    · rw [stale]
    · rw [taken]
      exact policy_takeFrames generation _
    · rw [lost]
      exact policy_lose generation reason
  | timer attempt =>
    rw [handle]
    rcases restart_cases dispatcher now attempt with
      ⟨-, early⟩ | ⟨-, -, found⟩ | ⟨-, -, -, opened⟩ | ⟨-, -, -, failed⟩
    · rw [early]
    · rw [found]
      rfl
    · rw [opened]
      rfl
    · rw [failed]
      exact policy_schedule dispatcher.unreached now _
  | stats => rfl
  | shutdown => rfl

theorem decision_limited {policy : Restart.Policy} {limit : UInt32}
    (limited : policy.giveUpAfter = some limit) (failures : UInt32) :
    (failures ≤ policy.threshold ∧ policy.decision failures = .suppressed) ∨
    (policy.threshold < failures ∧ limit < failures ∧ policy.decision failures = .gaveUp) ∨
    (policy.threshold < failures ∧ failures ≤ limit ∧
      policy.decision failures = .after (policy.delay (failures - policy.threshold - 1))) := by
  rcases policy.decision_cases failures with
    suppressed | ⟨beyond, ⟨found, given, many⟩, gaveUp⟩ | ⟨beyond, within, after⟩
  · exact .inl suppressed
  · cases limited.symm.trans given
    exact .inr (.inl ⟨beyond, many, gaveUp⟩)
  · exact .inr (.inr ⟨beyond, within limit limited, after⟩)

/-- Failures that may still lead to a restart. -/
def failuresLeft (policy : Restart.Policy) (limit : UInt32) (failures : Nat) : Nat :=
  limit.toNat - max policy.threshold.toNat failures

/-- The attempts that may still be made before a call comes or a frame: one if the timer is set, and one
for each failure that may lead to a restart. -/
def allowance (dispatcher : Dispatcher) (limit : UInt32) : Nat :=
  dispatcher.restartAt.toList.length +
    failuresLeft dispatcher.connection.policy limit dispatcher.connection.failures.toNat

theorem allowance_schedule (now : Nat) {limit : UInt32}
    (limited : dispatcher.connection.policy.giveUpAfter = some limit) {failures : Nat}
    (counted : dispatcher.connection.failures.toNat = failures + 1) :
    (dispatcher.schedule now dispatcher.connection.decision).1.allowance limit ≤
      dispatcher.restartAt.toList.length +
        failuresLeft dispatcher.connection.policy limit failures := by
  rw [allowance, failures_schedule, policy_schedule, counted, Connection.decision]
  have fewer : failuresLeft dispatcher.connection.policy limit (failures + 1) ≤
      failuresLeft dispatcher.connection.policy limit failures := by
    simp only [failuresLeft]
    omega
  rcases decision_limited limited dispatcher.connection.failures with
    ⟨-, suppressed⟩ | ⟨-, -, gaveUp⟩ | ⟨beyond, within, after⟩
  · rw [suppressed]
    exact Nat.add_le_add_left fewer _
  · rw [gaveUp]
    exact Nat.add_le_add_left fewer _
  · rw [UInt32.lt_iff_toNat_lt] at beyond
    rw [UInt32.le_iff_toNat_le] at within
    have paid : 1 + failuresLeft dispatcher.connection.policy limit (failures + 1) ≤
        failuresLeft dispatcher.connection.policy limit failures := by
      simp only [failuresLeft]
      omega
    have once (timer : Option Nat) : timer.toList.length ≤ 1 := by cases timer <;> simp
    exact (Nat.add_le_add_right (once _) _).trans (paid.trans (Nat.le_add_left _ _))

theorem toNat_succ {count : UInt32} (room : count.toNat + 1 < UInt32.size) :
    (count + 1).toNat = count.toNat + 1 := by
  rw [UInt32.toNat_add]
  exact Nat.mod_eq_of_lt room

theorem allowance_due (due : dispatcher.isDue now = true) (limit : UInt32) :
    dispatcher.allowance limit = 1 +
      failuresLeft dispatcher.connection.policy limit dispatcher.connection.failures.toNat := by
  rw [isDue, Option.any_eq_true] at due
  obtain ⟨deadline, set, -⟩ := due
  rw [allowance, set]
  rfl

theorem allowance_off (off : dispatcher.restartAt = none) (limit : UInt32) :
    dispatcher.allowance limit =
      failuresLeft dispatcher.connection.policy limit dispatcher.connection.failures.toNat := by
  rw [allowance, off]
  exact Nat.zero_add _

/-- In a lull, attempts that are made are no longer left. -/
theorem Lull.spends {stimulus : Stimulus} {result : Dispatcher × List Effect}
    (lull : Lull dispatcher now stimulus result) {limit : UInt32}
    (limited : dispatcher.connection.policy.giveUpAfter = some limit)
    (room : dispatcher.connection.failures.toNat + (rulings now result.2).length < UInt32.size) :
    (trials now result.2).length + result.1.allowance limit ≤ dispatcher.allowance limit := by
  cases lull with
  | idle stimulus decoder plain =>
    rw [trials_plain plain]
    exact Nat.le_of_eq (Nat.zero_add _)
  | found attempt live =>
    rw [allowance_off (show dispatcher.fired.restartAt = none from rfl)]
    exact Nat.add_le_add_right (Nat.zero_le _) _
  | opened due down =>
    rw [allowance_due due]
    exact Nat.add_le_add_left (Nat.le_of_eq (allowance_off rfl limit)) 1
  | failed due down error scheduled =>
    -- The timer that went off pays for the attempt, and a failure that was left pays for the next timer.
    subst scheduled
    obtain ⟨untried, ruled⟩ :=
      shown_schedule dispatcher.unreached now dispatcher.connection.failed.decision
    rw [rulings_attempted, ruled] at room
    have same : dispatcher.unreached.connection.policy.giveUpAfter = some limit := limited
    have counted : dispatcher.unreached.connection.failures.toNat =
        dispatcher.connection.failures.toNat + 1 := toNat_succ room
    have spent := allowance_schedule now same counted
    rw [trials_attempted, untried, allowance_due due]
    exact Nat.add_le_add_left (spent.trans_eq (Nat.zero_add _)) 1
  | lost signal live plain scheduled =>
    subst scheduled
    obtain ⟨untried, ruled⟩ :=
      shown_schedule dispatcher.bereft now dispatcher.connection.lost.decision
    rw [rulings_append, rulings_plain plain, ruled] at room
    have same : dispatcher.bereft.connection.policy.giveUpAfter = some limit := limited
    have counted : dispatcher.bereft.connection.failures.toNat =
        dispatcher.connection.failures.toNat + 1 := toNat_succ room
    rw [trials_append, trials_plain plain, untried]
    exact (Nat.zero_add _).trans_le (allowance_schedule now same counted)
  | stopped =>
    rw [trials_shutdown, allowance_off (show dispatcher.shutdown.1.restartAt = none from rfl)]
    exact Nat.add_le_add_right (Nat.zero_le _) _

end EngineClient.Dispatcher
