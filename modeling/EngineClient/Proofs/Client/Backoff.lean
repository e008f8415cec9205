import EngineClient.Proofs.Client.Lulls
import EngineClient.Proofs.Client.Provenance
import EngineClient.Proofs.Dispatcher.Backoff

/-!
A call whose link cannot be opened starts the restarts that the policy grants. Each of them comes its delay
after the failure before it; behind the last there is none any more. Only a restart that the clock cannot
reach ends them early, and the client with them.
-/

namespace EngineClient.Client

open Dispatcher (Stimulus Trial Stage pause granted)

variable {client : Client} {outputs : List Output} {policy : Restart.Policy} {limit : UInt32}
  {tries since : Nat}

/-- A client that cannot open a link, `tries` restarts after the first failure beyond the threshold. -/
def Retrying (client : Client) (policy : Restart.Policy) (limit : UInt32) (tries since : Nat) : Prop :=
  client.dispatcher.Retrying policy limit tries since client.running

/-- Attempts that come no earlier than their pauses after the failures before them. -/
def Paced (policy : Restart.Policy) (tries since : Nat) : List Nat → Prop
  | [] => True
  | time :: times => since + pause policy tries ≤ time ∧ Paced policy (tries + 1) time times

/-- The times of so many attempts, each its pause after the failure before it. -/
def dueTimes (policy : Restart.Policy) (tries since : Nat) : Nat → List Nat
  | 0 => []
  | count + 1 =>
    (since + pause policy tries) ::
      dueTimes policy (tries + 1) (since + pause policy tries) count

/-- Nobody lets the time pass by when a restart is due. -/
def Prompt (client : Client) : List Move → Prop
  | [] => True
  | move :: moves =>
    (∀ nanos deadline, move = .wait nanos → client.dispatcher.restartAt = some deadline →
      client.now + nanos ≤ deadline) ∧
    (client.perform move).1.Prompt moves

/-- No restart should have come before now. -/
def OnTime (client : Client) : Prop :=
  ∀ deadline, client.dispatcher.restartAt = some deadline → client.now ≤ deadline

theorem now_trial {move : Move} (tried : client.trial move ≠ []) :
    (client.perform move).1.now = client.now := by
  rcases now_perform client move with ⟨nanos, rfl, -⟩ | still
  · exact absurd (trial_quiet rfl) tried
  · exact still

theorem hearing_down (down : client.dispatcher.connection.live = none) (move : Move) :
    client.hearing move = [] := by
  cases handled : client.stimulus? move with
  | none => exact hearing_quiet handled
  | some stimulus =>
    rw [hearing_handled handled]
    refine List.eq_nil_iff_forall_not_mem.mpr fun receipt heard => ?_
    obtain ⟨chunk, -, live, -⟩ := Dispatcher.mem_hearing heard
    cases down.symm.trans live

/-- Without a call and a shutdown and without a link that opens, a move leaves the restarts as they are, or
is the one that is due. -/
theorem Retrying.perform (retrying : client.Retrying policy limit tries since)
    (accounted : Accounted client outputs) (limited : policy.giveUpAfter = some limit)
    (room : max policy.threshold.toNat limit.toNat + 1 < UInt32.size) {move : Move}
    (unasked : ∀ stimulus ∈ client.stimulus? move, stimulus.asks = false)
    (failing : ∀ trial ∈ client.trial move, trial.opened = false) :
    (client.trial move = [] ∧
      (client.perform move).1.dispatcher.restartAt = client.dispatcher.restartAt ∧
      (client.perform move).1.Retrying policy limit tries since) ∨
    (client.trial move = [⟨client.now, client.dispatcher.connection.generation + 1, false⟩] ∧
      client.dispatcher.restartAt = some (since + pause policy tries) ∧
      since + pause policy tries ≤ client.now ∧
      (client.perform move).1.Retrying policy limit (tries + 1) client.now) := by
  cases handled : client.stimulus? move with
  | none =>
    have quiet := quiet_perform handled
    refine .inl ⟨trial_quiet handled, by rw [quiet.dispatcher], ?_⟩
    rw [Retrying, quiet.dispatcher, quiet.running]
    exact retrying
  | some stimulus =>
    have silent := unasked stimulus handled
    have unheard := hearing_down retrying.down move
    rw [hearing_handled handled] at unheard
    rw [trial_handled accounted handled] at failing ⊢
    have lull : Dispatcher.Lull client.dispatcher client.now stimulus _ :=
      Dispatcher.lull_handle (Stimulus.call?_of_unasked silent) unheard
    have still : client.dispatcher.Retrying policy limit tries since true := by
      rw [← accounted.running handled]
      exact retrying
    rw [dispatcher_handled handled, Retrying, Retrying, dispatcher_handled handled]
    rcases still.step limited room lull silent failing with ⟨untried, going, same, next⟩ |
      ⟨tried, set, passed, running, next, stops⟩
    · rw [running_handled accounted handled (iff_of_false going Bool.true_eq_false.mp)]
      exact .inl ⟨untried, same, next⟩
    · rw [running_handled accounted handled stops]
      exact .inr ⟨tried, set, passed, next⟩

theorem Retrying.deadline (retrying : client.Retrying policy limit tries since) {deadline : Nat}
    (set : client.dispatcher.restartAt = some deadline) :
    client.running = true ∧ deadline = since + pause policy tries ∧ tries < granted policy limit := by
  have stage := retrying.stage
  generalize client.running = running at stage ⊢
  rw [set] at stage
  cases stage with
  | due left within => exact ⟨rfl, rfl, left⟩

theorem OnTime.perform (on_time : client.OnTime) {move : Move}
    (prompt : ∀ nanos deadline, move = .wait nanos → client.dispatcher.restartAt = some deadline →
      client.now + nanos ≤ deadline)
    (same : (client.perform move).1.dispatcher.restartAt = client.dispatcher.restartAt) :
    (client.perform move).1.OnTime := by
  intro deadline set
  rw [same] at set
  rcases now_perform client move with ⟨nanos, rfl, passed⟩ | still
  · rw [passed]
    exact prompt nanos deadline rfl set
  · rw [still]
    exact on_time deadline set

theorem Retrying.on_time {after : Client} (retrying : after.Retrying policy limit tries client.now)
    (still : after.now = client.now) : after.OnTime := by
  intro deadline set
  rw [still, (retrying.deadline set).2.1]
  exact Nat.le_add_right _ _

/-- Nothing is asked of the client in a run, and no link can be opened for it. -/
structure Deserted (client : Client) (moves : List Move) : Prop where
  unasked : ∀ stimulus ∈ client.stimuli moves, stimulus.asks = false
  failing : ∀ trial ∈ client.trials moves, trial.opened = false

theorem deserted_nil : client.Deserted [] := ⟨by simp [stimuli], by simp [trials]⟩

theorem deserted_cons {move : Move} {moves : List Move} : client.Deserted (move :: moves) ↔
    (∀ stimulus ∈ client.stimulus? move, stimulus.asks = false) ∧
      (∀ trial ∈ client.trial move, trial.opened = false) ∧ (client.perform move).1.Deserted moves := by
  have unasked : (∀ stimulus ∈ client.stimuli (move :: moves), stimulus.asks = false) ↔
      (∀ stimulus ∈ client.stimulus? move, stimulus.asks = false) ∧
        ∀ stimulus ∈ (client.perform move).1.stimuli moves, stimulus.asks = false := by
    rw [stimuli, List.forall_mem_append]
    simp only [Option.mem_toList]
    rfl
  have failing : (∀ trial ∈ client.trials (move :: moves), trial.opened = false) ↔
      (∀ trial ∈ client.trial move, trial.opened = false) ∧
        ∀ trial ∈ (client.perform move).1.trials moves, trial.opened = false := List.forall_mem_append
  constructor
  · intro deserted
    obtain ⟨silent, later_silent⟩ := unasked.mp deserted.unasked
    obtain ⟨fails, later_fails⟩ := failing.mp deserted.failing
    exact ⟨silent, fails, later_silent, later_fails⟩
  · rintro ⟨silent, fails, later⟩
    exact ⟨unasked.mpr ⟨silent, later.unasked⟩, failing.mpr ⟨fails, later.failing⟩⟩

def times (client : Client) (moves : List Move) : List Nat := (client.trials moves).map Trial.time

theorem times_cons (client : Client) (move : Move) (moves : List Move) :
    client.times (move :: moves) =
      (client.trial move).map Trial.time ++ (client.perform move).1.times moves := List.map_append

theorem Retrying.after (retrying : client.Retrying policy limit tries since)
    (accounted : Accounted client outputs) (limited : policy.giveUpAfter = some limit)
    (room : max policy.threshold.toNat limit.toNat + 1 < UInt32.size) {later : List Move}
    (deserted : client.Deserted later) :
    (client.after later).Retrying policy limit (tries + (client.times later).length)
        ((client.times later).getLast?.getD since) ∧
      Paced policy tries since (client.times later) ∧
      (client.OnTime → client.Prompt later →
        client.times later = dueTimes policy tries since (client.times later).length) := by
  induction later generalizing client outputs tries since with
  | nil => exact ⟨retrying, trivial, fun _ _ => rfl⟩
  | cons move moves ih =>
    obtain ⟨unasked, failing, deserted_later⟩ := deserted_cons.mp deserted
    have accounted_next := accounted_perform accounted move
    rw [times_cons, after_cons]
    -- Without an attempt the stage stays; an attempt begins the next one, at the time of its failure.
    rcases retrying.perform accounted limited room unasked failing with
      ⟨untried, same, next⟩ | ⟨tried, set, passed, next⟩
    · rw [untried]
      obtain ⟨last, paced, due⟩ := ih next accounted_next deserted_later
      exact ⟨last, paced, fun on_time prompt => due (on_time.perform prompt.1 same) prompt.2⟩
    · rw [tried]
      obtain ⟨last, paced, due⟩ := ih next accounted_next deserted_later
      refine ⟨?_, ⟨passed, paced⟩, fun on_time prompt => ?_⟩
      · have count (rest : List Nat) : tries + (client.now :: rest).length = tries + 1 + rest.length := by
          rw [List.length_cons]
          omega
        have final (rest : List Nat) :
            (client.now :: rest).getLast?.getD since = rest.getLast?.getD client.now := by
          rw [List.getLast?_cons]
          rfl
        rw [← count, ← final] at last
        exact last
      · have exact_time : client.now = since + pause policy tries :=
          Nat.le_antisymm (on_time _ set) passed
        have follows := due (next.on_time (now_trial (by simp [tried]))) prompt.2
        show client.now :: (client.perform move).1.times moves = _ :: dueTimes _ _ _ _
        rw [← exact_time]
        exact congrArg (List.cons client.now) follows

theorem timer_fails (accounted : Accounted client outputs) (running : client.running = true)
    (down : client.dispatcher.connection.live = none) {deadline : Nat}
    (set : client.dispatcher.restartAt = some deadline) (passed : deadline ≤ client.now)
    (error : Link.Error) : client.trial (.timer (.error error)) =
      [⟨client.now, client.dispatcher.connection.generation + 1, false⟩] := by
  have handled : client.stimulus? (.timer (.error error)) = some (.timer (.error error)) := by
    simp [stimulus?, running, Except.map]
  have due : client.dispatcher.isDue client.now = true := by
    simp [Dispatcher.isDue, set, passed]
  rw [trial_handled accounted handled, Dispatcher.handle, Dispatcher.restart_failed due down]
  exact congrArg (List.cons _)
    (Dispatcher.shown_schedule client.dispatcher.unreached client.now _).1

theorem retrying_refused (accounted : Accounted client outputs) (limited : policy.giveUpAfter = some limit)
    (room : policy.threshold.toNat + 1 < UInt32.size)
    (governed : client.dispatcher.connection.policy = policy)
    (down : client.dispatcher.connection.live = none) (off : client.dispatcher.restartAt = none)
    (tolerated : client.dispatcher.connection.failures = policy.threshold) {move : Move}
    {number : Call.Number} {request : Request} {error : Link.Error} {writable : Bool}
    (handled : client.stimulus? move = some (.call number request (.error error) writable)) :
    client.trial move = [⟨client.now, client.dispatcher.connection.generation + 1, false⟩] ∧
      (client.perform move).1.Retrying policy limit 0 client.now := by
  obtain ⟨tried, running, first, stops⟩ := Dispatcher.retrying_call accounted.coherent client.now
    limited room governed down off tolerated number request error writable
  rw [trial_handled accounted handled, Retrying, dispatcher_handled handled,
    running_handled accounted handled stops]
  exact ⟨tried, first⟩

/-- How the restarts go after a failure at `start` that was the first beyond the threshold, if nothing is
asked of the client any more and no link can be opened. -/
structure Course (client : Client) (policy : Restart.Policy) (limit : UInt32) (start : Nat)
    (later : List Move) : Prop where
  paced : Paced policy 0 start (client.times later)
  punctual : client.Prompt later →
    client.times later = dueTimes policy 0 start (client.times later).length
  failures : (client.after later).dispatcher.connection.failures.toNat =
    policy.threshold.toNat + 1 + (client.times later).length
  /-- The next restart is due its pause after the last failure, or all that are granted have been made, or
  the clock cannot reach the next one and the client has stopped. -/
  stage : Stage policy limit (client.times later).length ((client.times later).getLast?.getD start)
    (client.after later).running (client.after later).dispatcher.restartAt
  /-- No more are made than are granted, however long it goes on. -/
  bounded : (client.times later).length ≤ granted policy limit
  /-- With nothing left to wait for, all have been made. -/
  ended : (client.after later).running = true → (client.after later).dispatcher.restartAt = none →
    (client.times later).length = granted policy limit ∧
      (client.after later).dispatcher.connection.failures.toNat =
        max policy.threshold.toNat limit.toNat + 1
  /-- A restart that is due comes as soon as the timer goes off. -/
  goes_on : ∀ deadline error, (client.after later).dispatcher.restartAt = some deadline →
    let waited := ((client.after later).perform (.wait (deadline - (client.after later).now))).1
    waited.trial (.timer (.error error)) =
      [⟨max (client.after later).now deadline, waited.dispatcher.connection.generation + 1, false⟩]

theorem Retrying.course {start : Nat} (retrying : client.Retrying policy limit 0 start)
    (on_time : client.OnTime) (accounted : Accounted client outputs)
    (limited : policy.giveUpAfter = some limit)
    (room : max policy.threshold.toNat limit.toNat + 1 < UInt32.size) {later : List Move}
    (deserted : client.Deserted later) : Course client policy limit start later := by
  obtain ⟨last, paced, due⟩ := retrying.after accounted limited room deserted
  rw [Nat.zero_add] at last
  refine ⟨paced, due on_time, last.failures, last.stage, last.stage.bounded, ?_, ?_⟩
  · intro running off
    have stage := last.stage
    rw [running, off] at stage
    have all : (client.times later).length = granted policy limit := by
      cases stage with
      | spent all => exact all
    refine ⟨all, last.failures.trans ?_⟩
    rw [all, granted]
    omega
  · intro deadline error set waited
    have time : waited.now = max (client.after later).now deadline := by
      show _ + _ = _
      omega
    have passed : deadline ≤ waited.now := time.symm ▸ Nat.le_max_right _ _
    have running : waited.running = true := (last.deadline set).1
    rw [← time]
    exact timer_fails (accounted_perform (accounted_after accounted later) _) running last.down set
      passed error

theorem unasked_timer (attempt : Link.Attempt) :
    ∀ stimulus ∈ client.stimulus? (.timer attempt), stimulus.asks = false := by
  intro stimulus handled
  rcases handled_cases handled with ⟨other, command, rest, same, -⟩ |
    ⟨-, generation, signal, rest, same, -⟩ | ⟨-, other, -, rfl⟩
  · cases same
  · cases same
  · rfl

theorem Retrying.exists_end (retrying : client.Retrying policy limit tries since)
    (on_time : client.OnTime) (accounted : Accounted client outputs)
    (limited : policy.giveUpAfter = some limit)
    (room : max policy.threshold.toNat limit.toNat + 1 < UInt32.size) :
    ∃ later, client.Deserted later ∧ client.Prompt later ∧
      (client.after later).dispatcher.restartAt = none := by
  induction left : granted policy limit - tries generalizing client outputs tries since with
  | zero =>
    refine ⟨[], deserted_nil, trivial, Option.eq_none_iff_forall_ne_some.mpr fun deadline set => ?_⟩
    exact Nat.not_lt.mpr (Nat.le_of_sub_eq_zero left) (retrying.deadline set).2.2
  | succ count ih =>
    cases set : client.dispatcher.restartAt with
    | none => exact ⟨[], deserted_nil, trivial, set⟩
    | some deadline =>
      -- The timer is waited for and goes off, and the attempt fails.
      let waited := (client.perform (.wait (deadline - client.now))).1
      have time : waited.now = deadline := Nat.add_sub_of_le (on_time deadline set)
      have accounted_waited := accounted_perform accounted (.wait (deadline - client.now))
      have still : waited.Retrying policy limit tries since := retrying
      have tried : waited.trial (.timer (.error .closed)) =
          [⟨waited.now, waited.dispatcher.connection.generation + 1, false⟩] :=
        timer_fails accounted_waited (retrying.deadline set).1 retrying.down set
          (Nat.le_of_eq time.symm) .closed
      have failing : ∀ trial ∈ waited.trial (.timer (.error .closed)), trial.opened = false := by
        rw [tried]
        simp
      rcases still.perform accounted_waited limited room (unasked_timer _) failing with
        ⟨untried, -⟩ | ⟨-, -, -, next⟩
      · cases tried.symm.trans untried
      · obtain ⟨later, deserted, prompt, ended⟩ := ih next
          (next.on_time (now_trial (by simp [tried]))) (accounted_perform accounted_waited _) (by omega)
        refine ⟨.wait (deadline - client.now) :: .timer (.error .closed) :: later, ?_, ?_, ended⟩
        · exact deserted_cons.mpr ⟨by simp [stimulus?], by rw [trial_quiet rfl]; simp,
            deserted_cons.mpr ⟨unasked_timer _, failing, deserted⟩⟩
        · refine ⟨?_, by rintro nanos other ⟨⟩, prompt⟩
          rintro nanos other ⟨⟩ armed
          cases set.symm.trans armed
          exact Nat.le_of_eq time

/-- From any state that is reached without a live link and without a restart set, at the threshold: a call
for which no link can be opened starts the restarts of the policy. As long as nothing more is asked and no
link can be opened, each comes its delay after the failure before it, as many as the limit is above the
threshold and no more; then the failures are one more than either. Only if the clock cannot reach the next
one is it never made, and the client has stopped. With nobody late, it does come to one of these ends. -/
theorem restarts_run_their_course (idPrefix : String) (kind : Link.Kind) (policy : Restart.Policy)
    (start : Nat) (moves : List Move) {limit : UInt32} (limited : policy.giveUpAfter = some limit)
    (threshold_room : policy.threshold.toNat + 1 < UInt32.size) (limit_room : limit.toNat + 1 < UInt32.size) :
    let client := (new idPrefix kind policy start).after moves
    client.dispatcher.connection.live = none → client.dispatcher.restartAt = none →
      client.dispatcher.connection.failures = policy.threshold →
      ∀ move number request error writable,
        client.stimulus? move = some (.call number request (.error error) writable) →
        let failed := (client.perform move).1
        client.trial move = [⟨client.now, client.dispatcher.connection.generation + 1, false⟩] ∧
          (∀ later, failed.Deserted later → Course failed policy limit client.now later) ∧
          ∃ later, failed.Deserted later ∧ failed.Prompt later ∧
            (failed.after later).dispatcher.restartAt = none := by
  intro client down off tolerated move number request error writable handled failed
  have accounted := (carried_run idPrefix kind policy start moves).accounted
  have governed : client.dispatcher.connection.policy = policy := policy_after _ moves
  obtain ⟨tried, first⟩ :=
    retrying_refused accounted limited threshold_room governed down off tolerated handled
  have still : failed.now = client.now := now_trial (by rw [tried]; simp)
  have room : max policy.threshold.toNat limit.toNat + 1 < UInt32.size := by omega
  have accounted_next := accounted_perform accounted move
  exact ⟨tried, fun later => first.course (first.on_time still) accounted_next limited room,
    first.exists_end (first.on_time still) accounted_next limited room⟩

theorem restarts_run_their_course_twice :
    let policy : Restart.Policy := { Restart.Policy.socket with threshold := 1, giveUpAfter := some 3 }
    let client := (new "p" .socket policy 0).after
      [.send (.directoryOpen "/"), .command (.error .closed), .send (.directoryOpen "/")]
    let failed := (client.perform (.command (.error .closed))).1
    let later : List Move := [.wait 100000000, .timer (.error .closed), .wait 200000000,
      .timer (.error .closed), .wait 400000000, .timer (.error .closed)]
    Course failed policy 3 client.now later ∧ failed.times later = [100000000, 300000000] ∧
      (failed.after later).dispatcher.connection.failures = 4 := by
  intro policy client failed later
  have course := restarts_run_their_course "p" .socket policy 0
    [.send (.directoryOpen "/"), .command (.error .closed), .send (.directoryOpen "/")] rfl
    (by decide) (by decide) (by decide +kernel) (by decide +kernel) (by decide +kernel)
    (.command (.error .closed)) _ _ _ _ rfl
  have deserted : failed.Deserted later := ⟨by decide +kernel, by decide +kernel⟩
  exact ⟨course.2.1 later deserted, by decide +kernel, by decide +kernel⟩

theorem trials_stopped (accounted : Accounted client outputs) (stopped : client.running = false)
    (later : List Move) : client.trials later = [] := by
  induction later generalizing client outputs with
  | nil => rfl
  | cons move moves ih =>
    have unhandled : client.stimulus? move = none := by
      by_contra handled
      obtain ⟨stimulus, some_handled⟩ := Option.ne_none_iff_exists'.mp handled
      cases stopped.symm.trans (accounted.running some_handled)
    have still : (client.perform move).1.running = false := (quiet_perform unhandled).running.trans stopped
    rw [trials, trial_quiet unhandled, ih (accounted_perform accounted move) still, List.append_nil]

/-- The longest delay keeps the one restart that is granted from ever coming: the clock cannot reach it, and
the client stops over the first failure. -/
theorem restart_beyond_clock :
    let policy : Restart.Policy := ⟨0, farthest, farthest, some 1⟩
    let client := (new "p" .socket policy 0).after [.send (.directoryOpen "/")]
    let failed := (client.perform (.command (.error .closed))).1
    client.dispatcher.connection.live = none ∧ client.dispatcher.restartAt = none ∧
      client.dispatcher.connection.failures = policy.threshold ∧ granted policy 1 = 1 ∧
      (∃ number request, client.stimulus? (.command (.error .closed)) =
        some (.call number request (.error .closed) false)) ∧
      (∀ later, failed.trials later = []) ∧ failed.dispatcher.connection.failures = 1 := by
  intro policy client failed
  have accounted := (carried_run "p" .socket policy 0 [.send (.directoryOpen "/")]).accounted
  have stopped : failed.running = false := by decide +kernel
  exact ⟨rfl, rfl, rfl, rfl, ⟨_, _, rfl⟩, trials_stopped (accounted_perform accounted _) stopped,
    by decide +kernel⟩

end EngineClient.Client
