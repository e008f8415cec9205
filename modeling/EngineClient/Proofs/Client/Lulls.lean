import EngineClient.Proofs.Client.Routing
import EngineClient.Proofs.Client.Timer
import EngineClient.Proofs.Dispatcher.Lulls

/-!
A client left without calls and without frames comes to rest: however its links end and whatever comes of
its attempts to open another, it makes no more of these than the limit of the policy is above its threshold,
and one for a timer that was set before.
-/

namespace EngineClient.Client

open Dispatcher (Stimulus Trial)

variable {client : Client} {outputs : List Output}

def stimuli (client : Client) : List Move → List Stimulus
  | [] => []
  | move :: moves => (client.stimulus? move).toList ++ (client.perform move).1.stimuli moves

def Output.trial? (now : Nat) : Output → Option Trial
  | .effect result => result.trial? now
  | .poured _ _ => none

def trial (client : Client) (move : Move) : List Trial :=
  (client.perform move).2.filterMap (Output.trial? client.now)

def trials (client : Client) : List Move → List Trial
  | [] => []
  | move :: moves => client.trial move ++ (client.perform move).1.trials moves

theorem trial_quiet {move : Move} (unhandled : client.stimulus? move = none) :
    client.trial move = [] :=
  (quiet_perform unhandled).filterMap_eq_nil (fun _ _ => rfl) fun _ => rfl

theorem trial_handled (accounted : Accounted client outputs) {move : Move} {stimulus : Stimulus}
    (handled : client.stimulus? move = some stimulus) :
    client.trial move =
      Dispatcher.trials client.now (client.dispatcher.handle client.now stimulus).2 := by
  obtain ⟨abandoned, shown⟩ := shown_handled handled accounted
  have effects (effects : List Dispatcher.Effect) : (effects.map Output.effect).filterMap
      (Output.trial? client.now) = Dispatcher.trials client.now effects := by
    rw [List.filterMap_map]
    rfl
  rw [trial, shown, List.filterMap_append, effects, filterMap_abandon (fun _ => rfl), List.append_nil]

theorem policy_perform (client : Client) (move : Move) :
    (client.perform move).1.dispatcher.connection.policy = client.dispatcher.connection.policy := by
  cases handled : client.stimulus? move with
  | none => rw [(quiet_perform handled).dispatcher]
  | some stimulus =>
    rw [dispatcher_handled handled]
    exact Dispatcher.policy_handle client.dispatcher client.now stimulus

theorem policy_after (client : Client) (moves : List Move) :
    (client.after moves).dispatcher.connection.policy = client.dispatcher.connection.policy := by
  induction moves generalizing client with
  | nil => rfl
  | cons move moves ih => rw [after_cons, ih, policy_perform]

/-- The move is no call that is handled, and no frame comes in with it. -/
structure Calm (client : Client) (move : Move) : Prop where
  uncalled : ∀ stimulus ∈ client.stimulus? move, stimulus.call? = none
  unheard : client.hearing move = []

theorem Calm.cases {move : Move} (calm : client.Calm move) (accounted : Accounted client outputs) :
    ((client.perform move).1.dispatcher = client.dispatcher ∧ client.trial move = [] ∧
      client.ruling move = []) ∨
    ∃ stimulus result, Dispatcher.Lull client.dispatcher client.now stimulus result ∧
      client.stimulus? move = some stimulus ∧ (client.perform move).1.dispatcher = result.1 ∧
      client.trial move = Dispatcher.trials client.now result.2 ∧
      client.ruling move = Dispatcher.rulings client.now result.2 := by
  cases handled : client.stimulus? move with
  | none =>
    exact .inl ⟨(quiet_perform handled).dispatcher, trial_quiet handled, ruling_quiet handled⟩
  | some stimulus =>
    refine .inr ⟨stimulus, client.dispatcher.handle client.now stimulus, ?_, rfl,
      dispatcher_handled handled, trial_handled accounted handled, ruling_handled accounted handled⟩
    have unheard := calm.unheard
    rw [hearing_handled handled] at unheard
    exact Dispatcher.lull_handle (calm.uncalled stimulus handled) unheard

/-- The books of a stretch without calls and frames. -/
structure Settles (limit : UInt32) (before after : Client) (tried : List Trial)
    (ruled : List Dispatcher.Ruling) : Prop where
  failures : after.dispatcher.connection.failures.toNat =
    before.dispatcher.connection.failures.toNat + ruled.length
  spent : tried.length + after.dispatcher.allowance limit ≤ before.dispatcher.allowance limit

theorem settles_perform {move : Move} (calm : client.Calm move) (accounted : Accounted client outputs)
    {limit : UInt32} (limited : client.dispatcher.connection.policy.giveUpAfter = some limit)
    (room : client.dispatcher.connection.failures.toNat + (client.ruling move).length < UInt32.size) :
    Settles limit client (client.perform move).1 (client.trial move) (client.ruling move) := by
  rcases calm.cases accounted with ⟨same, untried, unruled⟩ |
    ⟨stimulus, result, lull, -, same, tried, ruled⟩
  · rw [untried, unruled]
    exact ⟨by rw [same]; rfl, by rw [same]; exact Nat.le_of_eq (Nat.zero_add _)⟩
  · rw [ruled] at room
    have spends := lull.spends limited room
    rw [tried, ruled]
    refine ⟨?_, by rw [same]; exact spends⟩
    rcases lull.tallied with ⟨unruled, failures⟩ | ⟨decision, single, failures⟩
    · rw [same, failures, unruled]
      rfl
    · rw [single] at room
      rw [same, failures, single, Dispatcher.toNat_succ room]
      rfl

theorem settles_after (accounted : Accounted client outputs) {limit : UInt32}
    (limited : client.dispatcher.connection.policy.giveUpAfter = some limit) (later : List Move)
    (uncalled : ∀ stimulus ∈ client.stimuli later, stimulus.call? = none)
    (unheard : client.heard later = [])
    (room : client.dispatcher.connection.failures.toNat + (client.rulings later).length < UInt32.size) :
    Settles limit client (client.after later) (client.trials later) (client.rulings later) := by
  induction later generalizing client outputs with
  | nil => exact ⟨rfl, Nat.le_of_eq (Nat.zero_add _)⟩
  | cons move moves ih =>
    obtain ⟨unheard, later_unheard⟩ := List.append_eq_nil_iff.mp unheard
    have calm : client.Calm move := ⟨fun stimulus handled =>
      uncalled stimulus (List.mem_append_left _ (Option.mem_toList.mpr handled)), unheard⟩
    rw [rulings, List.length_append] at room
    have first := settles_perform calm accounted limited (by omega)
    have rest := ih (accounted_perform accounted move) ((policy_perform client move).symm ▸ limited)
      (fun stimulus handled => uncalled stimulus (List.mem_append_right _ handled)) later_unheard
      (by rw [first.failures]; omega)
    rw [after_cons, trials, rulings]
    refine ⟨?_, ?_⟩
    · rw [rest.failures, first.failures, List.length_append, Nat.add_assoc]
    · rw [List.length_append, Nat.add_assoc]
      exact (Nat.add_le_add_left rest.spent _).trans first.spent

/-- From any state that is reached, a stretch without calls and frames, of any length and with whatever
comes of the links: every failure in it is put to the policy, and the attempts to open a link are no more
than the limit is above the threshold, and one if a restart was scheduled when it began. -/
theorem attempts_run_out (idPrefix : String) (kind : Link.Kind) (policy : Restart.Policy) (start : Nat)
    (moves later : List Move) {limit : UInt32} (limited : policy.giveUpAfter = some limit) :
    let client := (new idPrefix kind policy start).after moves
    let failures := client.dispatcher.connection.failures.toNat + (client.rulings later).length
    (∀ stimulus ∈ client.stimuli later, stimulus.call? = none) → client.heard later = [] →
      failures < UInt32.size →
        (client.after later).dispatcher.connection.failures.toNat = failures ∧
        (client.trials later).length ≤ 1 + (limit.toNat - policy.threshold.toNat) ∧
        (client.dispatcher.restartAt = none →
          (client.trials later).length ≤ limit.toNat - policy.threshold.toNat) := by
  intro client failures uncalled unheard room
  have same : client.dispatcher.connection.policy = policy := policy_after _ moves
  have settled := settles_after (carried_run idPrefix kind policy start moves).accounted
    (same.symm ▸ limited) later uncalled unheard room
  have spent := (Nat.le_add_right _ _).trans settled.spent
  rw [Dispatcher.allowance, same] at spent
  have left : Dispatcher.failuresLeft policy limit client.dispatcher.connection.failures.toNat ≤
      limit.toNat - policy.threshold.toNat := Nat.sub_le_sub_left (Nat.le_max_left _ _) _
  refine ⟨settled.failures, ?_, ?_⟩
  · have once : client.dispatcher.restartAt.toList.length ≤ 1 := by
      cases client.dispatcher.restartAt <;> simp
    exact spent.trans (Nat.add_le_add once left)
  · intro off
    rw [off] at spent
    exact spent.trans (by simpa using left)

/-- Two refused calls set the timer, a third opens a link, a frame comes in on it, and the link is lost. -/
def lostWithTimerSet : List Move :=
  [.send (.directoryOpen "/"), .command (.error .closed), .send (.directoryOpen "/"),
    .command (.error .closed), .send (.directoryOpen "/"), .command (.ok .silent),
    .report 3 (.data (Frame.encode ⟨.request, []⟩)), .signal, .report 3 (.failed "gone"), .signal]

theorem attempts_run_out_timer_set :
    let policy : Restart.Policy := { Restart.Policy.socket with threshold := 1, giveUpAfter := some 2 }
    let client := (new "p" .socket policy 0).after lostWithTimerSet
    let later : List Move := [.wait 100000000, .timer (.error .closed), .wait 100000000,
      .timer (.error .closed), .wait 100000000, .timer (.error .closed)]
    client.dispatcher.restartAt = some 100000000 ∧ client.dispatcher.connection.failures = 1 ∧
      (client.after later).dispatcher.connection.failures.toNat = 3 ∧
      (client.trials later).length ≤ 1 + ((2 : UInt32).toNat - policy.threshold.toNat) ∧
      client.trials later = [⟨100000000, 4, false⟩, ⟨200000000, 5, false⟩] := by
  intro policy client later
  have uncalled : ∀ stimulus ∈ client.stimuli later, stimulus.call? = none := by decide +kernel
  have unheard : client.heard later = [] := by decide +kernel
  have bounds := attempts_run_out "p" .socket policy 0 lostWithTimerSet later rfl uncalled unheard
    (by decide +kernel)
  exact ⟨by decide +kernel, by decide +kernel, by decide +kernel, bounds.2.1, by decide +kernel⟩

end EngineClient.Client
