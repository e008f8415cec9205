import EngineClient.Proofs.Client.Run
import EngineClient.Proofs.Dispatcher.Causes
import Mathlib.Data.Finset.Card

/-!
Every call is settled exactly once: from the moment it is issued it is queued, pending or settled, and
never more than one of these. A client that has stopped leaves no call waiting.
-/

namespace EngineClient.Client

/-- How often a call waits, in the queue of commands or for a response. -/
def waiting (client : Client) (number : Call.Number) : Nat :=
  client.queuedCalls.count number + client.pendingCalls.count number

/-- What holds of a client between any two moves, given all that it has shown. -/
structure Accounted (client : Client) (outputs : List Output) : Prop where
  coherent : client.dispatcher.Coherent
  rests : client.running = false → client.commands = [] ∧ client.dispatcher.AtRest
  once : ∀ number : Nat, client.waiting number + (outcomes number outputs).length =
    if number < client.issued then 1 else 0

variable {client : Client} {outputs : List Output} (number : Nat)

theorem waiting_handle (coherent : client.dispatcher.Coherent) (running : client.running = true)
    (attempt : Link.Attempt) (stimulus : Dispatcher.Stimulus) :
    (client.handle attempt stimulus).1.waiting number +
        (outcomes number (client.handle attempt stimulus).2).length =
      client.waiting number + if stimulus.call? = some number then 1 else 0 := by
  have tallied : Dispatcher.tally number (client.dispatcher.handle client.now stimulus) = _ :=
    Dispatcher.tally_handle number coherent stimulus
  simp only [Dispatcher.tally] at tallied
  by_cases stopped : .stopped ∈ (client.reaction stimulus).2
  · rw [handle_stopped client attempt stopped]
    simp only [waiting, queuedCalls, pendingCalls, reaction, List.filterMap_nil, List.count_nil,
      outcomes_append, outcomes_effects, outcomes_abandon, List.length_append,
      List.length_replicate]
    omega
  · rw [handle_going client attempt running stopped]
    simp only [waiting, queuedCalls, pendingCalls, reaction, outcomes_effects]
    omega

theorem accounted_handle (coherent : client.dispatcher.Coherent) (running : client.running = true)
    (attempt : Link.Attempt) (stimulus : Dispatcher.Stimulus)
    (once : ∀ number : Nat, client.waiting number + (if stimulus.call? = some number then 1 else 0) +
      (outcomes number outputs).length = if number < client.issued then 1 else 0) :
    Accounted (client.handle attempt stimulus).1
      (outputs ++ (client.handle attempt stimulus).2) := by
  refine ⟨?_, ?_, ?_⟩
  · rw [dispatcher_handle]
    exact Dispatcher.coherent_handle coherent stimulus
  · intro done
    by_cases stopped : .stopped ∈ (client.reaction stimulus).2
    · rw [dispatcher_handle, handle_stopped client attempt stopped]
      exact ⟨rfl, Dispatcher.atRest_of_stopped stopped⟩
    · rw [handle_going client attempt running stopped] at done
      exact absurd done (by simp [running])
  · intro number
    have step := waiting_handle number coherent running attempt stimulus
    have before := once number
    rw [issued_handle, outcomes_append, List.length_append]
    omega

theorem issued_succ (issued : Nat) :
    (if number < issued + 1 then 1 else 0) =
      (if number < issued then 1 else 0) + if issued = number then 1 else 0 := by
  split_ifs <;> omega

theorem queuedCalls_taking {move : Move} {stimulus : Dispatcher.Stimulus}
    (handled : client.stimulus? move = some stimulus) :
    client.queuedCalls = stimulus.call?.toList ++ (client.taking move).queuedCalls := by
  rcases handled_cases handled with ⟨attempt, command, rest, rfl, next, rfl⟩ |
    ⟨-, origin, signal, rest, rfl, -, rfl⟩ | ⟨-, attempt, rfl, rfl⟩
  · rw [queuedCalls, queuedCalls, taking, next]
    cases command <;> rfl
  · rfl
  · rfl

theorem waiting_taking {move : Move} {stimulus : Dispatcher.Stimulus}
    (handled : client.stimulus? move = some stimulus) :
    (client.taking move).waiting number + (if stimulus.call? = some number then 1 else 0) =
      client.waiting number := by
  have same : (client.taking move).pendingCalls = client.pendingCalls := by simp [pendingCalls]
  have counted : stimulus.call?.toList.count number =
      if stimulus.call? = some number then 1 else 0 := by
    cases stimulus.call? with
    | none => rfl
    | some call => simp [List.count_singleton]
  rw [waiting, waiting, same, queuedCalls_taking handled, List.count_append, counted]
  omega

theorem Accounted.running (accounted : Accounted client outputs) {move : Move}
    {stimulus : Dispatcher.Stimulus} (handled : client.stimulus? move = some stimulus) :
    client.running = true := by
  rcases handled_cases handled with ⟨attempt, command, rest, rfl, next, rfl⟩ |
    ⟨running, -⟩ | ⟨running, -⟩
  · by_contra stopped
    simpa [next] using (accounted.rests (Bool.eq_false_of_not_eq_true stopped)).1
  · exact running
  · exact running

theorem accounted_handled (accounted : Accounted client outputs) {move : Move}
    {stimulus : Dispatcher.Stimulus} (handled : client.stimulus? move = some stimulus) :
    Accounted (client.perform move).1 (outputs ++ (client.perform move).2) := by
  have coherent : (client.taking move).dispatcher.Coherent := by
    rw [taking_dispatcher]
    exact accounted.coherent
  have running : (client.taking move).running = true := by
    rw [taking_running]
    exact accounted.running handled
  rw [perform_handled handled]
  apply accounted_handle coherent running
  intro number
  rw [waiting_taking number handled, taking_issued]
  exact accounted.once number

theorem outcomes_poured (generation : Link.Generation) (bytes : Bytes) :
    outcomes number [.poured generation bytes] = [] := rfl

theorem accounted_quiet (accounted : Accounted client outputs) {move : Move} {after : Client}
    {shown : List Output} (quiet : Quiet client move after shown) :
    Accounted after (outputs ++ shown) := by
  cases quiet with
  | sent request counter running =>
    refine ⟨accounted.coherent, ?_, ?_⟩
    · intro impossible
      exact absurd impossible (by simp [running])
    · intro number
      have before := accounted.once number
      have counted : List.count number [client.issued] = if client.issued = number then 1 else 0 := by
        simp [List.count_singleton]
      simp only [waiting, queuedCalls, pendingCalls, List.append_nil, List.filterMap_append,
        List.count_append, List.filterMap_cons, List.filterMap_nil, Command.call?, counted,
        issued_succ] at before ⊢
      omega
  | refused request counter stopped =>
    refine ⟨accounted.coherent, fun _ => accounted.rests stopped, ?_⟩
    intro number
    have before := accounted.once number
    have refused : (outcomes number [.effect (.settled ⟨client.issued, .error .clientClosed⟩)]).length =
        if client.issued = number then 1 else 0 := by
      split_ifs <;> simp_all [outcomes, Output.outcome?, Dispatcher.Effect.outcome?]
    simp only [waiting, queuedCalls, pendingCalls, outcomes_append, List.length_append, refused,
      issued_succ] at before ⊢
    omega
  | asked unissued other running =>
    refine ⟨accounted.coherent, ?_, ?_⟩
    · intro impossible
      exact absurd impossible (by simp [running])
    · intro number
      have before := accounted.once number
      simpa [waiting, queuedCalls, pendingCalls, other] using before
  | poured there stepped =>
    refine ⟨accounted.coherent, accounted.rests, ?_⟩
    intro number
    rw [outcomes_append, outcomes_poured, List.append_nil]
    exact accounted.once number
  | _ =>
    rw [List.append_nil]
    exact ⟨accounted.coherent, accounted.rests, accounted.once⟩

/-- Every move keeps the accounts. -/
theorem accounted_perform (accounted : Accounted client outputs) (move : Move) :
    Accounted (client.perform move).1 (outputs ++ (client.perform move).2) := by
  cases handled : client.stimulus? move with
  | some stimulus => exact accounted_handled accounted handled
  | none => exact accounted_quiet accounted (quiet_perform handled)

theorem accounted_new (idPrefix : String) (kind : Link.Kind) (policy : Restart.Policy)
    (now : Nat) : Accounted (new idPrefix kind policy now) [] :=
  ⟨Dispatcher.coherent_new policy, (absurd · (by simp [new])),
    by simp [new, waiting, queuedCalls, pendingCalls, Dispatcher.new]⟩

theorem accounted_after (accounted : Accounted client outputs) (moves : List Move) :
    Accounted (client.after moves) (outputs ++ client.shown moves) := by
  induction moves generalizing client outputs with
  | nil => simpa using accounted
  | cons move rest ih =>
    rw [after_cons, shown_cons, ← List.append_assoc]
    exact ih (accounted_perform accounted move)

theorem waiting_pos {number : Nat}
    (waits : number ∈ client.queuedCalls ∨ number ∈ client.pendingCalls) :
    0 < client.waiting number := by
  rcases waits with queued | pending
  · exact Nat.add_pos_left (List.count_pos_iff.mpr queued) _
  · exact Nat.add_pos_right _ (List.count_pos_iff.mpr pending)

theorem Accounted.at_most_once (accounted : Accounted client outputs) (number : Nat) :
    client.waiting number + (outcomes number outputs).length ≤ 1 := by
  rw [accounted.once number]
  split <;> omega

theorem Accounted.unsettled (accounted : Accounted client outputs) {number : Nat}
    (waits : number ∈ client.queuedCalls ∨ number ∈ client.pendingCalls) :
    outcomes number outputs = [] := by
  have positive := waiting_pos waits
  have once := accounted.at_most_once number
  exact List.eq_nil_of_length_eq_zero (by omega)

theorem Accounted.issued_of_waiting (accounted : Accounted client outputs) {number : Nat}
    (waits : number ∈ client.queuedCalls ∨ number ∈ client.pendingCalls) :
    number < client.issued := by
  have positive := waiting_pos waits
  have once := accounted.once number
  by_contra later
  rw [if_neg later] at once
  omega

theorem Accounted.unissued (accounted : Accounted client outputs) {number : Nat}
    (later : client.issued ≤ number) : outcomes number outputs = [] := by
  have once := accounted.once number
  rw [if_neg (by omega)] at once
  exact List.eq_nil_of_length_eq_zero (by omega)

theorem Accounted.settled (accounted : Accounted client outputs) (stopped : client.running = false)
    {number : Nat} (issued : number < client.issued) : (outcomes number outputs).length = 1 := by
  obtain ⟨empty, rests⟩ := accounted.rests stopped
  have once := accounted.once number
  have none_waits : client.waiting number = 0 := by
    simp [waiting, queuedCalls, pendingCalls, empty, rests.pending]
  rw [if_pos issued, none_waits] at once
  omega

theorem Accounted.nodup_pendingCalls (accounted : Accounted client outputs) :
    client.pendingCalls.Nodup := by
  apply List.nodup_iff_count_le_one.mpr
  intro number
  have once := accounted.at_most_once number
  simp only [waiting] at once
  omega

theorem Accounted.length_pendingCalls (accounted : Accounted client outputs) :
    client.pendingCalls.length =
      ((List.range client.issued).filter (· ∈ client.pendingCalls)).length := by
  apply List.Perm.length_eq
  apply (List.perm_ext_iff_of_nodup accounted.nodup_pendingCalls
    (List.nodup_range.filter _)).mpr
  intro number
  simp only [List.mem_filter, List.mem_range, decide_eq_true_eq]
  exact ⟨fun waits => ⟨accounted.issued_of_waiting (.inr waits), waits⟩, And.right⟩

/-- A client that has stopped settles what is sent to it by `ClientClosed`, and nothing else. -/
structure Closed (client : Client) : Prop where
  stopped : client.running = false
  idle : client.commands = []

theorem closed_shutdown {rest : List Command} (next : client.commands = .shutdown :: rest)
    (attempt : Link.Attempt) :
    (client.command attempt).1.Closed ∧
      ∀ outcome ∈ outcomes number (client.command attempt).2, outcome = .error .clientClosed := by
  have stops : .stopped ∈ (({ client with commands := rest } : Client).reaction .shutdown).2 :=
    Dispatcher.shutdown_stops
  rw [command_some attempt next, Command.stimulus, handle_stopped _ attempt stops]
  refine ⟨⟨rfl, rfl⟩, ?_⟩
  intro outcome given
  simp only [outcomes_append, outcomes_effects, reaction, Dispatcher.handle,
    Dispatcher.outcomes_shutdown, outcomes_abandon, List.mem_append] at given
  exact given.elim List.eq_of_mem_replicate List.eq_of_mem_replicate

theorem closed_quiet (closed : client.Closed) {move : Move} {after : Client} {shown : List Output}
    (quiet : Quiet client move after shown) :
    after.Closed ∧ ∀ outcome ∈ outcomes number shown, outcome = .error .clientClosed := by
  obtain ⟨stopped, idle⟩ := closed
  cases quiet with
  | sent request counter running => rw [stopped] at running; cases running
  | asked unissued other running => rw [stopped] at running; cases running
  | refused request counter _ =>
    refine ⟨⟨stopped, idle⟩, ?_⟩
    intro outcome given
    by_cases same : client.issued = number
    · simpa [outcomes, Output.outcome?, Dispatcher.Effect.outcome?, same] using given
    · simp [outcomes, Output.outcome?, Dispatcher.Effect.outcome?, same] at given
  | poured there stepped => exact ⟨⟨stopped, idle⟩, by simp [outcomes_poured]⟩
  | _ => exact ⟨⟨stopped, idle⟩, by simp⟩

theorem closed_perform (closed : client.Closed) (move : Move) :
    (client.perform move).1.Closed ∧
      ∀ outcome ∈ outcomes number (client.perform move).2, outcome = .error .clientClosed := by
  have unhandled : client.stimulus? move = none := by
    cases move <;> simp [stimulus?, closed.stopped, closed.idle]
  exact closed_quiet number closed (quiet_perform unhandled)

theorem closed_after (closed : client.Closed) (moves : List Move) :
    (client.after moves).Closed ∧
      ∀ outcome ∈ outcomes number (client.shown moves), outcome = .error .clientClosed := by
  induction moves generalizing client with
  | nil => exact ⟨closed, by simp⟩
  | cons move rest ih =>
    obtain ⟨next, first⟩ := closed_perform number closed move
    obtain ⟨last, later⟩ := ih next
    refine ⟨last, ?_⟩
    rw [shown_cons, outcomes_append]
    intro outcome given
    exact (List.mem_append.mp given).elim (first outcome) (later outcome)

theorem report_of_stats {rest : List Command} (running : client.running = true)
    (next : client.commands = .stats :: rest) (attempt : Link.Attempt) :
    (client.perform (.command attempt)).2 = [.effect (.reported client.dispatcher.stats)] := by
  simp [perform, Client.command, next, handle, Dispatcher.handle, apply, running]

theorem reported_perform (accounted : Accounted client outputs) {move : Move}
    {stats : Dispatcher.Stats} (shows : .effect (.reported stats) ∈ (client.perform move).2) :
    stats = client.dispatcher.stats := by
  cases handled : client.stimulus? move with
  | none =>
    cases ((quiet_perform handled).settles shows).2
  | some stimulus =>
    have running := accounted.running handled
    rw [perform_handled handled] at shows
    rcases mem_handle (by simpa using running) shows with
      ⟨effect, present, same⟩ | ⟨-, number, -, same⟩
    · cases same
      have coherent : (client.taking move).dispatcher.Coherent := by
        rw [taking_dispatcher]
        exact accounted.coherent
      simpa using (Dispatcher.reported_handle coherent present).2
    · cases same

section Shutdown

variable {rest : List Command} (next : client.commands = .shutdown :: rest) (attempt : Link.Attempt)
  (later : List Move)
include next

theorem stopped_from_shutdown : (client.after (.command attempt :: later)).running = false :=
  (closed_after 0 (closed_shutdown 0 next attempt).1 later).1.stopped

theorem outcomes_from_shutdown :
    ∀ outcome ∈ outcomes number (client.shown (.command attempt :: later)),
      outcome = .error .clientClosed := by
  intro outcome given
  rw [shown_cons, outcomes_append] at given
  obtain ⟨closed, first⟩ := closed_shutdown number next attempt
  rcases List.mem_append.mp given with at_once | afterwards
  · exact first outcome at_once
  · exact (closed_after number closed later).2 outcome afterwards

theorem Accounted.closed_from_shutdown (accounted : Accounted client outputs)
    (waits : number ∈ client.pendingCalls ∨ number ∈ rest.filterMap Command.call? ∨
      client.issued ≤ number ∧ number < (client.after (.command attempt :: later)).issued) :
    outcomes number (outputs ++ client.shown (.command attempt :: later)) =
      [.error .clientClosed] := by
  have queued : number ∈ rest.filterMap Command.call? → number ∈ client.queuedCalls := by
    intro behind
    rw [queuedCalls, next]
    exact behind
  have before : outcomes number outputs = [] := by
    rcases waits with pending | behind | ⟨unissued, -⟩
    · exact accounted.unsettled (.inr pending)
    · exact accounted.unsettled (.inl (queued behind))
    · exact accounted.unissued unissued
  have issued : number < (client.after (.command attempt :: later)).issued := by
    have grown := issued_after client (.command attempt :: later)
    rcases waits with pending | behind | ⟨-, sent⟩
    · have early := accounted.issued_of_waiting (.inr pending)
      omega
    · have early := accounted.issued_of_waiting (.inl (queued behind))
      omega
    · exact sent
  have done := accounted_after accounted (.command attempt :: later)
  obtain ⟨outcome, only⟩ := List.length_eq_one_iff.mp
    (done.settled (stopped_from_shutdown next attempt later) issued)
  rw [outcomes_append, before, List.nil_append] at only ⊢
  have closed := outcomes_from_shutdown number next attempt later outcome
  rw [only] at closed ⊢
  rw [closed (List.mem_singleton_self outcome)]

end Shutdown

/-- Each request that is sent issues a call. From then on every call is queued, pending or settled, and never
more than one of these; the pending ones are those that a report counts. A client that has stopped has
settled all calls, and after a shutdown each call that still waited, and each that is sent later, has ended
with `ClientClosed`. -/
theorem settled_exactly_once (idPrefix : String) (kind : Link.Kind) (policy : Restart.Policy)
    (start : Nat) (moves : List Move) :
    let fresh := new idPrefix kind policy start
    let client := fresh.after moves
    client.issued = (fresh.requests moves).length ∧
    (∀ number : Nat,
      client.queuedCalls.count number + client.pendingCalls.count number +
          (outcomes number (fresh.shown moves)).length =
        if number < client.issued then 1 else 0) ∧
    (∀ attempt rest, client.commands = .stats :: rest →
      ∃ stats, (client.perform (.command attempt)).2 = [.effect (.reported stats)]) ∧
    (∀ move stats, .effect (.reported stats) ∈ (client.perform move).2 →
      stats.pending =
        ((List.range client.issued).filter (· ∈ client.pendingCalls)).length) ∧
    (client.running = false → ∀ number < client.issued,
      ∃ outcome, outcomes number (fresh.shown moves) = [outcome]) ∧
    (∀ attempt rest later, client.commands = .shutdown :: rest →
      let whole := moves ++ .command attempt :: later
      let last := fresh.after whole
      last.running = false ∧
      ∀ number : Nat, number ∈ client.pendingCalls ∨ number ∈ rest.filterMap Command.call? ∨
          client.issued ≤ number ∧ number < last.issued →
        outcomes number (fresh.shown whole) = [.error .clientClosed]) := by
  intro fresh client
  have accounted : Accounted client (fresh.shown moves) := by
    simpa using accounted_after (accounted_new idPrefix kind policy start) moves
  have issued : client.issued = (fresh.requests moves).length := by
    have grown := issued_after fresh moves
    rwa [show fresh.issued = 0 from rfl, Nat.zero_add] at grown
  refine ⟨issued, accounted.once, ?_, ?_, ?_, ?_⟩
  · intro attempt rest next
    refine ⟨client.dispatcher.stats, ?_⟩
    have running := accounted.running (show client.stimulus? (.command attempt) = some .stats by
      simp [stimulus?, next, Command.stimulus])
    exact report_of_stats running next attempt
  · intro move stats shows
    rw [reported_perform accounted shows, ← accounted.length_pendingCalls]
    exact (Call.Pending.length_numbers).symm
  · intro stopped number issued
    exact List.length_eq_one_iff.mp (accounted.settled stopped issued)
  · intro attempt rest later next whole last
    have reached : last = client.after (.command attempt :: later) := after_append _ _ _
    rw [reached, shown_append]
    exact ⟨stopped_from_shutdown next attempt later,
      fun number waits => accounted.closed_from_shutdown number next attempt later waits⟩

end EngineClient.Client
