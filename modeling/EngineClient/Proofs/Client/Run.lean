import EngineClient.Client
import EngineClient.Proofs.Dispatcher.Accounts
import EngineClient.Proofs.Dispatcher.Stops

/-!
Runs of a client, move by move: the state after a run, what it has shown, and what each move does to the
parts of the client.
-/

namespace EngineClient.Client

def after (client : Client) (moves : List Move) : Client := (client.run moves).1

def shown (client : Client) (moves : List Move) : List Output := (client.run moves).2

variable (client : Client)

@[simp] theorem after_nil : client.after [] = client := rfl

@[simp] theorem shown_nil : client.shown [] = [] := rfl

theorem after_cons (move : Move) (moves : List Move) :
    client.after (move :: moves) = (client.perform move).1.after moves := rfl

theorem shown_cons (move : Move) (moves : List Move) :
    client.shown (move :: moves) =
      (client.perform move).2 ++ (client.perform move).1.shown moves := rfl

theorem after_append (first second : List Move) :
    client.after (first ++ second) = (client.after first).after second := by
  induction first generalizing client with
  | nil => rfl
  | cons move rest ih => simp only [List.cons_append, after_cons, ih]

theorem shown_append (first second : List Move) :
    client.shown (first ++ second) = client.shown first ++ (client.after first).shown second := by
  induction first generalizing client with
  | nil => rfl
  | cons move rest ih =>
    simp only [List.cons_append, shown_cons, after_cons, ih, List.append_assoc]

@[simp] theorem after_concat (moves : List Move) (move : Move) :
    client.after (moves ++ [move]) = ((client.after moves).perform move).1 := by
  rw [after_append]
  rfl

theorem exists_move_of_shown {client : Client} {moves : List Move} {output : Output}
    (shows : output ∈ client.shown moves) : ∃ before move later, moves = before ++ move :: later ∧
      output ∈ ((client.after before).perform move).2 := by
  induction moves generalizing client with
  | nil => cases shows
  | cons move moves ih =>
    rw [shown_cons] at shows
    rcases List.mem_append.mp shows with here | behind
    · exact ⟨[], move, moves, rfl, here⟩
    · obtain ⟨before, next, later, split, shows⟩ := ih behind
      exact ⟨move :: before, next, later, by rw [split]; rfl, shows⟩

def stops (effects : List Dispatcher.Effect) : Bool :=
  effects.any fun
    | .stopped => true
    | _ => false

theorem stops_iff {effects : List Dispatcher.Effect} :
    stops effects = true ↔ .stopped ∈ effects := by
  simp only [stops, List.any_eq_true]
  constructor
  · rintro ⟨effect, present, stopped⟩
    cases effect <;> simp at stopped
    exact present
  · intro present
    exact ⟨.stopped, present, rfl⟩

/-- The link once effects are carried out. -/
def linkAfter (attempt : Link.Attempt) (client : Client) (effects : List Dispatcher.Effect) :
    Option Link := (effects.foldl (apply attempt) client).link

theorem foldl_apply (attempt : Link.Attempt) (effects : List Dispatcher.Effect) :
    effects.foldl (apply attempt) client =
      { client with
        link := linkAfter attempt client effects
        running := client.running && !stops effects } := by
  induction effects generalizing client with
  | nil => simp [linkAfter, stops]
  | cons effect rest ih =>
    rw [List.foldl_cons, ih]
    cases effect with
    | attempted generation opened =>
      cases opened <;> cases attempt <;> simp [apply, linkAfter, stops]
    | stopped => simp [apply, linkAfter, stops]
    | queued generation call chunk => simp [apply, linkAfter, stops]
    | settled settlement => simp [apply, linkAfter, stops]
    | delivered message => simp [apply, linkAfter, stops]
    | decided decision => simp [apply, linkAfter, stops]
    | dropped generation => simp [apply, linkAfter, stops]
    | reported stats => simp [apply, linkAfter, stops]

def reaction (stimulus : Dispatcher.Stimulus) : Dispatcher × List Dispatcher.Effect :=
  client.dispatcher.handle client.now stimulus

theorem handle_going (attempt : Link.Attempt) {stimulus : Dispatcher.Stimulus}
    (running : client.running = true) (going : .stopped ∉ (client.reaction stimulus).2) :
    client.handle attempt stimulus =
      ({ client with
          dispatcher := (client.reaction stimulus).1
          link := linkAfter attempt { client with dispatcher := (client.reaction stimulus).1 }
            (client.reaction stimulus).2 },
        (client.reaction stimulus).2.map .effect) := by
  have quiet : stops (client.reaction stimulus).2 = false := by
    exact Bool.eq_false_iff.mpr (mt stops_iff.mp going)
  simp only [reaction] at quiet ⊢
  simp [handle, foldl_apply, quiet, running]

theorem handle_stopped (attempt : Link.Attempt) {stimulus : Dispatcher.Stimulus}
    (stopped : .stopped ∈ (client.reaction stimulus).2) :
    client.handle attempt stimulus =
      ({ client with
          dispatcher := (client.reaction stimulus).1
          link := linkAfter attempt { client with dispatcher := (client.reaction stimulus).1 }
            (client.reaction stimulus).2
          running := false
          commands := [] },
        (client.reaction stimulus).2.map .effect ++
          client.commands.flatMap Command.abandon) := by
  have loud := stops_iff.mpr stopped
  simp only [reaction] at loud ⊢
  simp [handle, foldl_apply, loud]

def Command.call? : Command → Option Call.Number
  | .call number _ => some number
  | _ => none

def Command.stimulus (attempt : Link.Attempt) (link : Option Link) : Command → Dispatcher.Stimulus
  | .call number request =>
    .call number request (attempt.map fun _ => ()) (link.any (!·.isClosed))
  | .stats => .stats
  | .shutdown => .shutdown

variable {client}

theorem command_none (attempt : Link.Attempt) (empty : client.commands = []) :
    client.command attempt = (client, []) := by
  simp [Client.command, empty]

theorem command_some (attempt : Link.Attempt) {command : Command} {rest : List Command}
    (next : client.commands = command :: rest) :
    client.command attempt =
      { client with commands := rest }.handle attempt (command.stimulus attempt client.link) := by
  simp only [Client.command, next]
  cases command <;> rfl

/-- What the dispatcher handles in a move, if anything. -/
def stimulus? (client : Client) : Move → Option Dispatcher.Stimulus
  | .command attempt => client.commands.head?.map (Command.stimulus attempt client.link)
  | .signal =>
    if client.running then client.signals.head?.map fun entry => .signal entry.1 entry.2 else none
  | .timer attempt => if client.running then some (.timer (attempt.map fun _ => ())) else none
  | _ => none

def taking (client : Client) : Move → Client
  | .command _ => { client with commands := client.commands.tail }
  | .signal => { client with signals := client.signals.tail }
  | _ => client

def Move.attempt : Move → Link.Attempt
  | .command attempt => attempt
  | .timer attempt => attempt
  | _ => .error .closed

@[simp] theorem taking_dispatcher (move : Move) :
    (client.taking move).dispatcher = client.dispatcher := by
  cases move <;> rfl

@[simp] theorem taking_now (move : Move) : (client.taking move).now = client.now := by
  cases move <;> rfl

@[simp] theorem taking_issued (move : Move) : (client.taking move).issued = client.issued := by
  cases move <;> rfl

@[simp] theorem taking_running (move : Move) : (client.taking move).running = client.running := by
  cases move <;> rfl

/-- The dispatcher answers to the next command, the next signal and the timer; the last two only while it
runs. -/
theorem handled_cases {move : Move} {stimulus : Dispatcher.Stimulus}
    (handled : client.stimulus? move = some stimulus) :
    (∃ attempt command rest, move = .command attempt ∧ client.commands = command :: rest ∧
      stimulus = command.stimulus attempt client.link) ∨
    (client.running = true ∧ ∃ generation signal rest, move = .signal ∧
      client.signals = (generation, signal) :: rest ∧ stimulus = .signal generation signal) ∨
    (client.running = true ∧ ∃ attempt, move = .timer attempt ∧
      stimulus = .timer (attempt.map fun _ => ())) := by
  cases move with
  | command attempt =>
    cases next : client.commands with
    | nil => simp [stimulus?, next] at handled
    | cons command rest =>
      simp only [stimulus?, next, List.head?_cons, Option.map_some, Option.some.injEq] at handled
      exact .inl ⟨attempt, command, rest, rfl, rfl, handled.symm⟩
  | signal =>
    cases running : client.running with
    | false => simp [stimulus?, running] at handled
    | true =>
      cases next : client.signals with
      | nil => simp [stimulus?, next] at handled
      | cons entry rest =>
        simp only [stimulus?, running, next, if_true, List.head?_cons, Option.map_some,
          Option.some.injEq] at handled
        exact .inr (.inl ⟨rfl, entry.1, entry.2, rest, rfl, rfl, handled.symm⟩)
  | timer attempt =>
    cases running : client.running with
    | false => simp [stimulus?, running] at handled
    | true =>
      simp only [stimulus?, running, if_true, Option.some.injEq] at handled
      exact .inr (.inr ⟨rfl, attempt, rfl, handled.symm⟩)
  | send request => cases handled
  | stats => cases handled
  | shutdown => cases handled
  | read => cases handled
  | pour amount => cases handled
  | arrive arrival => cases handled
  | report generation signal => cases handled
  | wait nanos => cases handled

/-- A move that the dispatcher answers takes something off a queue and handles it. -/
theorem perform_handled {move : Move} {stimulus : Dispatcher.Stimulus}
    (handled : client.stimulus? move = some stimulus) :
    client.perform move = (client.taking move).handle move.attempt stimulus := by
  rcases handled_cases handled with ⟨attempt, command, rest, rfl, next, rfl⟩ |
    ⟨running, generation, signal, rest, rfl, next, rfl⟩ | ⟨running, attempt, rfl, rfl⟩
  · rw [perform, command_some attempt next]
    simp [taking, next, Move.attempt]
  · simp [perform, Client.signal, next, running, taking, Move.attempt]
  · simp [perform, timer, running, taking, Move.attempt]

theorem exists_identify (client : Client) (request : Request) :
    ∃ counter, (client.identify request).2 = { client with counter } := by
  unfold identify
  split
  · exact ⟨client.counter, rfl⟩
  · exact ⟨client.counter + 1, rfl⟩

theorem send_going {request : Request} {counter : UInt64} (running : client.running = true)
    (identified : (client.identify request).2 = { client with counter }) :
    client.send request =
      ({ client with
          counter
          issued := client.issued + 1
          commands := client.commands ++
            [.call client.issued (client.identify request).1] }, []) := by
  simp [send, identified, running]

theorem send_stopped {request : Request} {counter : UInt64} (stopped : client.running = false)
    (identified : (client.identify request).2 = { client with counter }) :
    client.send request =
      ({ client with counter, issued := client.issued + 1 },
        [.effect (.settled ⟨client.issued, .error .clientClosed⟩)]) := by
  simp [send, identified, stopped]

def issuing (client : Client) : Move → List Request
  | .send request => [(client.identify request).1]
  | _ => []

/-- What a move does that the dispatcher has no part in. -/
inductive Quiet (client : Client) : Move → Client → List Output → Prop
  | nothing {move : Move} (unissued : client.issuing move = []) : Quiet client move client []
  | sent (request : Request) (counter : UInt64) (running : client.running = true) :
      Quiet client (.send request)
        { client with
          counter
          issued := client.issued + 1
          commands := client.commands ++ [.call client.issued (client.identify request).1] } []
  | refused (request : Request) (counter : UInt64) (stopped : client.running = false) :
      Quiet client (.send request) { client with counter, issued := client.issued + 1 }
        [.effect (.settled ⟨client.issued, .error .clientClosed⟩)]
  | asked {move : Move} {command : Command} (unissued : client.issuing move = [])
      (other : command.call? = none) (running : client.running = true) :
      Quiet client move { client with commands := client.commands ++ [command] } []
  | ignored (rest : List (Link.Generation × Link.Signal)) (stopped : client.running = false) :
      Quiet client .signal { client with signals := rest } []
  | read {link after : Link} {signal : Option Link.Signal} (there : client.link = some link)
      (stepped : link.read? = some (signal, after)) :
      Quiet client .read (client.report after signal) []
  | poured {link after : Link} {amount : Nat} {signal : Option Link.Signal}
      (there : client.link = some link) (stepped : link.pour? amount = some (signal, after)) :
      Quiet client (.pour amount) (client.report after signal)
        [.poured link.generation (after.writer.taken.drop link.writer.taken.length)]
  | arrived (arrival : Link.Arrival) :
      Quiet client (.arrive arrival) { client with link := client.link.map (·.receive arrival) } []
  | reported (generation : Link.Generation) (signal : Link.Signal) :
      Quiet client (.report generation signal)
        { client with signals := client.signals ++ [(generation, signal)] } []
  | waited (nanos : Nat) : Quiet client (.wait nanos) { client with now := client.now + nanos } []

theorem quiet_enqueue {move : Move} {command : Command} (unissued : client.issuing move = [])
    (other : command.call? = none) : Quiet client move (client.enqueue command) [] := by
  rw [enqueue]
  split_ifs with running
  · exact .asked unissued other running
  · exact .nothing unissued

theorem quiet_perform {move : Move} (unhandled : client.stimulus? move = none) :
    Quiet client move (client.perform move).1 (client.perform move).2 := by
  cases move with
  | send request =>
    obtain ⟨counter, identified⟩ := exists_identify client request
    cases running : client.running with
    | true =>
      rw [perform, send_going running identified]
      exact .sent request counter running
    | false =>
      rw [perform, send_stopped running identified]
      exact .refused request counter running
  | stats => exact quiet_enqueue rfl rfl
  | shutdown => exact quiet_enqueue rfl rfl
  | command attempt =>
    have empty : client.commands = [] := by simpa [stimulus?] using unhandled
    rw [perform, command_none attempt empty]
    exact .nothing rfl
  | signal =>
    cases next : client.signals with
    | nil =>
      simp only [perform, signal, next]
      exact .nothing rfl
    | cons entry rest =>
      have stopped : client.running = false := by simpa [stimulus?, next] using unhandled
      have ignored : client.signal = ({ client with signals := rest }, []) := by
        simp [signal, next, stopped]
      rw [perform, ignored]
      exact .ignored rest stopped
  | timer attempt =>
    have stopped : client.running = false := by simpa [stimulus?] using unhandled
    simp only [perform, timer, stopped]
    exact .nothing rfl
  | read =>
    cases there : client.link with
    | none =>
      simp only [perform, read, there]
      exact .nothing rfl
    | some link =>
      cases stepped : link.read? with
      | none =>
        simp only [perform, read, there, stepped]
        exact .nothing rfl
      | some step =>
        simp only [perform, read, there, stepped]
        exact .read there stepped
  | pour amount =>
    cases there : client.link with
    | none =>
      simp only [perform, pour, there]
      exact .nothing rfl
    | some link =>
      cases stepped : link.pour? amount with
      | none =>
        simp only [perform, pour, there, stepped]
        exact .nothing rfl
      | some step =>
        simp only [perform, pour, there, stepped]
        exact .poured there stepped
  | arrive arrival => exact .arrived arrival
  | report generation signal => exact .reported generation signal
  | wait nanos => exact .waited nanos

section Quiet

variable {move : Move} {after : Client} {shown : List Output} (quiet : Quiet client move after shown)
include quiet

theorem Quiet.dispatcher : after.dispatcher = client.dispatcher := by
  cases quiet <;> rfl

theorem Quiet.running : after.running = client.running := by
  cases quiet <;> rfl

theorem Quiet.shows {output : Output} (present : output ∈ shown) :
    (∃ generation bytes, output = .poured generation bytes) ∨
      client.running = false ∧ (∃ request, move = .send request) ∧
        output = .effect (.settled ⟨client.issued, .error .clientClosed⟩) := by
  cases quiet with
  | refused request counter stopped =>
    exact .inr ⟨stopped, ⟨request, rfl⟩, List.mem_singleton.mp present⟩
  | poured there stepped => exact .inl ⟨_, _, List.mem_singleton.mp present⟩
  | _ => cases present

theorem Quiet.settles {effect : Dispatcher.Effect} (shows : .effect effect ∈ shown) :
    client.running = false ∧ effect = .settled ⟨client.issued, .error .clientClosed⟩ := by
  rcases quiet.shows shows with ⟨generation, bytes, same⟩ | ⟨stopped, -, same⟩
  · cases same
  · exact ⟨stopped, Output.effect.inj same⟩

theorem Quiet.filterMap_eq_nil {α : Type} {read : Output → Option α}
    (poured : ∀ generation bytes, read (.poured generation bytes) = none)
    (settled : ∀ settlement, read (.effect (.settled settlement)) = none) :
    shown.filterMap read = [] := by
  apply List.filterMap_eq_nil_iff.mpr
  intro output present
  rcases quiet.shows present with ⟨generation, bytes, rfl⟩ | ⟨-, -, rfl⟩
  · exact poured generation bytes
  · exact settled _

theorem Quiet.issued : after.issued = client.issued + (client.issuing move).length := by
  cases quiet with
  | nothing unissued => rw [unissued]; rfl
  | asked unissued other running => rw [unissued]; rfl
  | _ => rfl

end Quiet

/-- The requests of a run in the order in which they are issued, so that each stands at the number of its
call. -/
def requests (client : Client) : List Move → List Request
  | [] => []
  | move :: moves => client.issuing move ++ (client.perform move).1.requests moves

theorem issued_handle (attempt : Link.Attempt) (stimulus : Dispatcher.Stimulus) :
    (client.handle attempt stimulus).1.issued = client.issued := by
  simp only [handle, foldl_apply]
  split <;> rfl

theorem dispatcher_handle (attempt : Link.Attempt) (stimulus : Dispatcher.Stimulus) :
    (client.handle attempt stimulus).1.dispatcher = (client.reaction stimulus).1 := by
  simp only [handle, foldl_apply, reaction]
  split <;> rfl

theorem issuing_handled {move : Move} {stimulus : Dispatcher.Stimulus}
    (handled : client.stimulus? move = some stimulus) : client.issuing move = [] := by
  rcases handled_cases handled with ⟨attempt, command, rest, rfl, -, -⟩ |
    ⟨-, generation, signal, rest, rfl, -, -⟩ | ⟨-, attempt, rfl, -⟩ <;> rfl

theorem issued_perform (move : Move) :
    (client.perform move).1.issued = client.issued + (client.issuing move).length := by
  cases handled : client.stimulus? move with
  | some stimulus =>
    rw [perform_handled handled, issued_handle, issuing_handled handled, taking_issued]
    rfl
  | none => exact (quiet_perform handled).issued

theorem issued_after (client : Client) (moves : List Move) :
    (client.after moves).issued = client.issued + (client.requests moves).length := by
  induction moves generalizing client with
  | nil => rfl
  | cons move rest ih =>
    rw [after_cons, ih, issued_perform, requests, List.length_append, Nat.add_assoc]

def queuedCalls (client : Client) : List Call.Number := client.commands.filterMap Command.call?

def pendingCalls (client : Client) : List Call.Number := client.dispatcher.pending.numbers

def Output.outcome? (number : Call.Number) : Output → Option Call.Outcome
  | .effect result => result.outcome? number
  | .poured _ _ => none

def outcomes (number : Call.Number) (outputs : List Output) : List Call.Outcome :=
  outputs.filterMap (Output.outcome? number)

@[simp] theorem outcomes_nil (number : Call.Number) : outcomes number [] = [] := rfl

@[simp] theorem outcomes_append (number : Call.Number) (first second : List Output) :
    outcomes number (first ++ second) = outcomes number first ++ outcomes number second :=
  List.filterMap_append

@[simp] theorem outcomes_effects (number : Call.Number) (effects : List Dispatcher.Effect) :
    outcomes number (effects.map .effect) = Dispatcher.outcomes number effects := by
  simp only [outcomes, Dispatcher.outcomes, List.filterMap_map]
  rfl

theorem shows_of_outcome {number : Call.Number} {outcome : Call.Outcome} {outputs : List Output}
    (given : outcome ∈ outcomes number outputs) :
    .effect (.settled ⟨number, outcome⟩) ∈ outputs := by
  obtain ⟨output, present, settles⟩ := List.mem_filterMap.mp given
  cases output with
  | poured generation bytes => cases settles
  | effect effect =>
    have settled := Dispatcher.settled_of_mem_outcomes number
      (List.mem_filterMap.mpr ⟨effect, List.mem_singleton_self effect, settles⟩)
    rw [List.mem_singleton.mp settled]
    exact present

@[simp] theorem outcomes_abandon (number : Call.Number) (commands : List Command) :
    outcomes number (commands.flatMap Command.abandon) =
      List.replicate ((commands.filterMap Command.call?).count number)
        (.error .clientClosed) := by
  induction commands with
  | nil => rfl
  | cons command rest ih =>
    rw [List.flatMap_cons, outcomes_append, ih]
    cases command with
    | stats => simp [Command.abandon, List.filterMap_cons, Command.call?]
    | shutdown => simp [Command.abandon, List.filterMap_cons, Command.call?]
    | call other request =>
      by_cases same : other = number
      · simp [Command.abandon, Command.call?, outcomes, Output.outcome?,
          Dispatcher.Effect.outcome?, same, List.replicate_succ]
      · simp [Command.abandon, Command.call?, outcomes, Output.outcome?,
          Dispatcher.Effect.outcome?, same]

theorem mem_handle {attempt : Link.Attempt} {stimulus : Dispatcher.Stimulus} {output : Output}
    (running : client.running = true) (shows : output ∈ (client.handle attempt stimulus).2) :
    (∃ effect ∈ (client.reaction stimulus).2, output = .effect effect) ∨
    .stopped ∈ (client.reaction stimulus).2 ∧ ∃ number ∈ client.queuedCalls,
      output = .effect (.settled ⟨number, .error .clientClosed⟩) := by
  by_cases stopped : .stopped ∈ (client.reaction stimulus).2
  · rw [handle_stopped _ attempt stopped] at shows
    rcases List.mem_append.mp shows with shown | abandoned
    · obtain ⟨effect, present, rfl⟩ := List.mem_map.mp shown
      exact .inl ⟨effect, present, rfl⟩
    · obtain ⟨command, present, ends⟩ := List.mem_flatMap.mp abandoned
      cases command with
      | call number request =>
        have queued : number ∈ client.queuedCalls := by
          exact List.mem_filterMap.mpr ⟨.call number request, present, rfl⟩
        exact .inr ⟨stopped, number, queued, List.mem_singleton.mp ends⟩
      | stats => cases ends
      | shutdown => cases ends
  · rw [handle_going _ attempt running stopped] at shows
    obtain ⟨effect, present, rfl⟩ := List.mem_map.mp shows
    exact .inl ⟨effect, present, rfl⟩

end EngineClient.Client
