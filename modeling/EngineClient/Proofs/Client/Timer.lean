import EngineClient.Proofs.Client.Carriage
import EngineClient.Proofs.Dispatcher.Timer

/-!
When a client tries to open a link: for a call, or when the restart timer goes off. The timer keeps to the
latest decision for a delay. It keeps to the latest decision of all as long as no refusal was taken while it
was set.
-/

namespace EngineClient.Client

variable {client : Client} {outputs : List Output}

def Output.decision? : Output → Option Restart.Decision
  | .effect result => result.decision?
  | .poured _ _ => none

def ruling (client : Client) (move : Move) : List Dispatcher.Ruling :=
  ((client.perform move).2.filterMap Output.decision?).map (.mk client.now)

def rulings (client : Client) : List Move → List Dispatcher.Ruling
  | [] => []
  | move :: moves => client.ruling move ++ (client.perform move).1.rulings moves

theorem decisions_abandon (commands : List Command) :
    (commands.flatMap Command.abandon).filterMap Output.decision? = [] :=
  filterMap_abandon (fun _ => rfl) commands

theorem decisions_effects (effects : List Dispatcher.Effect) :
    (effects.map Output.effect).filterMap Output.decision? =
      effects.filterMap Dispatcher.Effect.decision? := by
  rw [List.filterMap_map]
  rfl

theorem ruling_handled (accounted : Accounted client outputs) {move : Move}
    {stimulus : Dispatcher.Stimulus} (handled : client.stimulus? move = some stimulus) :
    client.ruling move =
      Dispatcher.rulings client.now (client.dispatcher.handle client.now stimulus).2 := by
  obtain ⟨abandoned, shown⟩ := shown_handled handled accounted
  rw [ruling, shown, List.filterMap_append, decisions_abandon, decisions_effects, List.append_nil,
    Dispatcher.rulings]

theorem ruling_quiet {move : Move} (unhandled : client.stimulus? move = none) :
    client.ruling move = [] := by
  apply List.map_eq_nil_iff.mpr
  exact (quiet_perform unhandled).filterMap_eq_nil (fun _ _ => rfl) fun _ => rfl

theorem timed_perform (accounted : Accounted client outputs) (move : Move) :
    (client.perform move).1.dispatcher.restartAt = none ∨
      (client.perform move).1.dispatcher.restartAt =
        (client.ruling move).foldl Dispatcher.rearm client.dispatcher.restartAt := by
  cases handled : client.stimulus? move with
  | some stimulus =>
    rw [dispatcher_handled handled, ruling_handled accounted handled]
    exact Dispatcher.timed_handle stimulus
  | none =>
    rw [(quiet_perform handled).dispatcher, ruling_quiet handled]
    exact .inr rfl

theorem timed_after (accounted : ∃ outputs, Accounted client outputs) (moves : List Move) :
    (client.after moves).dispatcher.restartAt = none ∨
      (client.after moves).dispatcher.restartAt =
        (client.rulings moves).foldl Dispatcher.rearm client.dispatcher.restartAt := by
  induction moves generalizing client with
  | nil => exact .inr rfl
  | cons move moves ih =>
    obtain ⟨outputs, accounted⟩ := accounted
    rw [after_cons, rulings, List.foldl_append]
    rcases ih ⟨_, accounted_perform accounted move⟩ with off | ruled
    · exact .inl off
    · rcases timed_perform accounted move with off | set
      · -- A timer that went off is set by later decisions alone.
        rw [ruled, off]
        exact Dispatcher.foldl_rearm_none _ _
      · rw [ruled, set]
        exact .inr rfl

theorem cause_of_attempted (accounted : Accounted client outputs) {move : Move}
    {generation : Link.Generation} {opened : Bool}
    (shows : .effect (.attempted generation opened) ∈ (client.perform move).2) :
    (∃ number request attempt writable,
      client.stimulus? move = some (.call number request attempt writable)) ∨
    (∃ attempt deadline, move = .timer attempt ∧ client.dispatcher.restartAt = some deadline ∧
      deadline ≤ client.now) := by
  obtain ⟨stimulus, handled, reacted⟩ := handled_of_shows accounted shows (by simp)
  rcases Dispatcher.cause_of_attempted reacted with
    ⟨number, request, attempt, writable, rfl⟩ | ⟨attempt, deadline, rfl, set, passed⟩
  · exact .inl ⟨number, request, attempt, writable, handled⟩
  · rcases handled_cases handled with ⟨other, command, rest, -, -, same⟩ |
      ⟨-, generation, signal, rest, -, -, same⟩ | ⟨-, other, rfl, -⟩
    · cases command <;> cases same
    · cases same
    · exact .inr ⟨other, deadline, rfl, set, passed⟩

theorem timer_attempts (running : client.running = true)
    (down : client.dispatcher.connection.live = none) {deadline : Nat}
    (set : client.dispatcher.restartAt = some deadline) (passed : deadline ≤ client.now)
    (peer : Link.Peer) :
    .effect (.attempted (client.dispatcher.connection.generation + 1) true) ∈
      (client.perform (.timer (.ok peer))).2 := by
  have handled : client.stimulus? (.timer (.ok peer)) = some (.timer (.ok ())) := by
    simp [stimulus?, running, Except.map]
  have due : client.dispatcher.isDue client.now = true := by
    simp [Dispatcher.isDue, set, passed]
  have reacted : (client.reaction (.timer (.ok ()))).2 =
      [.attempted (client.dispatcher.connection.generation + 1) true] :=
    congrArg Prod.snd (Dispatcher.restart_opened due down)
  have going : .stopped ∉ (client.reaction (.timer (.ok ()))).2 := by simp [reacted]
  have taken : client.taking (.timer (.ok peer)) = client := rfl
  rw [perform_handled handled, taken, handle_going client _ running going, reacted]
  exact List.mem_singleton.mpr rfl

/-- The latest decision is for a delay, and the delay is over. -/
def Obeyed (rulings : List Dispatcher.Ruling) (now : Nat) : Prop :=
  ∃ time delay, rulings.getLast? = some ⟨time, .after delay⟩ ∧ time + delay.nanos ≤ now

theorem obeyed_iff {earlier refusals : List Dispatcher.Ruling} {time now : Nat} {delay : Duration}
    (refused : ∀ ruling ∈ refusals, ruling.decision.refuses = true)
    (passed : time + delay.nanos ≤ now) :
    Obeyed (earlier ++ ⟨time, .after delay⟩ :: refusals) now ↔ refusals = [] := by
  constructor
  · rintro ⟨since, span, last, -⟩
    by_contra some_refused
    obtain ⟨front, ruling, rfl⟩ := List.eq_nil_or_concat refusals |>.resolve_left some_refused
    -- The last of the refusals is the latest decision of all, and not one for a delay.
    have refuses := refused ruling (by simp)
    rw [List.concat_eq_append, ← List.cons_append, ← List.append_assoc, List.getLast?_concat] at last
    rw [Option.some.inj last] at refuses
    cases refuses
  · rintro rfl
    exact ⟨time, delay, by simp, passed⟩

/-- Every attempt to open a link is made for a call, or by the timer. One by the timer comes when the delay
of the latest decision for a delay is over, and since then the policy has decided for no restart at all; so
it obeys the latest decision just if there was no refusal since. A refusal while the timer is off keeps it
from any attempt until there is a decision for a delay again. -/
theorem attempts_follow_decisions (idPrefix : String) (kind : Link.Kind)
    (policy : Restart.Policy) (start : Nat) (moves : List Move) :
    let fresh := new idPrefix kind policy start
    let client := fresh.after moves
    (∀ move generation opened,
      .effect (.attempted generation opened) ∈ (client.perform move).2 →
        (∃ number request attempt writable,
          client.stimulus? move = some (.call number request attempt writable)) ∨
        (∃ attempt, move = .timer attempt) ∧ ∃ earlier time delay refusals,
          fresh.rulings moves = earlier ++ ⟨time, .after delay⟩ :: refusals ∧
          time + delay.nanos ≤ client.now ∧
          (∀ ruling ∈ refusals, ruling.decision.refuses = true) ∧
          (Obeyed (fresh.rulings moves) client.now ↔ refusals = [])) ∧
    (∀ later attempt generation opened, client.dispatcher.restartAt = none →
      (∀ ruling ∈ client.rulings later, ruling.decision.refuses = true) →
        .effect (.attempted generation opened) ∉
          ((client.after later).perform (.timer attempt)).2) := by
  intro fresh client
  have first : ∃ outputs, Accounted fresh outputs := ⟨_, accounted_new idPrefix kind policy start⟩
  have carried (moves : List Move) : Carried (fresh.after moves) _ _ _ :=
    carried_run idPrefix kind policy start moves
  refine ⟨?_, ?_⟩
  · intro move generation opened shows
    rcases cause_of_attempted (carried moves).accounted shows with call |
      ⟨attempt, deadline, rfl, set, passed⟩
    · exact .inl call
    · refine .inr ⟨⟨attempt, rfl⟩, ?_⟩
      have ruled : (fresh.rulings moves).foldl Dispatcher.rearm none = some deadline := by
        rcases timed_after first moves with off | ruled
        · cases off.symm.trans set
        · exact ruled.symm.trans set
      rcases Dispatcher.cases_of_foldl_rearm ruled with ⟨never, -⟩ |
        ⟨earlier, time, delay, refusals, history, refused, rfl⟩
      · cases never
      · refine ⟨earlier, time, delay, refusals, history, passed, refused, ?_⟩
        rw [history]
        exact obeyed_iff refused passed
  · intro later attempt generation opened off refused shows
    have accounted := (carried (moves ++ later)).accounted
    rw [after_append] at accounted
    rcases cause_of_attempted accounted shows with ⟨number, request, other, writable, call⟩ |
      ⟨other, deadline, same, set, -⟩
    · simp [stimulus?] at call
    · rcases timed_after ⟨_, (carried moves).accounted⟩ later with still | ruled
      · cases still.symm.trans set
      · rw [Dispatcher.foldl_rearm_refused refused, off] at ruled
        cases ruled.symm.trans set

/-- Two calls in a row that find nobody listening, and then nothing but time. -/
def refusedTwice : List Move :=
  [.send (.directoryOpen "/"), .command (.error .closed), .send (.directoryOpen "/"),
    .command (.error .closed), .wait 100000000]

/-- The second failure ends the restarts, and the timer of the first one tries to connect all the same. -/
theorem attempt_after_giving_up :
    let client := new "p" .socket { Restart.Policy.socket with giveUpAfter := some 1 } 0
    client.rulings refusedTwice = [⟨0, .after (.millis 100)⟩, ⟨0, .gaveUp⟩] ∧
      .effect (.attempted 3 true) ∈
        ((client.after refusedTwice).perform (.timer (.ok .silent))).2 ∧
      ¬ Obeyed (client.rulings refusedTwice) (client.after refusedTwice).now := by
  intro client
  have history : client.rulings refusedTwice = [⟨0, .after (.millis 100)⟩, ⟨0, .gaveUp⟩] := by
    decide +kernel
  have running : (client.after refusedTwice).running = true := by decide +kernel
  have down : (client.after refusedTwice).dispatcher.connection.live = none := by decide +kernel
  have set : (client.after refusedTwice).dispatcher.restartAt = some 100000000 := by
    decide +kernel
  have passed : 100000000 ≤ (client.after refusedTwice).now := by decide +kernel
  have second : (client.after refusedTwice).dispatcher.connection.generation = 2 := by
    decide +kernel
  refine ⟨history, ?_, ?_⟩
  · have tried := timer_attempts running down set passed .silent
    rwa [second] at tried
  · rintro ⟨time, delay, last, -⟩
    rw [history] at last
    cases last

end EngineClient.Client
