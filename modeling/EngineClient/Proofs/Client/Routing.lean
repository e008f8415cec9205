import EngineClient.Proofs.Client.Chunks
import EngineClient.Proofs.Dispatcher.Routing
import EngineClient.Proofs.Frame.Schedules

/-!
No inbound message is lost, duplicated or misrouted: over a whole run, the frames that a link brings while
it is live are the frames at the front of its bytes, each of them has one fate, and what is delivered and
settled is exactly what these fates say.
-/

namespace EngineClient.Client

open Dispatcher (Receipt framesOn)

def Output.message? : Output → Option Inbound
  | .effect result => result.message?
  | .poured _ _ => none

def deliveries (outputs : List Output) : List Inbound := outputs.filterMap Output.message?

def hearing (client : Client) (move : Move) : List Receipt :=
  ((client.stimulus? move).map client.dispatcher.hearing).getD []

/-- The frames that a run has brought in on links while they were live, in order. -/
def heard (client : Client) : List Move → List Receipt
  | [] => []
  | move :: moves => client.hearing move ++ (client.perform move).1.heard moves

theorem deliveries_append (first second : List Output) :
    deliveries (first ++ second) = deliveries first ++ deliveries second :=
  List.filterMap_append

theorem deliveries_effects (effects : List Dispatcher.Effect) :
    deliveries (effects.map .effect) = Dispatcher.deliveries effects := by
  simp only [deliveries, Dispatcher.deliveries, List.filterMap_map]
  rfl

theorem deliveries_abandon (commands : List Command) :
    deliveries (commands.flatMap Command.abandon) = [] :=
  filterMap_abandon (fun _ => rfl) commands

variable {client : Client} {outputs : List Output} {requests : List Request}
  {received : List Receipt} {brought : Link.Generation → Bytes}

theorem hearing_handled {move : Move} {stimulus : Dispatcher.Stimulus}
    (handled : client.stimulus? move = some stimulus) :
    client.hearing move = client.dispatcher.hearing stimulus := by
  rw [hearing, handled]
  rfl

theorem hearing_quiet {move : Move} (unhandled : client.stimulus? move = none) :
    client.hearing move = [] := by
  rw [hearing, unhandled]
  rfl

theorem deliveries_perform (accounted : Accounted client outputs) (move : Move) :
    deliveries (client.perform move).2 =
      (client.hearing move).filterMap fun receipt => receipt.fate.message? := by
  cases handled : client.stimulus? move with
  | none =>
    rw [hearing_quiet handled]
    exact (quiet_perform handled).filterMap_eq_nil (fun _ _ => rfl) fun _ => rfl
  | some stimulus =>
    obtain ⟨abandoned, shown⟩ := shown_handled handled accounted
    calc
      deliveries (client.perform move).2 =
          Dispatcher.deliveries (client.dispatcher.handle client.now stimulus).2 := by
        rw [shown, deliveries_append, deliveries_effects, deliveries_abandon, List.append_nil]
      _ = (client.dispatcher.hearing stimulus).filterMap fun receipt => receipt.fate.message? :=
        Dispatcher.deliveries_handle accounted.coherent stimulus
      _ = (client.hearing move).filterMap fun receipt => receipt.fate.message? := by
        rw [hearing_handled handled]

theorem deliveries_shown (accounted : Accounted client outputs) (moves : List Move) :
    deliveries (client.shown moves) =
      (client.heard moves).filterMap fun receipt => receipt.fate.message? := by
  induction moves generalizing client outputs with
  | nil => rfl
  | cons move moves ih =>
    rw [shown_cons, heard, deliveries_append, List.filterMap_append,
      deliveries_perform accounted, ih (accounted_perform accounted move)]

theorem settled_heard (accounted : Accounted client outputs) {moves : List Move} {receipt : Receipt}
    (present : receipt ∈ client.heard moves) {id : String} {settlement : Call.Settlement}
    (claimed : receipt.fate = .claimed id settlement) :
    .effect (.settled settlement) ∈ client.shown moves := by
  induction moves generalizing client outputs with
  | nil => cases present
  | cons move moves ih =>
    rw [shown_cons]
    rcases List.mem_append.mp present with now | later
    · cases handled : client.stimulus? move with
      | none =>
        rw [hearing_quiet handled] at now
        cases now
      | some stimulus =>
        rw [hearing_handled handled] at now
        exact List.mem_append_left _
          (shows_effect handled accounted (Dispatcher.settled_hearing now claimed))
    · exact List.mem_append_right _ (ih (accounted_perform accounted move) later)

theorem Accounted.only_outcome (accounted : Accounted client outputs)
    {settlement : Call.Settlement} (shows : .effect (.settled settlement) ∈ outputs) :
    outcomes settlement.call outputs = [settlement.outcome] := by
  have given : settlement.outcome ∈ outcomes settlement.call outputs :=
    List.mem_filterMap.mpr ⟨_, shows, if_pos rfl⟩
  have once := accounted.at_most_once settlement.call
  have positive := List.length_pos_of_mem given
  have single : (outcomes settlement.call outputs).length = 1 := by omega
  obtain ⟨outcome, only⟩ := List.length_eq_one_iff.mp single
  rw [only] at given ⊢
  rw [List.mem_singleton.mp given]

/-- What holds of a client between any two moves, given the frames that the run has heard and the bytes that
links have brought: the frames heard on each link are those at the front of its bytes, and behind them the
decoder holds what the live one has brought. -/
structure Heard (client : Client) (received : List Receipt) (brought : Link.Generation → Bytes) :
    Prop where
  distinct : ∀ receipt ∈ received, receipt.waiting.Distinct
  front : ∀ generation, ∃ rest,
    Frame.Decoder.Splits (brought generation) (framesOn generation received) rest
  current : ∀ generation, client.dispatcher.connection.live = some generation →
    Frame.Decoder.Splits (brought generation) (framesOn generation received)
      client.dispatcher.decoder.buffer

theorem heard_new (idPrefix : String) (kind : Link.Kind) (policy : Restart.Policy) (start : Nat) :
    Heard (new idPrefix kind policy start) [] (fun _ => []) where
  distinct := List.forall_mem_nil _
  front _ := ⟨[], Frame.Decoder.splits_nil Frame.incomplete_nil⟩
  current _ impossible := by cases impossible

theorem Heard.framesOn_nil (heard : Heard client received brought) {generation : Link.Generation}
    (nothing : brought generation = []) : framesOn generation received = [] := by
  obtain ⟨rest, split⟩ := heard.front generation
  rw [nothing] at split
  exact (Frame.Decoder.splits_unique split
    (Frame.Decoder.splits_nil Frame.incomplete_nil)).1

section Handled

variable {move : Move} {stimulus : Dispatcher.Stimulus}
  (handled : client.stimulus? move = some stimulus)
include handled

theorem Heard.behind (heard : Heard client received brought) (coherent : client.dispatcher.Coherent)
    {generation : Link.Generation} (live : client.dispatcher.connection.live = some generation) :
    ∃ rest, Frame.Decoder.Splits
        (client.dispatcher.decoder.buffer ++ client.receiving generation move)
        (framesOn generation (client.hearing move)) rest ∧
      Frame.Decoder.Splits (brought generation ++ client.receiving generation move)
        (framesOn generation (received ++ client.hearing move)) rest := by
  rw [receiving_handled handled, hearing_handled handled, Dispatcher.framesOn_append]
  obtain ⟨rest, next⟩ := Dispatcher.splits_hearing coherent live stimulus
  exact ⟨rest, next, (heard.current generation live).extend next⟩

theorem unheard_handled {generation : Link.Generation}
    (stale : client.dispatcher.connection.live ≠ some generation) :
    client.receiving generation move = [] ∧ framesOn generation (client.hearing move) = [] := by
  rw [receiving_handled handled, hearing_handled handled]
  exact Dispatcher.unheard fun _ _ => stale

theorem heard_handled (heard : Heard client received brought)
    (carried : Carried client requests outputs brought) :
    Heard (client.perform move).1 (received ++ client.hearing move)
      (fun generation => brought generation ++ client.receiving generation move) := by
  have coherent := carried.accounted.coherent
  refine ⟨?_, ?_, ?_⟩
  · intro receipt present
    rcases List.mem_append.mp present with before | now
    · exact heard.distinct receipt before
    · rw [hearing_handled handled] at now
      obtain ⟨chunk, -, -, row⟩ := Dispatcher.mem_hearing now
      exact Dispatcher.distinct_receipts coherent.distinct receipt row
  · intro generation
    by_cases live : client.dispatcher.connection.live = some generation
    · obtain ⟨rest, -, split⟩ := heard.behind handled coherent live
      exact ⟨rest, split⟩
    · obtain ⟨nothing, none_heard⟩ := unheard_handled handled live
      rw [nothing, Dispatcher.framesOn_append, none_heard, List.append_nil, List.append_nil]
      exact heard.front generation
  · intro generation live
    have after := (accounted_handled carried.accounted handled).coherent
    rw [dispatcher_handled handled] at live after ⊢
    rcases Dispatcher.fed_handle coherent live with
      ⟨down, newest, empty⟩ | ⟨before, frames, fits, split⟩
    · -- A link that has just been opened has brought nothing, so that no frame was heard on it.
      have stale : client.dispatcher.connection.live ≠ some generation := by
        rw [down]
        simp
      have nothing : brought generation = [] :=
        carried.ahead generation (newest ▸ Nat.lt_succ_self _)
      obtain ⟨none_brought, none_heard⟩ := unheard_handled handled stale
      rw [none_brought, Dispatcher.framesOn_append, none_heard, heard.framesOn_nil nothing,
        nothing, empty]
      exact Frame.Decoder.splits_nil Frame.incomplete_nil
    · obtain ⟨rest, next, whole⟩ := heard.behind handled coherent before
      rw [← receiving_handled handled] at split
      have held := Frame.Decoder.splits_of_incomplete fits after.incomplete
      rw [← split] at held
      obtain ⟨-, rfl⟩ := Frame.Decoder.splits_unique next held
      exact whole

end Handled

theorem heard_perform (heard : Heard client received brought)
    (carried : Carried client requests outputs brought) (move : Move) :
    Heard (client.perform move).1 (received ++ client.hearing move)
      (fun generation => brought generation ++ client.receiving generation move) := by
  cases handled : client.stimulus? move with
  | some stimulus => exact heard_handled handled heard carried
  | none =>
    have nothing (generation : Link.Generation) : client.receiving generation move = [] := by
      simp [receiving, handled]
    have same := (quiet_perform handled).dispatcher
    simp only [nothing, hearing_quiet handled, List.append_nil]
    exact ⟨heard.distinct, heard.front, same ▸ heard.current⟩

theorem heard_after (heard : Heard client received brought)
    (carried : Carried client requests outputs brought) (moves : List Move) :
    Heard (client.after moves) (received ++ client.heard moves)
      (fun generation => brought generation ++ client.delivered generation moves) := by
  induction moves generalizing client requests outputs received brought with
  | nil => simpa [Client.heard, delivered] using heard
  | cons move moves ih =>
    have later := ih (heard_perform heard carried move) (carried_perform carried move)
    simpa only [after_cons, Client.heard, delivered, List.append_assoc] using later

theorem heard_run (idPrefix : String) (kind : Link.Kind) (policy : Restart.Policy) (start : Nat)
    (moves : List Move) :
    let fresh := new idPrefix kind policy start
    Heard (fresh.after moves) (fresh.heard moves)
      (fun generation => fresh.delivered generation moves) := by
  simpa using heard_after (heard_new idPrefix kind policy start)
    (carried_new idPrefix kind policy start) moves

section Signal

variable {generation : Link.Generation} {rest : List (Link.Generation × Link.Signal)}

theorem perform_data {chunk : Bytes} (next : client.signals = (generation, .data chunk) :: rest) :
    client.perform .signal =
      ((client.takeData generation chunk).1.facing rest, (client.takeData generation chunk).2) := by
  have same : client.facing ((generation, .data chunk) :: rest) = client := by
    rw [← next]
    rfl
  rw [← signal_takeData, same]
  rfl

theorem Accounted.running_of_live (accounted : Accounted client outputs)
    (live : client.dispatcher.connection.live = some generation) : client.running = true := by
  by_contra stopped
  have rests := (accounted.rests (by simpa using stopped)).2
  rw [rests.live] at live
  cases live

theorem perform_stale {signal : Link.Signal} (next : client.signals = (generation, signal) :: rest)
    (stale : client.dispatcher.connection.live ≠ some generation) :
    client.perform .signal = (client.facing rest, []) := by
  cases running : client.running with
  | false => simp [perform, Client.signal, next, running, facing]
  | true =>
    have goes : (client.facing rest).running = true := running
    have ignored : (client.facing rest).reaction (.signal generation signal) =
        ((client.facing rest).dispatcher, []) := Dispatcher.signal_stale stale
    calc
      client.perform .signal =
          (client.facing rest).handle (.error .closed) (.signal generation signal) := by
        simp [perform, Client.signal, next, running, facing]
      _ = (client.facing rest, []) := by
        rw [handle_carryOut, ignored, carryOut_nothing _ goes]

theorem hearing_stale {signal : Link.Signal} (next : client.signals = (generation, signal) :: rest)
    (stale : client.dispatcher.connection.live ≠ some generation) :
    client.hearing .signal = [] := by
  cases running : client.running with
  | false => exact hearing_quiet (by simp [stimulus?, running])
  | true =>
    have handled : client.stimulus? .signal = some (.signal generation signal) := by
      simp [stimulus?, running, next]
    rw [hearing_handled handled, Dispatcher.hearing_stale stale]

theorem perform_behind {chunk : Bytes} (next : client.signals = (generation, .data chunk) :: rest)
    (lost : (client.perform .signal).1.dispatcher.connection.live = none) (more : Bytes) :
    (client.facing ((generation, .data (chunk ++ more)) :: rest)).perform .signal =
      client.perform .signal := by
  rw [perform_data next] at lost ⊢
  have stale : (client.takeData generation chunk).1.dispatcher.connection.live ≠ some generation := by
    rw [show (client.takeData generation chunk).1.dispatcher.connection.live = none from lost]
    simp
  refine (signal_takeData (chunk ++ more) rest).trans ?_
  rw [takeData_append, takeData_stale stale, List.append_nil]

/-- Data on the live link: each of its frames comes to its fate. Without a fault of the framing nothing
else happens and the link goes on. A fault drops the link; nothing is delivered after it, whatever stands
behind it. -/
theorem perform_receipts (accounted : Accounted client outputs) {chunk : Bytes}
    (next : client.signals = (generation, .data chunk) :: rest)
    (live : client.dispatcher.connection.live = some generation) :
    let items := (client.dispatcher.decoder.step chunk).1
    let frames := Frame.Decoder.framesOf items
    let effects := (Dispatcher.effectsOf (client.hearing .signal)).map Output.effect
    let after := client.perform .signal
    client.hearing .signal = Dispatcher.receipts generation client.dispatcher.pending frames ∧
    ((items = frames.map .ok ∧ after.2 = effects ∧
        after.1.dispatcher.pending = Dispatcher.remaining client.dispatcher.pending frames ∧
        after.1.dispatcher.connection.live = some generation) ∨
      ∃ fault ends, items = frames.map .ok ++ [.error fault] ∧
        after.2 = effects ++ .effect (.dropped generation) :: ends ∧ deliveries ends = [] ∧
        after.1.dispatcher.connection.live = none ∧
        ∀ more, (client.facing ((generation, .data (chunk ++ more)) :: rest)).perform .signal =
          after) := by
  intro items frames effects after
  have running := accounted.running_of_live live
  have handled : client.stimulus? .signal = some (.signal generation (.data chunk)) := by
    simp [stimulus?, running, next]
  have received : client.hearing .signal =
      Dispatcher.receipts generation client.dispatcher.pending frames := by
    rw [hearing_handled handled, Dispatcher.hearing_data live]
  have reached : after.1.dispatcher = (client.reaction (.signal generation (.data chunk))).1 :=
    dispatcher_handled handled
  refine ⟨received, ?_⟩
  rcases Dispatcher.signal_receipts live client.now chunk with
    ⟨clean, shown, pending, goes_on⟩ | ⟨fault, ends, faulty, shown, lost, silent⟩
  · have effects_eq : (client.reaction (.signal generation (.data chunk))).2 =
        Dispatcher.effectsOf (client.hearing .signal) := by
      rw [received]
      exact shown
    have going : .stopped ∉ (client.reaction (.signal generation (.data chunk))).2 := by
      rw [effects_eq]
      exact Dispatcher.stopped_effectsOf _
    have performed := congrArg Prod.snd (perform_data next)
    rw [takeData, if_pos running, carryOut_going _ running going, effects_eq] at performed
    refine .inl ⟨clean, performed, ?_, ?_⟩
    · rw [reached]
      exact pending
    · rw [reached]
      exact goes_on
  · have effects_eq : (client.dispatcher.handle client.now (.signal generation (.data chunk))).2 =
        Dispatcher.effectsOf (client.hearing .signal) ++ .dropped generation :: ends := by
      rw [received]
      exact shown
    -- The decision that follows a fault may stop the client, which abandons the commands that wait.
    obtain ⟨abandoned, performed⟩ := shown_handled handled accounted
    rw [effects_eq, List.map_append, List.append_assoc] at performed
    have down : after.1.dispatcher.connection.live = none := by
      rw [reached]
      exact lost
    refine .inr ⟨fault, ends.map Output.effect ++ abandoned.flatMap Command.abandon, faulty,
      performed, ?_, down, perform_behind next down⟩
    rw [deliveries_append, deliveries_effects, Dispatcher.deliveries_eq_nil silent,
      deliveries_abandon]
    rfl

end Signal

/-- No inbound message is lost, duplicated or misrouted. In any run, the frames heard on a link are those at
the front of what it brings while it is live. Each is skipped if it cannot be read, claimed if it answers a
call that waits at that moment, and delivered otherwise; a claim settles that call, once in the whole run,
and takes no other out. What is delivered are the messages of the frames that are, in order. Data on
the live link does this and nothing else, up to a fault of the framing; what stands behind a fault, and
any signal of another link, does nothing. -/
theorem inbound_routed_once (idPrefix : String) (kind : Link.Kind) (policy : Restart.Policy)
    (start : Nat) (moves : List Move) :
    let fresh := new idPrefix kind policy start
    let client := fresh.after moves
    let outputs := fresh.shown moves
    let heard := fresh.heard moves
    (∀ generation, ∃ rest, Frame.Decoder.Splits (fresh.delivered generation moves)
      (framesOn generation heard) rest) ∧
    (∀ receipt ∈ heard,
      (receipt.fate = .skipped ↔ receipt.frame.Unreadable) ∧
      (∀ id settlement, receipt.fate = .claimed id settlement ↔
        ∃ reply, receipt.frame.Answers id reply ∧
          (id, settlement.call) ∈ receipt.waiting.calls ∧
          settlement.outcome = Call.outcomeOf reply) ∧
      (∀ message, receipt.fate = .delivered message ↔
        receipt.frame.inbound = .ok message ∧ message.Unclaimed receipt.waiting)) ∧
    (∀ receipt ∈ heard, ∀ id settlement, receipt.fate = .claimed id settlement →
      outcomes settlement.call outputs = [settlement.outcome] ∧
      (∃ before later, receipt.waiting.calls = before ++ (id, settlement.call) :: later ∧
        (receipt.fate.leaves receipt.waiting).calls = before ++ later) ∧
      ∃ reply, receipt.frame.Answers id reply ∧ ∀ issued gone,
        Call.Desk.apply ⟨receipt.waiting, issued, gone⟩ (.resolve reply) =
          (.resolved, [settlement], ⟨receipt.fate.leaves receipt.waiting, issued, gone⟩)) ∧
    deliveries outputs = heard.filterMap (fun receipt => receipt.fate.message?) ∧
    (∀ generation chunk rest, client.signals = (generation, .data chunk) :: rest →
      client.dispatcher.connection.live = some generation →
      let items := (client.dispatcher.decoder.step chunk).1
      let frames := Frame.Decoder.framesOf items
      let effects := (Dispatcher.effectsOf (client.hearing .signal)).map Output.effect
      let after := client.perform .signal
      client.hearing .signal = Dispatcher.receipts generation client.dispatcher.pending frames ∧
      ((items = frames.map .ok ∧ after.2 = effects ∧
          after.1.dispatcher.pending = Dispatcher.remaining client.dispatcher.pending frames ∧
          after.1.dispatcher.connection.live = some generation) ∨
        ∃ fault ends, items = frames.map .ok ++ [.error fault] ∧
          after.2 = effects ++ .effect (.dropped generation) :: ends ∧ deliveries ends = [] ∧
          after.1.dispatcher.connection.live = none ∧
          ∀ more, (client.facing ((generation, .data (chunk ++ more)) :: rest)).perform .signal =
            after)) ∧
    (∀ generation signal rest, client.signals = (generation, signal) :: rest →
      client.dispatcher.connection.live ≠ some generation →
      client.hearing .signal = [] ∧ client.perform .signal = (client.facing rest, [])) := by
  intro fresh client outputs heard
  have begun : Accounted fresh [] := accounted_new idPrefix kind policy start
  have accounted : Accounted client outputs := by simpa using accounted_after begun moves
  have frames : Heard client heard fun generation => fresh.delivered generation moves :=
    heard_run idPrefix kind policy start moves
  refine ⟨frames.front, ?_, ?_, deliveries_shown begun moves, ?_, ?_⟩
  · intro receipt present
    exact ⟨Dispatcher.fateOf_skipped,
      fun id settlement => Dispatcher.fateOf_claimed (frames.distinct receipt present),
      fun message => Dispatcher.fateOf_delivered⟩
  · intro receipt present id settlement claimed
    have distinct := frames.distinct receipt present
    exact ⟨accounted.only_outcome (settled_heard begun present claimed),
      Dispatcher.leaves_claimed distinct claimed, Dispatcher.resolve_claimed distinct claimed⟩
  · intro generation chunk rest next live
    exact perform_receipts accounted next live
  · intro generation signal rest next stale
    exact ⟨hearing_stale next stale, perform_stale next stale⟩

end EngineClient.Client
