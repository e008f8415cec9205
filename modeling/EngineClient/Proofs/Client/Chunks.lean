import EngineClient.Proofs.Client.Carriage
import EngineClient.Proofs.Dispatcher.Chunks

/-!
However data of a link is cut into signals, a client that handles them one after another ends in the same
state and shows the same as one that handles all the bytes in one signal.
-/

namespace EngineClient.Client

variable {client : Client} {effects : List Dispatcher.Effect}

theorem linkAfter_congr {other : Client} (attempt : Link.Attempt) (link : client.link = other.link)
    (kind : client.kind = other.kind) :
    linkAfter attempt client effects = linkAfter attempt other effects := by
  induction effects generalizing client other with
  | nil => exact link
  | cons effect rest ih =>
    have next : linkAfter attempt (apply attempt client effect) rest =
        linkAfter attempt (apply attempt other effect) rest := by
      cases effect with
      | attempted generation opened =>
        cases opened with
        | false => exact ih link kind
        | true =>
          cases attempt with
          | error error => exact ih link kind
          | ok peer => exact ih (by simp [apply, kind]) kind
      | queued generation call chunk => exact ih (by simp [apply, link]) kind
      | dropped generation => exact ih rfl kind
      | settled settlement => exact ih link kind
      | delivered message => exact ih link kind
      | decided decision => exact ih link kind
      | stopped => exact ih link kind
      | reported stats => exact ih link kind
    exact next

theorem linkAfter_append {other : Client} (attempt : Link.Attempt)
    (first second : List Dispatcher.Effect) (link : other.link = linkAfter attempt client first)
    (kind : other.kind = client.kind) :
    linkAfter attempt client (first ++ second) = linkAfter attempt other second := by
  rw [linkAfter, List.foldl_append, foldl_apply client attempt first]
  exact linkAfter_congr attempt link.symm kind.symm

def carryOut (client : Client) (attempt : Link.Attempt)
    (result : Dispatcher × List Dispatcher.Effect) : Client × List Output :=
  if client.running && !stops result.2 then
    ({ client with dispatcher := result.1, link := linkAfter attempt client result.2 },
      result.2.map .effect)
  else
    ({ client with
        dispatcher := result.1
        link := linkAfter attempt client result.2
        running := false
        commands := [] },
      result.2.map .effect ++ client.commands.flatMap Command.abandon)

section CarryOut

variable (client) (attempt : Link.Attempt) (result : Dispatcher × List Dispatcher.Effect)

theorem dispatcher_carryOut : (client.carryOut attempt result).1.dispatcher = result.1 := by
  rw [carryOut]
  split <;> rfl

theorem link_carryOut :
    (client.carryOut attempt result).1.link = linkAfter attempt client result.2 := by
  rw [carryOut]
  split <;> rfl

theorem now_carryOut : (client.carryOut attempt result).1.now = client.now := by
  rw [carryOut]
  split <;> rfl

theorem running_carryOut :
    (client.carryOut attempt result).1.running = (client.running && !stops result.2) := by
  rw [carryOut]
  split_ifs with going
  · exact (Bool.and_eq_true_iff.mp going).1.trans going.symm
  · exact (Bool.eq_false_iff.mpr going).symm

end CarryOut

theorem handle_carryOut (attempt : Link.Attempt) (stimulus : Dispatcher.Stimulus) :
    client.handle attempt stimulus = client.carryOut attempt (client.reaction stimulus) := by
  have same (dispatcher : Dispatcher) (effects : List Dispatcher.Effect) :
      linkAfter attempt { client with dispatcher } effects = linkAfter attempt client effects :=
    linkAfter_congr attempt rfl rfl
  rw [reaction]
  simp only [handle, carryOut, foldl_apply, same]
  generalize client.dispatcher.handle client.now stimulus = result
  cases client.running <;> cases stops result.2 <;> rfl

theorem running_handled {outputs : List Output}
    (accounted : Accounted client outputs) {move : Move} {stimulus : Dispatcher.Stimulus}
    (handled : client.stimulus? move = some stimulus) {running : Bool}
    (stops : .stopped ∈ (client.dispatcher.handle client.now stimulus).2 ↔ running = false) :
    (client.perform move).1.running = running := by
  rw [perform_handled handled, handle_carryOut, running_carryOut, taking_running,
    accounted.running handled, reaction, taking_dispatcher, taking_now, Bool.true_and]
  rw [← stops_iff] at stops
  cases running with
  | false => rw [stops.mpr rfl, Bool.not_true]
  | true => rw [Bool.eq_false_iff.mpr (mt stops.mp Bool.true_eq_false.mp), Bool.not_false]

theorem now_perform (client : Client) (move : Move) :
    (∃ nanos, move = .wait nanos ∧ (client.perform move).1.now = client.now + nanos) ∨
      (client.perform move).1.now = client.now := by
  cases handled : client.stimulus? move with
  | some stimulus =>
    rw [perform_handled handled, handle_carryOut, now_carryOut, taking_now]
    exact .inr rfl
  | none =>
    have quiet := quiet_perform handled
    generalize client.perform move = result at quiet ⊢
    obtain ⟨after, shown⟩ := result
    cases quiet with
    | waited nanos => exact .inl ⟨nanos, rfl, rfl⟩
    | _ => exact .inr rfl

theorem carryOut_going {result : Dispatcher × List Dispatcher.Effect} (attempt : Link.Attempt)
    (running : client.running = true) (going : .stopped ∉ result.2) :
    client.carryOut attempt result =
      ({ client with dispatcher := result.1, link := linkAfter attempt client result.2 },
        result.2.map .effect) := by
  have quiet : stops result.2 = false := Bool.eq_false_iff.mpr (mt stops_iff.mp going)
  simp [carryOut, running, quiet]

theorem carryOut_nothing (attempt : Link.Attempt) (running : client.running = true) :
    client.carryOut attempt (client.dispatcher, []) = (client, []) := by
  rw [carryOut_going attempt running List.not_mem_nil]
  rfl

theorem running_carryOut_stopped {result : Dispatcher × List Dispatcher.Effect}
    (attempt : Link.Attempt) (stopped : .stopped ∈ result.2) :
    (client.carryOut attempt result).1.running = false := by
  simp [carryOut, stops_iff.mpr stopped]

theorem carryOut_append (attempt : Link.Attempt) (running : client.running = true)
    (between last : Dispatcher) {first : List Dispatcher.Effect} (going : .stopped ∉ first)
    (second : List Dispatcher.Effect) :
    client.carryOut attempt (last, first ++ second) =
      (((client.carryOut attempt (between, first)).1.carryOut attempt (last, second)).1,
        (client.carryOut attempt (between, first)).2 ++
          ((client.carryOut attempt (between, first)).1.carryOut attempt (last, second)).2) := by
  have quiet : stops first = false := Bool.eq_false_iff.mpr (mt stops_iff.mp going)
  have either : stops (first ++ second) = stops second := by
    rw [stops, List.any_append, ← stops, ← stops, quiet, Bool.false_or]
  have linked : linkAfter attempt client (first ++ second) = linkAfter attempt
      { client with dispatcher := between, link := linkAfter attempt client first } second :=
    linkAfter_append attempt first second rfl rfl
  rw [carryOut_going attempt running (show .stopped ∉ (between, first).2 from going)]
  simp only [carryOut, either, linked, List.map_append, List.append_assoc]
  cases client.running && !stops second with
  | true => rfl
  | false => rfl

def facing (client : Client) (signals : List (Link.Generation × Link.Signal)) : Client :=
  { client with signals }

theorem carryOut_facing (attempt : Link.Attempt) (result : Dispatcher × List Dispatcher.Effect)
    (signals : List (Link.Generation × Link.Signal)) :
    (client.facing signals).carryOut attempt result =
      ((client.carryOut attempt result).1.facing signals, (client.carryOut attempt result).2) := by
  have same : linkAfter attempt { client with signals } result.2 =
      linkAfter attempt client result.2 := linkAfter_congr attempt rfl rfl
  simp only [carryOut, facing, same]
  cases client.running && !stops result.2 with
  | true => rfl
  | false => rfl

/-- What a client makes of data of a generation, its queue of signals aside. -/
def takeData (client : Client) (generation : Link.Generation) (chunk : Bytes) :
    Client × List Output :=
  if client.running then
    client.carryOut (.error .closed) (client.reaction (.signal generation (.data chunk)))
  else (client, [])

variable {generation : Link.Generation}

theorem signal_takeData (chunk : Bytes) (rest : List (Link.Generation × Link.Signal)) :
    (client.facing ((generation, .data chunk) :: rest)).signal =
      ((client.takeData generation chunk).1.facing rest,
        (client.takeData generation chunk).2) := by
  cases running : client.running with
  | true =>
    have handled : (client.facing rest).handle (.error .closed) (.signal generation (.data chunk)) =
        (client.facing rest).carryOut (.error .closed)
          (client.reaction (.signal generation (.data chunk))) := handle_carryOut _ _
    rw [carryOut_facing] at handled
    simpa [signal, facing, takeData, running] using handled
  | false => simp [signal, facing, takeData, running]

/-- The reaction to data is the reaction to its first part, and then to its second in the state that is
left. -/
theorem reaction_append (first second : Bytes) :
    client.reaction (.signal generation (.data (first ++ second))) =
      (((client.reaction (.signal generation (.data first))).1.handle client.now
          (.signal generation (.data second))).1,
        (client.reaction (.signal generation (.data first))).2 ++
          ((client.reaction (.signal generation (.data first))).1.handle client.now
            (.signal generation (.data second))).2) :=
  Dispatcher.signal_data_append client.dispatcher client.now generation first second

theorem reaction_after_stop {first : Bytes}
    (stopped : .stopped ∈ (client.reaction (.signal generation (.data first))).2)
    (second : Bytes) :
    client.reaction (.signal generation (.data (first ++ second))) =
      client.reaction (.signal generation (.data first)) := by
  have rests : (client.reaction (.signal generation (.data first))).1.AtRest :=
    Dispatcher.atRest_of_stopped stopped
  have stale : (client.reaction (.signal generation (.data first))).1.connection.live ≠
      some generation := by
    rw [rests.live]
    simp
  rw [reaction_append, Dispatcher.handle, Dispatcher.signal_stale stale, List.append_nil]

theorem takeData_append (first second : Bytes) :
    client.takeData generation (first ++ second) =
      (((client.takeData generation first).1.takeData generation second).1,
        (client.takeData generation first).2 ++
          ((client.takeData generation first).1.takeData generation second).2) := by
  cases running : client.running with
  | false => simp [takeData, running]
  | true =>
    simp only [takeData, running, if_true]
    by_cases stopped : .stopped ∈ (client.reaction (.signal generation (.data first))).2
    · rw [reaction_after_stop stopped, running_carryOut_stopped _ stopped]
      simp
    · -- The clock and the queues are as before, so that the second part is handled like the first.
      rw [reaction_append, carryOut_append _ running _ _ stopped,
        carryOut_going _ running stopped]
      simp only [running, if_true]
      rfl

theorem takeData_idle {chunk : Bytes}
    (idle : client.reaction (.signal generation (.data chunk)) = (client.dispatcher, [])) :
    client.takeData generation chunk = (client, []) := by
  cases running : client.running with
  | false => simp [takeData, running]
  | true => rw [takeData, if_pos running, idle, carryOut_nothing _ running]

theorem takeData_nil (coherent : client.dispatcher.Coherent) :
    client.takeData generation [] = (client, []) :=
  takeData_idle (Dispatcher.signal_data_nil coherent)

theorem takeData_stale (stale : client.dispatcher.connection.live ≠ some generation)
    (chunk : Bytes) : client.takeData generation chunk = (client, []) := by
  apply takeData_idle
  rw [reaction, Dispatcher.handle, Dispatcher.signal_stale stale]

theorem coherent_takeData (coherent : client.dispatcher.Coherent) (chunk : Bytes) :
    (client.takeData generation chunk).1.dispatcher.Coherent := by
  cases running : client.running with
  | false => simpa [takeData, running] using coherent
  | true =>
    rw [takeData, if_pos running, ← handle_carryOut, dispatcher_handle]
    exact Dispatcher.coherent_handle coherent _

theorem run_pieces (coherent : client.dispatcher.Coherent) (pieces : List Bytes)
    (rest : List (Link.Generation × Link.Signal)) :
    (client.facing (pieces.map (fun piece => (generation, .data piece)) ++ rest)).run
        (pieces.map fun _ => .signal) =
      ((client.takeData generation pieces.flatten).1.facing rest,
        (client.takeData generation pieces.flatten).2) := by
  induction pieces generalizing client with
  | nil =>
    rw [List.flatten_nil, takeData_nil coherent]
    rfl
  | cons piece pieces ih =>
    have still : (client.takeData generation piece).1.dispatcher.Coherent :=
      coherent_takeData coherent piece
    rw [List.flatten_cons, takeData_append]
    simp only [List.map_cons, List.cons_append, run, perform, signal_takeData, ih still]

/-- However the bytes of a generation are cut into pieces, a client that handles the pieces one after
another at one instant ends in the same state as one that handles all the bytes in one signal, and shows the
same in the same order; a fault of the framing may stand anywhere in them, and the generation need not be
the live one. -/
theorem data_in_pieces (idPrefix : String) (kind : Link.Kind) (policy : Restart.Policy)
    (start : Nat) (moves : List Move) (generation : Link.Generation) (pieces : List Bytes)
    (rest : List (Link.Generation × Link.Signal)) :
    let client := (new idPrefix kind policy start).after moves
    (client.facing (pieces.map (fun piece => (generation, .data piece)) ++ rest)).run
        (pieces.map fun _ => .signal) =
      (client.facing ((generation, .data pieces.flatten) :: rest)).run [.signal] := by
  intro client
  have coherent : client.dispatcher.Coherent :=
    (carried_run idPrefix kind policy start moves).accounted.coherent
  calc
    _ = ((client.takeData generation pieces.flatten).1.facing rest,
        (client.takeData generation pieces.flatten).2) := run_pieces coherent pieces rest
    _ = (client.facing ((generation, .data pieces.flatten) :: rest)).run [.signal] := by
      simp only [run, perform, signal_takeData, List.append_nil]

end EngineClient.Client
