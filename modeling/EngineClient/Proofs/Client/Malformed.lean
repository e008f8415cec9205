import EngineClient.Proofs.Client.Routing
import EngineClient.Proofs.Dispatcher.Likeness

/-!
A frame that cannot be read costs nothing but itself: a client that is brought data with such a frame in it
settles, delivers and keeps what it would without the frame. Only the count of failures may differ, and
through it what is decided when the link is lost.
-/

namespace EngineClient.Client

open Dispatcher (Matches outward takePieces bytesOf span)

variable {client : Client} {generation : Link.Generation}

def later (client : Client) (nanos : Nat) : Client := { client with now := client.now + nanos }

def signalsOf (generation : Link.Generation) (pieces : List (Nat × Bytes)) :
    List (Link.Generation × Link.Signal) :=
  pieces.map fun piece => (generation, .data piece.2)

/-- Each piece is handled some time after the one before. -/
def handlingOf (pieces : List (Nat × Bytes)) : List Move :=
  pieces.flatMap fun piece => [.wait piece.1, .signal]

def Output.settlement? : Output → Option Call.Settlement
  | .effect result => result.settlement?
  | .poured _ _ => none

def settlements (outputs : List Output) : List Call.Settlement := outputs.filterMap Output.settlement?

/-- The ends of the calls in the queue of commands, should the dispatcher have stopped over something else. -/
def unheardEnds (client after : Client) : List Call.Settlement :=
  if after.running then []
  else client.queuedCalls.map fun number => ⟨number, .error .clientClosed⟩

def takePiecesOf (client : Client) (generation : Link.Generation) :
    List (Nat × Bytes) → Client × List Output
  | [] => (client, [])
  | (nanos, chunk) :: pieces =>
    let early := (client.later nanos).takeData generation chunk
    let late := early.1.takePiecesOf generation pieces
    (late.1, early.2 ++ late.2)

theorem later_later (first second : Nat) :
    (client.later first).later second = client.later (first + second) := by
  simp only [later, Nat.add_assoc]

theorem run_handlingOf (pieces : List (Nat × Bytes)) (rest : List (Link.Generation × Link.Signal)) :
    (client.facing (signalsOf generation pieces ++ rest)).run (handlingOf pieces) =
      ((client.takePiecesOf generation pieces).1.facing rest,
        (client.takePiecesOf generation pieces).2) := by
  induction pieces generalizing client with
  | nil => rfl
  | cons piece pieces ih =>
    obtain ⟨nanos, chunk⟩ := piece
    have waits : (client.facing (signalsOf generation ((nanos, chunk) :: pieces) ++ rest)).perform
        (.wait nanos) = ((client.later nanos).facing
          ((generation, .data chunk) :: (signalsOf generation pieces ++ rest)), []) := rfl
    have takes : ((client.later nanos).facing
          ((generation, .data chunk) :: (signalsOf generation pieces ++ rest))).signal =
        (((client.later nanos).takeData generation chunk).1.facing (signalsOf generation pieces ++ rest),
          ((client.later nanos).takeData generation chunk).2) := signal_takeData chunk _
    have moves : handlingOf ((nanos, chunk) :: pieces) = .wait nanos :: .signal :: handlingOf pieces := rfl
    simp only [moves, run, waits]
    simp only [perform, takes, ih, takePiecesOf, List.nil_append]

theorem carryOut_later (attempt : Link.Attempt) (result : Dispatcher × List Dispatcher.Effect)
    (nanos : Nat) :
    (client.later nanos).carryOut attempt result =
      ((client.carryOut attempt result).1.later nanos, (client.carryOut attempt result).2) := by
  have same : linkAfter attempt { client with now := client.now + nanos } result.2 =
      linkAfter attempt client result.2 := linkAfter_congr attempt rfl rfl
  simp only [carryOut, later, same]
  cases client.running && !stops result.2 with
  | true => rfl
  | false => rfl

theorem takePiecesOf_stopped (stopped : client.running = false) (pieces : List (Nat × Bytes)) :
    client.takePiecesOf generation pieces = (client.later (span pieces), []) := by
  induction pieces generalizing client with
  | nil => rfl
  | cons piece pieces ih =>
    obtain ⟨nanos, chunk⟩ := piece
    have idle : (client.later nanos).takeData generation chunk = (client.later nanos, []) := by
      simp [takeData, later, stopped]
    have still : (client.later nanos).running = false := stopped
    simp only [takePiecesOf, idle, ih still, later_later, List.nil_append]
    rfl

theorem takePiecesOf_carryOut (running : client.running = true) (pieces : List (Nat × Bytes)) :
    let result := client.carryOut (.error .closed)
      (client.dispatcher.takePieces client.now generation pieces)
    client.takePiecesOf generation pieces = (result.1.later (span pieces), result.2) := by
  induction pieces generalizing client with
  | nil =>
    simp only [takePieces, carryOut_nothing _ running]
    rfl
  | cons piece pieces ih =>
    obtain ⟨nanos, chunk⟩ := piece
    have first : (client.later nanos).takeData generation chunk =
        ((client.carryOut (.error .closed)
            (client.dispatcher.signal (client.now + nanos) generation (.data chunk))).1.later nanos,
          (client.carryOut (.error .closed)
            (client.dispatcher.signal (client.now + nanos) generation (.data chunk))).2) := by
      rw [takeData, if_pos (show (client.later nanos).running = true from running)]
      exact carryOut_later _ _ _
    simp only [takePiecesOf, takePieces, first]
    have rests : .stopped ∈
          (client.dispatcher.signal (client.now + nanos) generation (.data chunk)).2 →
        (client.dispatcher.signal (client.now + nanos) generation (.data chunk)).1.AtRest := by
      have stops : (client.dispatcher.signal (client.now + nanos) generation (.data chunk)) =
        client.dispatcher.handle (client.now + nanos) (.signal generation (.data chunk)) := rfl
      rw [stops]
      exact Dispatcher.atRest_of_stopped
    generalize client.dispatcher.signal (client.now + nanos) generation (.data chunk) = reaction at rests ⊢
    by_cases stopped : .stopped ∈ reaction.2
    · -- What comes behind a stop is stale to the dispatcher, and the client does not hear it.
      have stale : reaction.1.connection.live ≠ some generation := by simp [(rests stopped).live]
      have halted : ((client.carryOut (.error .closed) reaction).1.later nanos).running = false :=
        running_carryOut_stopped _ stopped
      rw [takePiecesOf_stopped halted, Dispatcher.takePieces_stale stale]
      simp only [List.append_nil, later_later]
      rfl
    · have going := carryOut_going (.error .closed) running stopped
      have on : ((client.carryOut (.error .closed) reaction).1.later nanos).running = true := by
        rw [going]
        exact running
      rw [ih on, carryOut_append _ running reaction.1 _ stopped, carryOut_later]
      simp only [going, later_later]
      rfl

section CarryOut

variable (client) (attempt : Link.Attempt) (result : Dispatcher × List Dispatcher.Effect)

theorem shown_carryOut : (client.carryOut attempt result).2 = result.2.map .effect ++
    if (client.carryOut attempt result).1.running then []
    else client.commands.flatMap Command.abandon := by
  rw [running_carryOut, carryOut]
  split_ifs with going
  · exact (List.append_nil _).symm
  · rfl

theorem deliveries_carryOut :
    deliveries (client.carryOut attempt result).2 = Dispatcher.deliveries result.2 := by
  rw [shown_carryOut, deliveries_append, deliveries_effects]
  split
  · exact List.append_nil _
  · rw [deliveries_abandon, List.append_nil]

theorem settlements_abandon (commands : List Command) :
    settlements (commands.flatMap Command.abandon) =
      (commands.filterMap Command.call?).map fun number => ⟨number, .error .clientClosed⟩ := by
  induction commands with
  | nil => rfl
  | cons command rest ih =>
    rw [List.flatMap_cons, settlements, List.filterMap_append, ← settlements, ← settlements, ih]
    cases command <;> rfl

theorem settlements_carryOut : settlements (client.carryOut attempt result).2 =
    result.2.filterMap Dispatcher.Effect.settlement? ++
      client.unheardEnds (client.carryOut attempt result).1 := by
  have effects : settlements (result.2.map .effect) =
      result.2.filterMap Dispatcher.Effect.settlement? := by
    rw [settlements, List.filterMap_map]
    rfl
  rw [shown_carryOut, settlements, List.filterMap_append, ← settlements, ← settlements, effects,
    unheardEnds]
  split
  · rfl
  · rw [settlements_abandon]
    rfl

theorem linkAfter_outward (effects : List Dispatcher.Effect) :
    linkAfter attempt client (outward effects) = linkAfter attempt client effects := by
  induction effects generalizing client with
  | nil => rfl
  | cons effect rest ih =>
    have next := ih (apply attempt client effect)
    cases effect with
    | decided decision => exact next
    | stopped =>
      have same : linkAfter attempt client (outward rest) = linkAfter attempt client rest := ih client
      exact same.trans (linkAfter_congr attempt rfl rfl)
    | attempted generation opened => exact next
    | queued generation number chunk => exact next
    | settled settlement => exact next
    | delivered message => exact next
    | dropped generation => exact next
    | reported stats => exact next

end CarryOut

/-- What is said of a client that was brought data, beside one that was brought other data: they hold the
same, and have settled and delivered the same in the same order. Their counts of failures and their timers
may differ, and one may have stopped over a restart that the clock cannot reach; the calls in its queue end
with that. While the link is live, nothing of this happens. -/
structure Level (client : Client) (generation : Link.Generation) (left right : Client × List Output) :
    Prop where
  alike : left.1.dispatcher.Alike right.1.dispatcher
  link : left.1.link = right.1.link
  deliveries : deliveries left.2 = deliveries right.2
  settlements : ∃ settled, settlements left.2 = settled ++ client.unheardEnds left.1 ∧
    settlements right.2 = settled ++ client.unheardEnds right.1
  survived : left.1.dispatcher.connection.live = some generation →
    left.2 = right.2 ∧ left.1.dispatcher.restartAt = right.1.dispatcher.restartAt
  stops : ∀ result ∈ [left, right], result.1.running = false → ∃ delay,
    .effect (.decided (.after delay)) ∈ result.2 ∧ Dispatcher.clockEnd ≤ result.1.now + delay.nanos

theorem stops_takePiecesOf (running : client.running = true) {pieces : List (Nat × Bytes)}
    (stopped : (client.takePiecesOf generation pieces).1.running = false) : ∃ delay,
      .effect (.decided (.after delay)) ∈ (client.takePiecesOf generation pieces).2 ∧
      Dispatcher.clockEnd ≤ (client.takePiecesOf generation pieces).1.now + delay.nanos := by
  rw [takePiecesOf_carryOut running] at stopped ⊢
  have loud : (client.running && !stops
      (client.dispatcher.takePieces client.now generation pieces).2) = false :=
    (running_carryOut client _ _).symm.trans stopped
  rw [running, Bool.true_and, Bool.not_eq_false', stops_iff] at loud
  obtain ⟨delay, decided, late⟩ := Dispatcher.takePieces_stops loud
  refine ⟨delay, ?_, ?_⟩
  · rw [shown_carryOut]
    exact List.mem_append_left _ (List.mem_map_of_mem decided)
  · rw [later, now_carryOut]
    exact late

theorem level_takePiecesOf (running : client.running = true) {pieces others : List (Nat × Bytes)}
    (same : Matches (client.dispatcher.takePieces client.now generation pieces)
      (client.dispatcher.takePieces client.now generation others)) :
    Level client generation (client.takePiecesOf generation pieces)
      (client.takePiecesOf generation others) := by
  refine ⟨?_, ?_, ?_, ?_, ?_, ?_⟩
  · rw [takePiecesOf_carryOut running, takePiecesOf_carryOut running]
    simp only [later, dispatcher_carryOut]
    exact same.alike
  · rw [takePiecesOf_carryOut running, takePiecesOf_carryOut running]
    simp only [later, link_carryOut]
    rw [← linkAfter_outward, same.effects, linkAfter_outward]
  · rw [takePiecesOf_carryOut running, takePiecesOf_carryOut running]
    simp only [deliveries_carryOut, Dispatcher.deliveries]
    rw [← Dispatcher.filterMap_outward (fun _ => rfl) rfl, same.effects,
      Dispatcher.filterMap_outward (fun _ => rfl) rfl]
  · refine ⟨(client.dispatcher.takePieces client.now generation pieces).2.filterMap
      Dispatcher.Effect.settlement?, ?_, ?_⟩
    · rw [takePiecesOf_carryOut running]
      exact settlements_carryOut client _ _
    · rw [takePiecesOf_carryOut running, ← Dispatcher.filterMap_outward (fun _ => rfl) rfl,
        same.effects, Dispatcher.filterMap_outward (fun _ => rfl) rfl]
      exact settlements_carryOut client _ _
  · rw [takePiecesOf_carryOut running, takePiecesOf_carryOut running]
    simp only [later, dispatcher_carryOut]
    intro live
    obtain ⟨timer, going⟩ := Dispatcher.takePieces_survived live
    obtain ⟨other_timer, other_going⟩ := Dispatcher.takePieces_survived (same.alike.live ▸ live)
    have effects := same.effects
    rw [Dispatcher.outward_going going, Dispatcher.outward_going other_going] at effects
    refine ⟨?_, timer.trans other_timer.symm⟩
    rw [shown_carryOut, shown_carryOut, running_carryOut, running_carryOut, effects]
  · intro result present
    rcases List.mem_pair.mp present with rfl | rfl
    · exact stops_takePiecesOf running
    · exact stops_takePiecesOf running

/-- On a live link, data with a frame in it that cannot be read, up to a boundary between frames in front of
the frame and with whatever bytes behind it, leads to the same as the data without the frame, however either
is cut into pieces and whenever these come. Only the count of failures may differ, and through it the
decision about a restart if the link is lost. -/
theorem unreadable_costs_itself (idPrefix : String) (kind : Link.Kind) (policy : Restart.Policy)
    (start : Nat) (moves : List Move) {generation : Link.Generation} {first second : Bytes}
    {frames : List Frame} {frame : Frame} {pieces others : List (Nat × Bytes)}
    (rest : List (Link.Generation × Link.Signal))
    (live : ((new idPrefix kind policy start).after moves).dispatcher.connection.live = some generation)
    (boundary : ((new idPrefix kind policy start).after moves).dispatcher.decoder.step first =
      (frames.map .ok, .empty))
    (fits : frame.Fits) (unreadable : ∃ error, frame.inbound = .error error)
    (whole : bytesOf pieces = first ++ frame.encode ++ second)
    (spared : bytesOf others = first ++ second) :
    let client := (new idPrefix kind policy start).after moves
    Level client generation
      ((client.facing (signalsOf generation pieces ++ rest)).run (handlingOf pieces))
      ((client.facing (signalsOf generation others ++ rest)).run (handlingOf others)) := by
  intro client
  have accounted := (carried_run idPrefix kind policy start moves).accounted
  have running : client.running = true := accounted.running_of_live live
  have same := Dispatcher.matches_without accounted.coherent live boundary fits
    (Frame.unreadable_iff.mpr unreadable) second whole spared client.now
  rw [run_handlingOf, run_handlingOf]
  have level := level_takePiecesOf running same
  refine ⟨level.alike, level.link, level.deliveries, level.settlements, level.survived, ?_⟩
  intro result present
  rcases List.mem_pair.mp present with rfl | rfl
  · exact level.stops (client.takePiecesOf generation pieces) List.mem_cons_self
  · exact level.stops (client.takePiecesOf generation others)
      (List.mem_cons_of_mem _ List.mem_cons_self)

theorem unreadable_costs_itself_before_fault :
    let policy : Restart.Policy := { Restart.Policy.socket with threshold := 1 }
    let moves : List Move := [.send (.directoryOpen "/"), .command (.error .closed),
      .send (.directoryOpen "/"), .command (.ok .silent)]
    let frame : Frame := ⟨.request, []⟩
    let client := (new "p" .socket policy 0).after moves
    let brought := [(0, frame.encode ++ [7])]
    let spared := [(0, [7])]
    client.dispatcher.connection.live = some 2 ∧ client.dispatcher.connection.failures = 1 ∧
      client.dispatcher.pending.size = 1 ∧
      Level client 2 ((client.facing (signalsOf 2 brought)).run (handlingOf brought))
        ((client.facing (signalsOf 2 spared)).run (handlingOf spared)) ∧
      (client.takePiecesOf 2 brought).1.dispatcher.connection.failures = 1 ∧
      (client.takePiecesOf 2 spared).1.dispatcher.connection.failures = 2 := by
  intro policy moves frame client brought spared
  have live : client.dispatcher.connection.live = some 2 := by decide +kernel
  have boundary : client.dispatcher.decoder.step [] = (([] : List Frame).map .ok, .empty) := by
    decide +kernel
  have fits : frame.Fits := by decide
  have whole : bytesOf brought = [] ++ frame.encode ++ [7] := rfl
  have rest : bytesOf spared = [] ++ [7] := rfl
  have level := unreadable_costs_itself "p" .socket policy 0 moves [] live boundary fits ⟨_, rfl⟩ whole rest
  refine ⟨live, by decide +kernel, by decide +kernel, ?_, by decide +kernel, by decide +kernel⟩
  simpa only [List.append_nil] using level

end EngineClient.Client
