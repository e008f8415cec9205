import EngineClient.Proofs.Client.Malformed
import EngineClient.Proofs.Dispatcher.Reordering

/-!
The order of replies does not matter: frames that come in on the live link in another order, and cut into
other pieces, settle the same calls with the same outcomes and leave the same client behind.
-/

namespace EngineClient.Client

open Dispatcher (bytesOf fatesOf span unanswered)

variable {client : Client} {generation : Link.Generation} {frames : List Frame}

def atTime (client : Client) (now : Nat) : Client := { client with now }

/-- The client once frames have come in, at their fates. -/
def settledBy (client : Client) (generation : Link.Generation) (frames : List Frame) : Client :=
  { client with
    dispatcher := { client.dispatcher.tended generation frames with
      pending := unanswered client.dispatcher.pending frames } }

theorem takePiecesOf_frames (running : client.running = true) (coherent : client.dispatcher.Coherent)
    (live : client.dispatcher.connection.live = some generation)
    (boundary : client.dispatcher.decoder = .empty) (fits : ∀ frame ∈ frames, frame.Fits)
    (distinct : (frames.filterMap Frame.answered).Nodup) {pieces : List (Nat × Bytes)}
    (whole : bytesOf pieces = Frame.encodeAll frames) :
    client.takePiecesOf generation pieces =
      ((client.settledBy generation frames).later (span pieces),
        (fatesOf client.dispatcher.pending frames).map .effect) := by
  have going : .stopped ∉ fatesOf client.dispatcher.pending frames := by
    intro stopped
    rcases Dispatcher.mem_fatesOf stopped with ⟨settlement, impossible⟩ | ⟨message, impossible⟩
    · cases impossible
    · cases impossible
  have untouched : ∀ effect ∈ fatesOf client.dispatcher.pending frames, effect.touches = false := by
    intro effect shows
    rcases Dispatcher.mem_fatesOf shows with ⟨settlement, rfl⟩ | ⟨message, rfl⟩
    · rfl
    · rfl
  rw [takePiecesOf_carryOut running,
    Dispatcher.takePieces_frames coherent live boundary fits distinct whole,
    carryOut_going _ running going, linkAfter_untouched _ untouched]
  rfl

theorem run_frames (running : client.running = true) (coherent : client.dispatcher.Coherent)
    (live : client.dispatcher.connection.live = some generation)
    (boundary : client.dispatcher.decoder = .empty) (fits : ∀ frame ∈ frames, frame.Fits)
    (distinct : (frames.filterMap Frame.answered).Nodup) {pieces : List (Nat × Bytes)}
    (whole : bytesOf pieces = Frame.encodeAll frames) (rest : List (Link.Generation × Link.Signal)) :
    (client.facing (signalsOf generation pieces ++ rest)).run (handlingOf pieces) =
      (((client.settledBy generation frames).later (span pieces)).facing rest,
        (fatesOf client.dispatcher.pending frames).map .effect) := by
  rw [run_handlingOf, takePiecesOf_frames running coherent live boundary fits distinct whole]

theorem settledBy_perm {others : List Frame} (reordered : others.Perm frames) :
    client.settledBy generation others = client.settledBy generation frames := by
  rw [settledBy, settledBy, Dispatcher.tended, Dispatcher.tended, reordered.isEmpty_eq,
    Dispatcher.unanswered_perm reordered]

theorem eq_of_perm_of_short {α : Type} {first second : List α} (same : first.Perm second)
    (short : first.length ≤ 1) : first = second := by
  cases first with
  | nil => exact same.nil_eq
  | cons one rest =>
    have alone : rest = [] := List.eq_nil_of_length_eq_zero (Nat.le_zero.mp (Nat.le_of_succ_le_succ short))
    subst alone
    exact List.singleton_perm.mp same

/-- On a live link at a boundary between frames, the order in which frames come does not matter if no id is
answered twice among them, however they are cut into pieces and whenever these come. The calls that they
answer have the same outcomes, the subscriber has the same messages in another order, and the client that is
left is the same, with its pending calls, its count of failures and its link; only the clock may differ. -/
theorem replies_in_any_order (idPrefix : String) (kind : Link.Kind) (policy : Restart.Policy)
    (start : Nat) (moves : List Move) {generation : Link.Generation} {frames others : List Frame}
    {pieces otherPieces : List (Nat × Bytes)} (rest : List (Link.Generation × Link.Signal))
    (live : ((new idPrefix kind policy start).after moves).dispatcher.connection.live = some generation)
    (boundary : ((new idPrefix kind policy start).after moves).dispatcher.decoder = .empty)
    (fits : ∀ frame ∈ frames, frame.Fits) (distinct : (frames.filterMap Frame.answered).Nodup)
    (reordered : others.Perm frames) (whole : bytesOf pieces = Frame.encodeAll frames)
    (otherwise : bytesOf otherPieces = Frame.encodeAll others) :
    let client := (new idPrefix kind policy start).after moves
    let left := (client.facing (signalsOf generation pieces ++ rest)).run (handlingOf pieces)
    let right := (client.facing (signalsOf generation otherPieces ++ rest)).run (handlingOf otherPieces)
    (∀ now, left.1.atTime now = right.1.atTime now) ∧
    (∀ number, outcomes number left.2 = outcomes number right.2) ∧
    (deliveries left.2).Perm (deliveries right.2) ∧
    left.1 = ((client.settledBy generation frames).later (span pieces)).facing rest ∧
    left.2 = (fatesOf client.dispatcher.pending frames).map .effect ∧
    (∀ number outcome, .effect (.settled ⟨number, outcome⟩) ∈ left.2 ↔
      ∃ frame ∈ frames, ∃ id reply, frame.Answers id reply ∧
        (id, number) ∈ client.dispatcher.pending.calls ∧ outcome = Call.outcomeOf reply) := by
  intro client left right
  have accounted := (carried_run idPrefix kind policy start moves).accounted
  have running : client.running = true := accounted.running_of_live live
  have fits_others : ∀ frame ∈ others, frame.Fits := fun frame present =>
    fits frame (reordered.mem_iff.mp present)
  have distinct_others : (others.filterMap Frame.answered).Nodup :=
    ((reordered.filterMap _).nodup_iff).mpr distinct
  have first : left = (((client.settledBy generation frames).later (span pieces)).facing rest,
      (fatesOf client.dispatcher.pending frames).map .effect) :=
    run_frames running accounted.coherent live boundary fits distinct whole rest
  have second : right = (((client.settledBy generation others).later (span otherPieces)).facing rest,
      (fatesOf client.dispatcher.pending others).map .effect) :=
    run_frames running accounted.coherent live boundary fits_others distinct_others otherwise rest
  have shown : left.2.Perm right.2 := by
    rw [first, second]
    exact (Dispatcher.fatesOf_perm reordered.symm).map _
  -- A call has one outcome at most, so a permutation leaves its outcomes as they are.
  have once (number : Call.Number) : (outcomes number left.2).length ≤ 1 := by
    have facing : Accounted (client.facing (signalsOf generation pieces ++ rest))
        ((new idPrefix kind policy start).shown moves) :=
      ⟨accounted.coherent, accounted.rests, accounted.once⟩
    have after := (accounted_after facing (handlingOf pieces)).at_most_once number
    rw [outcomes_append, List.length_append] at after
    have run : left.2 = (client.facing (signalsOf generation pieces ++ rest)).shown
        (handlingOf pieces) := rfl
    rw [run]
    omega
  refine ⟨?_, ?_, ?_, ?_, ?_, ?_⟩
  · intro now
    rw [first, second, settledBy_perm reordered]
    rfl
  · intro number
    exact eq_of_perm_of_short (shown.filterMap _) (once number)
  · exact shown.filterMap _
  · rw [first]
  · rw [first]
  · intro number outcome
    rw [first, ← Dispatcher.settled_fatesOf accounted.coherent.distinct]
    constructor
    · intro shows
      obtain ⟨effect, present, same⟩ := List.mem_map.mp shows
      cases same
      exact present
    · exact List.mem_map_of_mem

theorem replies_in_any_order_crossed :
    let moves : List Move := [.send ((Request.directoryOpen "/").withId "a"),
      .send ((Request.directoryOpen "/").withId "b"), .command (.ok .silent), .command (.ok .silent)]
    let a := (Response.success "a" "Collection" (.list [])).frame
    let b := (Response.fail "b" "denied").frame
    let c := (Response.fail "c" "unknown").frame
    let client := (new "p" .socket Restart.Policy.socket 0).after moves
    let pieces := [(5, (Frame.encodeAll [a, c, b]).take 20), (5, (Frame.encodeAll [a, c, b]).drop 20)]
    let otherPieces := [(0, Frame.encodeAll [b, a, c])]
    let left := (client.facing (signalsOf 1 pieces)).run (handlingOf pieces)
    let right := (client.facing (signalsOf 1 otherPieces)).run (handlingOf otherPieces)
    client.dispatcher.connection.live = some 1 ∧ client.dispatcher.pending.ids = ["a", "b"] ∧
      (∀ now, left.1.atTime now = right.1.atTime now) ∧
      (∀ number, outcomes number left.2 = outcomes number right.2) ∧
      (deliveries left.2).Perm (deliveries right.2) ∧
      left.1.dispatcher.pending = .empty ∧ left.1.now = 10 ∧ left.2.length = 3 := by
  intro moves a b c client pieces otherPieces left right
  have live : client.dispatcher.connection.live = some 1 := by decide +kernel
  have boundary : client.dispatcher.decoder = .empty := by decide +kernel
  have fits : ∀ frame ∈ [a, c, b], frame.Fits := by decide +kernel
  have distinct : ([a, c, b].filterMap Frame.answered).Nodup := by decide +kernel
  have reordered : [b, a, c].Perm [a, c, b] := @List.perm_append_comm _ [b] [a, c]
  have whole : bytesOf pieces = Frame.encodeAll [a, c, b] := by
    simp only [bytesOf, pieces, List.map_cons, List.map_nil, List.flatten_cons, List.flatten_nil,
      List.append_nil, List.take_append_drop]
  have otherwise : bytesOf otherPieces = Frame.encodeAll [b, a, c] := by
    simp only [bytesOf, otherPieces, List.map_cons, List.map_nil, List.flatten_cons,
      List.flatten_nil, List.append_nil]
  obtain ⟨same, outcomes, delivered, -⟩ := replies_in_any_order "p" .socket Restart.Policy.socket 0
    moves [] live boundary fits distinct reordered whole otherwise
  simp only [List.append_nil] at same outcomes delivered
  refine ⟨live, by decide +kernel, same, outcomes, delivered, ?_, ?_, ?_⟩
  · decide +kernel
  · decide +kernel
  · decide +kernel

end EngineClient.Client
