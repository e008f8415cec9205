import EngineClient.Proofs.Dispatcher.Chunks
import EngineClient.Proofs.Dispatcher.Routing
import EngineClient.Proofs.Dispatcher.Stops

/-!
Dispatchers that differ at most in the count of failures and in the restart timer make the same of data, but
for what they decide about restarts. A frame that cannot be read makes no other difference than that.
-/

namespace EngineClient.Dispatcher

/-- The dispatchers differ at most in the count of failures and in the restart timer. -/
structure Alike (left right : Dispatcher) : Prop where
  policy : left.connection.policy = right.connection.policy
  live : left.connection.live = right.connection.live
  generation : left.connection.generation = right.connection.generation
  pending : left.pending = right.pending
  decoder : left.decoder = right.decoder

/-- The effects without decisions about restarts, and without the stop that one of them may bring. -/
def outward (effects : List Effect) : List Effect := effects.filter Effect.goesOn

def Effect.settlement? : Effect → Option Call.Settlement
  | .settled settlement => some settlement
  | _ => none

/-- Two reactions come to the same, restarts aside. -/
structure Matches (left right : Dispatcher × List Effect) : Prop where
  alike : left.1.Alike right.1
  effects : outward left.2 = outward right.2

variable {dispatcher left right : Dispatcher} {now : Nat} {generation : Link.Generation}

theorem Alike.refl (dispatcher : Dispatcher) : dispatcher.Alike dispatcher := ⟨rfl, rfl, rfl, rfl, rfl⟩

theorem Alike.symm (alike : left.Alike right) : right.Alike left :=
  ⟨alike.policy.symm, alike.live.symm, alike.generation.symm, alike.pending.symm, alike.decoder.symm⟩

theorem Alike.trans {other : Dispatcher} (alike : left.Alike right) (next : right.Alike other) :
    left.Alike other :=
  ⟨alike.policy.trans next.policy, alike.live.trans next.live, alike.generation.trans next.generation,
    alike.pending.trans next.pending, alike.decoder.trans next.decoder⟩

theorem Matches.symm {first second : Dispatcher × List Effect} (same : Matches first second) :
    Matches second first := ⟨same.alike.symm, same.effects.symm⟩

theorem Matches.trans {first second third : Dispatcher × List Effect} (same : Matches first second)
    (next : Matches second third) : Matches first third :=
  ⟨same.alike.trans next.alike, same.effects.trans next.effects⟩

theorem outward_append (first second : List Effect) :
    outward (first ++ second) = outward first ++ outward second := List.filter_append ..

theorem Matches.behind {first second : List Effect} {early late : Dispatcher × List Effect}
    (same : Matches early late) (front : outward first = outward second) :
    Matches (early.1, first ++ early.2) (late.1, second ++ late.2) :=
  ⟨same.alike, by rw [outward_append, outward_append, front, same.effects]⟩

theorem outward_going {effects : List Effect} (going : ∀ effect ∈ effects, effect.goesOn = true) :
    outward effects = effects := List.filter_eq_self.mpr going

theorem filterMap_outward {α : Type} {read : Effect → Option α} {effects : List Effect}
    (decided : ∀ decision, read (.decided decision) = none) (stopped : read .stopped = none) :
    (outward effects).filterMap read = effects.filterMap read := by
  rw [outward, List.filterMap_filter]
  congr 1
  funext effect
  cases effect <;> simp [Effect.goesOn, decided, stopped]

theorem matches_schedule (down : dispatcher.connection.live = none)
    (waits : dispatcher.pending = .empty) (held : dispatcher.decoder = .empty)
    (decision : Restart.Decision) :
    Matches (dispatcher.schedule now decision) (dispatcher, []) := by
  rcases schedule_cases dispatcher now decision with ⟨restartAt, moved⟩ | ⟨delay, -, -, stopped⟩
  · rw [moved]
    exact ⟨⟨rfl, rfl, rfl, rfl, rfl⟩, rfl⟩
  · rw [stopped]
    refine ⟨⟨rfl, down.symm, rfl, waits.symm, held.symm⟩, ?_⟩
    simp [shutdown, waits, down, Call.Pending.rejectAll, Call.Pending.empty, outward, Effect.goesOn]

theorem matches_lose_current (live : dispatcher.connection.live = some generation) (reason : String) :
    Matches (dispatcher.lose now generation reason) (dispatcher.bereft,
      .dropped generation :: (dispatcher.pending.rejectAll (.linkLost reason)).map .settled) := by
  rw [lose_current live]
  obtain ⟨alike, effects⟩ : Matches
      (dispatcher.bereft.schedule now dispatcher.connection.lost.decision) (dispatcher.bereft, []) :=
    matches_schedule rfl rfl rfl _
  exact ⟨alike, by rw [outward_append, effects]; exact List.append_nil _⟩

theorem matches_lose (alike : left.Alike right) (now later : Nat) (reason : String) :
    Matches (left.lose now generation reason) (right.lose later generation reason) := by
  by_cases live : right.connection.live = some generation
  · refine (matches_lose_current (alike.live.trans live) reason).trans
      (.trans ?_ (matches_lose_current live reason).symm)
    refine ⟨⟨alike.policy, rfl, alike.generation, rfl, rfl⟩, ?_⟩
    rw [alike.pending]
  · rw [lose_stale live, lose_stale (alike.live ▸ live)]
    exact ⟨alike, rfl⟩

theorem alike_healthy (generation : Link.Generation) : (dispatcher.healthy generation).Alike dispatcher := by
  refine ⟨?_, healthy_live, healthy_generation, rfl, rfl⟩
  rw [healthy, Connection.markHealthy]
  split <;> rfl

theorem alike_dispatch (alike : left.Alike right) (frame : Frame) :
    (left.dispatch frame).1.Alike (right.dispatch frame).1 ∧
      (left.dispatch frame).2 = (right.dispatch frame).2 := by
  rw [dispatch_fate, dispatch_fate, alike.pending]
  exact ⟨⟨alike.policy, alike.live, alike.generation, rfl, alike.decoder⟩, rfl⟩

theorem matches_takeFrames (alike : left.Alike right) (now later : Nat)
    (items : List (Except Frame.Error Frame)) :
    Matches (left.takeFrames now generation items) (right.takeFrames later generation items) := by
  induction items generalizing left right with
  | nil => exact ⟨alike, rfl⟩
  | cons item items ih =>
    cases item with
    | error fault =>
      rw [takeFrames_fault, takeFrames_fault]
      exact matches_lose alike now later _
    | ok frame =>
      have healthy : (left.healthy generation).Alike (right.healthy generation) :=
        (alike_healthy generation).trans (alike.trans (alike_healthy generation).symm)
      obtain ⟨dispatched, shown⟩ := alike_dispatch healthy frame
      rw [takeFrames_frame, takeFrames_frame]
      exact (ih dispatched).behind (congrArg outward shown)

theorem matches_data (alike : left.Alike right) (now later : Nat) (chunk : Bytes) :
    Matches (left.signal now generation (.data chunk)) (right.signal later generation (.data chunk)) := by
  by_cases live : right.connection.live = some generation
  · rw [signal_data live, signal_data (alike.live.trans live), alike.decoder]
    have fed : ({ left with decoder := (right.decoder.step chunk).2 } : Dispatcher).Alike
        { right with decoder := (right.decoder.step chunk).2 } :=
      ⟨alike.policy, alike.live, alike.generation, alike.pending, rfl⟩
    exact matches_takeFrames fed now later _
  · rw [signal_stale live, signal_stale (alike.live ▸ live)]
    exact ⟨alike, rfl⟩

def takePieces (dispatcher : Dispatcher) (now : Nat) (generation : Link.Generation) :
    List (Nat × Bytes) → Dispatcher × List Effect
  | [] => (dispatcher, [])
  | (nanos, chunk) :: pieces =>
    let early := dispatcher.signal (now + nanos) generation (.data chunk)
    let late := early.1.takePieces (now + nanos) generation pieces
    (late.1, early.2 ++ late.2)

def bytesOf (pieces : List (Nat × Bytes)) : Bytes := (pieces.map Prod.snd).flatten

theorem matches_takePieces (alike : left.Alike right) (coherent : right.Coherent) (now later : Nat)
    (pieces : List (Nat × Bytes)) :
    Matches (left.takePieces now generation pieces)
      (right.signal later generation (.data (bytesOf pieces))) := by
  induction pieces generalizing left right now with
  | nil =>
    rw [show bytesOf [] = [] from rfl, signal_data_nil coherent]
    exact ⟨alike, rfl⟩
  | cons piece pieces ih =>
    obtain ⟨nanos, chunk⟩ := piece
    have first : Matches (left.signal (now + nanos) generation (.data chunk))
        (right.signal later generation (.data chunk)) := matches_data alike _ _ chunk
    have still : (right.signal later generation (.data chunk)).1.Coherent :=
      coherent_signal coherent generation _
    rw [show bytesOf ((nanos, chunk) :: pieces) = chunk ++ bytesOf pieces from rfl, signal_data_append]
    exact (ih first.alike still (now + nanos)).behind first.effects

theorem signal_boundary (now : Nat) (live : dispatcher.connection.live = some generation) {first : Bytes}
    {frames : List Frame} (boundary : dispatcher.decoder.step first = (frames.map .ok, .empty)) :
    let after := (dispatcher.signal now generation (.data first)).1
    after.connection.live = some generation ∧ after.decoder = .empty := by
  rw [signal_data live, boundary]
  obtain ⟨decoder, up, -, -⟩ :=
    takeFrames_clean { dispatcher with decoder := .empty } now generation frames
  exact ⟨up.trans live, decoder⟩

theorem signal_unreadable (live : dispatcher.connection.live = some generation)
    (held : dispatcher.decoder = .empty) {frame : Frame} (fits : frame.Fits)
    (unreadable : frame.Unreadable) :
    dispatcher.signal now generation (.data frame.encode) = (dispatcher.healthy generation, []) := by
  have stepped : Frame.Decoder.empty.step frame.encode = ([.ok frame], .empty) := by
    have whole := Frame.Decoder.step_empty (List.forall_mem_singleton.mpr fits) Frame.incomplete_nil
    simpa [Frame.Decoder.empty] using whole
  have skipped : (dispatcher.healthy generation).dispatch frame = (dispatcher.healthy generation, []) := by
    rw [dispatch_fate, fateOf_skipped.mpr unreadable]
    rfl
  have same : ({ dispatcher with decoder := .empty } : Dispatcher) = dispatcher := by rw [← held]
  rw [signal_data live, held, stepped, same, takeFrames_frame, skipped]
  rfl

/-- Data with a frame in it that cannot be read does what the data does without it, however either is cut
into pieces and whenever these come. -/
theorem matches_without (coherent : dispatcher.Coherent)
    (live : dispatcher.connection.live = some generation) {first : Bytes} {frames : List Frame}
    (boundary : dispatcher.decoder.step first = (frames.map .ok, .empty)) {frame : Frame}
    (fits : frame.Fits) (unreadable : frame.Unreadable) (second : Bytes)
    {pieces others : List (Nat × Bytes)} (whole : bytesOf pieces = first ++ frame.encode ++ second)
    (spared : bytesOf others = first ++ second) (now : Nat) :
    Matches (dispatcher.takePieces now generation pieces)
      (dispatcher.takePieces now generation others) := by
  refine (matches_takePieces (.refl dispatcher) coherent now now pieces).trans
    (.trans ?_ (matches_takePieces (.refl dispatcher) coherent now now others).symm)
  -- Both are cut where the frame stands: it does no more than wipe out the failures, and what follows
  -- meets dispatchers that differ in nothing else.
  rw [whole, spared, List.append_assoc, signal_data_append, signal_data_append]
  obtain ⟨up, empty⟩ := signal_boundary now live boundary
  generalize dispatcher.signal now generation (.data first) = early at up empty
  have skipped := signal_data_append early.1 now generation frame.encode second
  rw [signal_unreadable up empty fits unreadable] at skipped
  have rest : Matches ((early.1.healthy generation).signal now generation (.data second))
      (early.1.signal now generation (.data second)) :=
    matches_data (alike_healthy generation) now now second
  dsimp only at skipped ⊢
  rw [List.nil_append] at skipped
  rw [skipped]
  exact rest.behind rfl

theorem takePieces_stale (stale : dispatcher.connection.live ≠ some generation) (now : Nat)
    (pieces : List (Nat × Bytes)) : dispatcher.takePieces now generation pieces = (dispatcher, []) := by
  induction pieces generalizing now with
  | nil => rfl
  | cons piece pieces ih =>
    rw [takePieces, signal_stale stale]
    exact congrArg (fun rest => (rest.1, [] ++ rest.2)) (ih (now + piece.1))

theorem signal_data_survived {chunk : Bytes}
    (survived : (dispatcher.signal now generation (.data chunk)).1.connection.live = some generation) :
    (dispatcher.signal now generation (.data chunk)).1.restartAt = dispatcher.restartAt ∧
      ∀ effect ∈ (dispatcher.signal now generation (.data chunk)).2, effect.goesOn = true := by
  by_cases live : dispatcher.connection.live = some generation
  · obtain ⟨frames, -, ⟨tail, -, -, clean⟩ | ⟨fault, -, kept, faulty⟩⟩ := data_cases now live chunk
    · rw [clean]
      refine ⟨(takeFrames_clean _ now generation frames).2.2.2, fun effect shows => ?_⟩
      rcases mem_takeFrames_shown shows with ⟨settlement, rfl⟩ | ⟨message, rfl⟩
      · rfl
      · rfl
    · rw [faulty] at survived
      cases (lose_down kept).2.2.symm.trans survived
  · rw [signal_stale live]
    exact ⟨rfl, by simp⟩

theorem takePieces_survived {pieces : List (Nat × Bytes)}
    (survived : (dispatcher.takePieces now generation pieces).1.connection.live = some generation) :
    (dispatcher.takePieces now generation pieces).1.restartAt = dispatcher.restartAt ∧
      ∀ effect ∈ (dispatcher.takePieces now generation pieces).2, effect.goesOn = true := by
  induction pieces generalizing dispatcher now with
  | nil => exact ⟨rfl, by simp [takePieces]⟩
  | cons piece pieces ih =>
    obtain ⟨nanos, chunk⟩ := piece
    rw [takePieces] at survived ⊢
    by_cases between :
        (dispatcher.signal (now + nanos) generation (.data chunk)).1.connection.live = some generation
    · obtain ⟨timer, going⟩ := signal_data_survived between
      obtain ⟨later, rest⟩ := ih survived
      refine ⟨later.trans timer, fun effect shows => ?_⟩
      exact (List.mem_append.mp shows).elim (going effect) (rest effect)
    · rw [takePieces_stale between] at survived
      exact absurd survived between

def span : List (Nat × Bytes) → Nat
  | [] => 0
  | piece :: pieces => piece.1 + span pieces

theorem Overruns.mono {effects more : List Effect} {later : Nat} (overruns : Overruns now effects)
    (time : now ≤ later) (within : effects ⊆ more) : Overruns later more := by
  obtain ⟨delay, decided, late⟩ := overruns
  exact ⟨delay, within decided, late.trans (Nat.add_le_add_right time delay.nanos)⟩

theorem takePieces_stops {pieces : List (Nat × Bytes)}
    (stopped : .stopped ∈ (dispatcher.takePieces now generation pieces).2) :
    Overruns (now + span pieces) (dispatcher.takePieces now generation pieces).2 := by
  induction pieces generalizing dispatcher now with
  | nil => cases stopped
  | cons piece pieces ih =>
    obtain ⟨nanos, chunk⟩ := piece
    rw [takePieces] at stopped ⊢
    rcases List.mem_append.mp stopped with early | late
    · have stops : StopsByOverrun (now + nanos)
          (dispatcher.handle (now + nanos) (.signal generation (.data chunk))) := stops_handle (by simp)
      exact (stops.overruns.mp early).mono (by rw [span]; omega) (List.subset_append_left _ _)
    · exact (ih late).mono (by rw [span]; omega) (List.subset_append_right _ _)

end EngineClient.Dispatcher
