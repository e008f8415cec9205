import EngineClient.Proofs.Dispatcher.Coherence
import EngineClient.Proofs.Dispatcher.Data

/-!
Data that comes in pieces does to a dispatcher what it does in one. The decoder alone would start afresh
behind a fault; the dispatcher does not, since the loss makes the remaining pieces stale.
-/

namespace EngineClient.Dispatcher

variable {dispatcher : Dispatcher} {now : Nat} {generation : Link.Generation}

def holding (dispatcher : Dispatcher) (decoder : Frame.Decoder) : Dispatcher :=
  { dispatcher with decoder }

theorem dispatch_holding (decoder : Frame.Decoder) (frame : Frame) :
    (dispatcher.holding decoder).dispatch frame =
      ((dispatcher.dispatch frame).1.holding decoder, (dispatcher.dispatch frame).2) := by
  cases said : frame.inbound with
  | error error => simp [dispatch, said]
  | ok message =>
    cases message with
    | event push => simp [dispatch, said]
    | response reply =>
      have same : (dispatcher.holding decoder).pending = dispatcher.pending := rfl
      cases claimed : dispatcher.pending.resolve reply with
      | none => simp [dispatch, said, same, claimed]
      | some settled => simp [dispatch, said, claimed, holding]

theorem takeFrames_holding (decoder : Frame.Decoder) (frames : List Frame) :
    (dispatcher.holding decoder).takeFrames now generation (frames.map .ok) =
      ((dispatcher.takeFrames now generation (frames.map .ok)).1.holding decoder,
        (dispatcher.takeFrames now generation (frames.map .ok)).2) := by
  induction frames generalizing dispatcher with
  | nil => rfl
  | cons frame frames ih =>
    have healthy : (dispatcher.holding decoder).healthy generation =
      (dispatcher.healthy generation).holding decoder := rfl
    simp only [List.map_cons, takeFrames_frame, healthy, dispatch_holding, ih]

theorem signal_data_holding (live : dispatcher.connection.live = some generation) (chunk : Bytes) :
    dispatcher.signal now generation (.data chunk) =
      (dispatcher.holding (dispatcher.decoder.step chunk).2).takeFrames now generation
        (dispatcher.decoder.step chunk).1 := signal_data live

/-- Handling data is handling its first part and then, in the state that is left, its second. -/
theorem signal_data_append (dispatcher : Dispatcher) (now : Nat) (generation : Link.Generation)
    (first second : Bytes) :
    dispatcher.signal now generation (.data (first ++ second)) =
      let early := dispatcher.signal now generation (.data first)
      let late := early.1.signal now generation (.data second)
      (late.1, early.2 ++ late.2) := by
  by_cases live : dispatcher.connection.live = some generation
  · rw [signal_data_holding live, signal_data_holding live]
    rcases dispatcher.decoder.step_append first second with
      ⟨frames, tail, stepped, whole⟩ | ⟨frames, fault, stepped, whole⟩
    · obtain ⟨decoder, up, -, -⟩ :=
        takeFrames_clean (dispatcher.holding ⟨tail⟩) now generation frames
      have still : ((dispatcher.holding ⟨tail⟩).takeFrames now generation
          (frames.map .ok)).1.connection.live = some generation := up.trans live
      simp only [stepped, whole]
      rw [signal_data_holding still, decoder, takeFrames_append _ _ (by simp)]
      simp only [takeFrames_holding]
      rfl
    · have lost : ((dispatcher.holding .empty).takeFrames now generation
          (frames.map .ok ++ [.error fault])).1.connection.live ≠ some generation := by
        have up := (takeFrames_clean (dispatcher.holding .empty) now generation frames).2.1
        rw [takeFrames_append _ _ (by simp)]
        simp only [takeFrames_fault, (lose_down (up.trans live)).2.2]
        simp
      simp only [stepped, whole]
      rw [signal_stale lost, List.append_nil]
  · simp [signal_stale live]

theorem signal_data_nil (coherent : dispatcher.Coherent) :
    dispatcher.signal now generation (.data []) = (dispatcher, []) := by
  by_cases live : dispatcher.connection.live = some generation
  · rw [signal_data live, Frame.Decoder.step_nil coherent.incomplete]
    rfl
  · exact signal_stale live

end EngineClient.Dispatcher
