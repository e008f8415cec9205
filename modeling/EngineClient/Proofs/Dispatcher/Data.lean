import EngineClient.Proofs.Dispatcher.Decisions
import EngineClient.Proofs.Frame.Stream

/-!
What data on the live link does: its frames are dispatched one after another, each taking out the call
that it answers, and a fault behind them loses the link.
-/

namespace EngineClient

/-- The frame is a response that carries this id. -/
def Frame.Answers (frame : Frame) (id : String) (reply : Response) : Prop :=
  frame.inbound = .ok (.response reply) ∧ reply.id = some id

namespace Dispatcher

variable {dispatcher : Dispatcher} {now : Nat} {generation : Link.Generation}

@[simp] theorem dispatch_connection (frame : Frame) :
    (dispatcher.dispatch frame).1.connection = dispatcher.connection := by
  rcases dispatch_cases dispatcher frame with
    ⟨skipped, -⟩ | ⟨message, -, -, delivered⟩ | ⟨reply, id, number, -, -, -, settled⟩
  · rw [skipped]
  · rw [delivered]
  · rw [settled]

@[simp] theorem dispatch_decoder (frame : Frame) :
    (dispatcher.dispatch frame).1.decoder = dispatcher.decoder := by
  rcases dispatch_cases dispatcher frame with
    ⟨skipped, -⟩ | ⟨message, -, -, delivered⟩ | ⟨reply, id, number, -, -, -, settled⟩
  · rw [skipped]
  · rw [delivered]
  · rw [settled]

theorem mem_dispatch {frame : Frame} {entry : String × Call.Number} :
    entry ∈ (dispatcher.dispatch frame).1.pending.calls ↔
      entry ∈ dispatcher.pending.calls ∧ ∀ reply, ¬ frame.Answers entry.1 reply := by
  rcases dispatch_cases dispatcher frame with
    ⟨skipped, error, faulty⟩ | ⟨message, said, unclaimed, delivered⟩ |
    ⟨reply, id, number, said, answered, -, settled⟩
  · rw [skipped]
    simp [Frame.Answers, faulty]
  · rw [delivered]
    refine ⟨fun present => ⟨present, ?_⟩, And.left⟩
    rintro reply ⟨same, answered⟩
    have free := Call.Pending.resolve_eq_none_iff.mp
      (unclaimed reply (by rw [said] at same; exact Except.ok.inj same)) entry.1 answered
    exact Call.Pending.free_iff.mp free entry.2 present
  · rw [settled, Call.Pending.mem_erase]
    refine and_congr_right fun _ => ⟨?_, ?_⟩
    · rintro other said' ⟨same, claimed⟩
      rw [said] at same
      cases same
      exact other (Option.some.inj (claimed.symm.trans answered))
    · rintro free rfl
      exact free reply ⟨said, answered⟩

theorem takeFrames_append (first second : List (Except Frame.Error Frame))
    (clean : ∀ fault, .error fault ∉ first) :
    dispatcher.takeFrames now generation (first ++ second) =
      let early := dispatcher.takeFrames now generation first
      let late := early.1.takeFrames now generation second
      (late.1, early.2 ++ late.2) := by
  induction first generalizing dispatcher with
  | nil => simp [takeFrames_nil]
  | cons item rest ih =>
    cases item with
    | error fault => exact absurd List.mem_cons_self (clean fault)
    | ok frame =>
      have later := fun dispatcher : Dispatcher =>
        @ih dispatcher fun fault member => clean fault (List.mem_cons_of_mem _ member)
      simp only [List.cons_append, takeFrames_frame, later, List.append_assoc]

theorem takeFrames_clean (dispatcher : Dispatcher) (now : Nat) (generation : Link.Generation)
    (frames : List Frame) :
    let after := (dispatcher.takeFrames now generation (frames.map .ok)).1
    after.decoder = dispatcher.decoder ∧ after.connection.live = dispatcher.connection.live ∧
      after.connection.generation = dispatcher.connection.generation ∧
      after.restartAt = dispatcher.restartAt := by
  induction frames generalizing dispatcher with
  | nil => exact ⟨rfl, rfl, rfl, rfl⟩
  | cons frame rest ih =>
    rw [List.map_cons, takeFrames_frame]
    obtain ⟨decoder, live, newest, timer⟩ := ih ((dispatcher.healthy generation).dispatch frame).1
    exact ⟨by simpa using decoder, by simpa using live, by simpa using newest,
      timer.trans (dispatch_restartAt frame)⟩

theorem mem_takeFrames {frames : List Frame} {entry : String × Call.Number} :
    entry ∈ (dispatcher.takeFrames now generation (frames.map .ok)).1.pending.calls ↔
      entry ∈ dispatcher.pending.calls ∧
        ∀ frame ∈ frames, ∀ reply, ¬ frame.Answers entry.1 reply := by
  induction frames generalizing dispatcher with
  | nil => simp [takeFrames_nil]
  | cons frame rest ih =>
    rw [List.map_cons, takeFrames_frame]
    simp only [ih, mem_dispatch, healthy_pending, List.forall_mem_cons, and_assoc]

theorem lose_down {reason : String} (live : dispatcher.connection.live = some generation) :
    let after := (dispatcher.lose now generation reason).1
    after.pending = .empty ∧ after.decoder = .empty ∧ after.connection.live = none := by
  rw [lose_current live]
  rcases schedule_cases dispatcher.bereft now dispatcher.connection.lost.decision with
    ⟨restartAt, moved⟩ | ⟨delay, -, -, stopped⟩
  · rw [moved]
    exact ⟨rfl, rfl, rfl⟩
  · rw [stopped]
    exact ⟨rfl, rfl, rfl⟩

/-- Data is a run of frames, and behind them a tail that holds no further frame, or a fault. -/
theorem data_cases (now : Nat) (live : dispatcher.connection.live = some generation)
    (chunk : Bytes) :
    ∃ frames, (∀ frame ∈ frames, frame.Fits) ∧
      ((∃ tail, dispatcher.decoder.buffer ++ chunk = Frame.encodeAll frames ++ tail ∧
        (dispatcher.decoder.step chunk).1 = frames.map .ok ∧
        dispatcher.signal now generation (.data chunk) =
          { dispatcher with decoder := ⟨tail⟩ }.takeFrames now generation (frames.map .ok)) ∨
      (∃ fault,
        (dispatcher.decoder.step chunk).1 = frames.map .ok ++ [.error fault] ∧
        let early := { dispatcher with decoder := .empty }.takeFrames now generation
          (frames.map .ok)
        let late := early.1.lose now generation ("protocol error: " ++ fault.message)
        early.1.connection.live = some generation ∧
        dispatcher.signal now generation (.data chunk) = (late.1, early.2 ++ late.2))) := by
  obtain ⟨frames, fits, ⟨tail, split, -, stepped⟩ | ⟨tail, fault, -, -, stepped⟩⟩ :=
    Frame.Decoder.step_cases dispatcher.decoder chunk
  · refine ⟨frames, fits, .inl ⟨tail, split, by rw [stepped], ?_⟩⟩
    rw [signal_data live, stepped]
  · refine ⟨frames, fits, .inr ⟨fault, by rw [stepped], ?_, ?_⟩⟩
    · exact (takeFrames_clean _ now generation frames).2.1.trans live
    · rw [signal_data live, stepped, takeFrames_append _ _ (by simp)]
      rfl

end Dispatcher

end EngineClient
