import EngineClient.Call.Desk
import EngineClient.Proofs.Dispatcher.Carriage

/-!
Where inbound frames go. Each frame that comes in on the live link is skipped, claimed by the call that
waits for it, or delivered; which of these depends on the frame and on the calls that wait at that moment.
-/

namespace EngineClient

/-- The client makes nothing of the frame: it is a request, or its body does not parse. -/
inductive Frame.Unreadable : Frame → Prop where
  | request (body : Bytes) : Unreadable ⟨.request, body⟩
  | response {body : Bytes} {error : Json.Error} (fault : Response.parse body = .error error) :
      Unreadable ⟨.response, body⟩
  | event {body : Bytes} {error : Json.Error} (fault : Event.parse body = .error error) :
      Unreadable ⟨.event, body⟩

/-- No call waits for the message: it is an event, or a response without an id under which one does. -/
def Inbound.Unclaimed (waiting : Call.Pending) : Inbound → Prop
  | .event _ => True
  | .response reply => ∀ id, reply.id = some id → ∀ number, (id, number) ∉ waiting.calls

theorem Frame.unreadable_iff {frame : Frame} :
    frame.Unreadable ↔ ∃ error, frame.inbound = .error error := by
  constructor
  · intro unreadable
    cases unreadable with
    | request body => exact ⟨_, rfl⟩
    | @response body error fault =>
      exact ⟨malformed "response" error, by simp [inbound, fault, Except.map, Except.mapError]⟩
    | @event body error fault =>
      exact ⟨malformed "event" error, by simp [inbound, fault, Except.map, Except.mapError]⟩
  · obtain ⟨tag, body⟩ := frame
    rintro ⟨error, said⟩
    cases tag with
    | request => exact .request body
    | response =>
      cases parsed : Response.parse body with
      | error fault => exact .response parsed
      | ok reply => simp [inbound, parsed, Except.map, Except.mapError] at said
    | event =>
      cases parsed : Event.parse body with
      | error fault => exact .event parsed
      | ok push => simp [inbound, parsed, Except.map, Except.mapError] at said

theorem Frame.Unreadable.inbound_ne {frame : Frame} (unreadable : frame.Unreadable)
    (message : Inbound) : frame.inbound ≠ .ok message := by
  obtain ⟨error, faulty⟩ := unreadable_iff.mp unreadable
  simp [faulty]

theorem Frame.Answers.unique {frame : Frame} {id other : String} {reply said : Response}
    (answers : frame.Answers id reply) (again : frame.Answers other said) :
    id = other ∧ reply = said := by
  obtain ⟨read, named⟩ := answers
  obtain ⟨read_again, named_again⟩ := again
  cases read.symm.trans read_again
  exact ⟨Option.some.inj (named.symm.trans named_again), rfl⟩

namespace Dispatcher

/-- What becomes of a frame. -/
inductive Fate where
  | skipped
  | claimed (id : String) (settlement : Call.Settlement)
  | delivered (message : Inbound)

/-- The fate of a frame that comes in while these calls wait. -/
def fateOf (waiting : Call.Pending) (frame : Frame) : Fate :=
  match frame.inbound with
  | .error _ => .skipped
  | .ok (.event push) => .delivered (.event push)
  | .ok (.response reply) =>
    match reply.id.bind fun id => (waiting.find? id).map (id, ·) with
    | some (id, number) => .claimed id ⟨number, Call.outcomeOf reply⟩
    | none => .delivered (.response reply)

namespace Fate

def leaves (waiting : Call.Pending) : Fate → Call.Pending
  | .claimed id _ => waiting.erase id
  | _ => waiting

def effects : Fate → List Effect
  | .skipped => []
  | .claimed _ settlement => [.settled settlement]
  | .delivered message => [.delivered message]

def message? : Fate → Option Inbound
  | .delivered message => some message
  | _ => none

end Fate

variable {dispatcher : Dispatcher} {now : Nat} {generation : Link.Generation}
  {waiting : Call.Pending} {frame : Frame}

theorem fateOf_cases (waiting : Call.Pending) (frame : Frame) :
    (frame.Unreadable ∧ fateOf waiting frame = .skipped) ∨
    (∃ id number reply, frame.Answers id reply ∧ waiting.find? id = some number ∧
      fateOf waiting frame = .claimed id ⟨number, Call.outcomeOf reply⟩) ∨
    (∃ message, frame.inbound = .ok message ∧ message.Unclaimed waiting ∧
      fateOf waiting frame = .delivered message) := by
  cases said : frame.inbound with
  | error error => exact .inl ⟨Frame.unreadable_iff.mpr ⟨error, said⟩, by simp [fateOf, said]⟩
  | ok message =>
    cases message with
    | event push => exact .inr (.inr ⟨_, rfl, trivial, by simp [fateOf, said]⟩)
    | response reply =>
      cases claimed : reply.id.bind fun id => (waiting.find? id).map (id, ·) with
      | some claim =>
        obtain ⟨id, answered, waits⟩ := Option.bind_eq_some_iff.mp claimed
        obtain ⟨number, found, rfl⟩ := Option.map_eq_some_iff.mp waits
        exact .inr (.inl ⟨id, number, reply, ⟨said, answered⟩, found, by
          simp only [fateOf, said, claimed]⟩)
      | none =>
        refine .inr (.inr ⟨_, rfl, fun id answered => ?_, by simp only [fateOf, said, claimed]⟩)
        exact Call.Pending.find_none_iff.mp
          (Option.map_eq_none_iff.mp (Option.bind_eq_none_iff.mp claimed id answered))

theorem fateOf_skipped : fateOf waiting frame = .skipped ↔ frame.Unreadable := by
  rcases fateOf_cases waiting frame with
    ⟨unreadable, fate⟩ | ⟨id, number, reply, ⟨said, -⟩, -, fate⟩ | ⟨message, said, -, fate⟩
  · exact iff_of_true fate unreadable
  · exact iff_of_false (by simp [fate]) fun unreadable => unreadable.inbound_ne _ said
  · exact iff_of_false (by simp [fate]) fun unreadable => unreadable.inbound_ne _ said

theorem fateOf_claimed (distinct : waiting.Distinct) {id : String} {settlement : Call.Settlement} :
    fateOf waiting frame = .claimed id settlement ↔
      ∃ reply, frame.Answers id reply ∧ (id, settlement.call) ∈ waiting.calls ∧
        settlement.outcome = Call.outcomeOf reply := by
  constructor
  · intro fate
    rcases fateOf_cases waiting frame with
      ⟨-, other⟩ | ⟨name, number, reply, answers, found, other⟩ | ⟨message, -, -, other⟩
    · cases other.symm.trans fate
    · cases other.symm.trans fate
      exact ⟨reply, answers, Call.Pending.mem_of_find found, rfl⟩
    · cases other.symm.trans fate
  · rintro ⟨reply, answers, waits, outcome⟩
    have found := Call.Pending.find_of_mem distinct waits
    rcases fateOf_cases waiting frame with
      ⟨unreadable, -⟩ | ⟨name, number, said, again, there, fate⟩ | ⟨message, read, free, -⟩
    · exact absurd answers.1 (unreadable.inbound_ne _)
    · obtain ⟨rfl, rfl⟩ := answers.unique again
      cases found.symm.trans there
      rw [fate, ← outcome]
    · cases read.symm.trans answers.1
      exact absurd waits (free id answers.2 settlement.call)

theorem fateOf_delivered {message : Inbound} :
    fateOf waiting frame = .delivered message ↔
      frame.inbound = .ok message ∧ message.Unclaimed waiting := by
  rcases fateOf_cases waiting frame with
    ⟨unreadable, fate⟩ | ⟨id, number, reply, answers, found, fate⟩ | ⟨other, said, free, fate⟩
  · exact iff_of_false (by simp [fate]) fun readable => unreadable.inbound_ne _ readable.1
  · refine iff_of_false (by simp [fate]) ?_
    rintro ⟨said, free⟩
    cases said.symm.trans answers.1
    exact free id answers.2 number (Call.Pending.mem_of_find found)
  · rw [fate, said]
    constructor
    · rintro ⟨⟩
      exact ⟨rfl, free⟩
    · rintro ⟨⟨⟩, -⟩
      rfl

theorem leaves_claimed (distinct : waiting.Distinct) {id : String} {settlement : Call.Settlement}
    (claimed : fateOf waiting frame = .claimed id settlement) :
    ∃ before later, waiting.calls = before ++ (id, settlement.call) :: later ∧
      ((fateOf waiting frame).leaves waiting).calls = before ++ later := by
  obtain ⟨reply, -, waits, -⟩ := (fateOf_claimed distinct).mp claimed
  rw [claimed]
  exact Call.Pending.exists_erase distinct waits

theorem resolve_claimed (distinct : waiting.Distinct) {id : String} {settlement : Call.Settlement}
    (claimed : fateOf waiting frame = .claimed id settlement) :
    ∃ reply, frame.Answers id reply ∧ ∀ issued gone,
      Call.Desk.apply ⟨waiting, issued, gone⟩ (.resolve reply) =
        (.resolved, [settlement], ⟨(fateOf waiting frame).leaves waiting, issued, gone⟩) := by
  obtain ⟨reply, answers, waits, outcome⟩ := (fateOf_claimed distinct).mp claimed
  have resolved : waiting.resolve reply = some (settlement, waiting.erase id) := by
    refine Call.Pending.resolve_eq_some_iff.mpr
      ⟨id, settlement.call, answers.2, Call.Pending.find_of_mem distinct waits, ?_, rfl⟩
    rw [← outcome]
  refine ⟨reply, answers, fun issued gone => ?_⟩
  rw [claimed]
  simp [Call.Desk.apply, resolved, Fate.leaves]

theorem dispatch_fate (dispatcher : Dispatcher) (frame : Frame) :
    dispatcher.dispatch frame =
      ({ dispatcher with pending := (fateOf dispatcher.pending frame).leaves dispatcher.pending },
        (fateOf dispatcher.pending frame).effects) := by
  rcases dispatch_cases dispatcher frame with
    ⟨skipped, unread⟩ | ⟨message, said, unclaimed, delivered⟩ |
    ⟨reply, id, number, said, answered, found, settled⟩
  · rw [skipped, fateOf_skipped.mpr (Frame.unreadable_iff.mpr unread)]
    rfl
  · have free : message.Unclaimed dispatcher.pending := by
      cases message with
      | event push => trivial
      | response reply =>
        intro id answered
        exact Call.Pending.free_iff.mp
          (Call.Pending.resolve_eq_none_iff.mp (unclaimed reply rfl) id answered)
    rw [delivered, fateOf_delivered.mpr ⟨said, free⟩]
    rfl
  · have claimed : fateOf dispatcher.pending frame =
        .claimed id ⟨number, Call.outcomeOf reply⟩ := by
      simp [fateOf, said, answered, found]
    rw [settled, claimed]
    rfl

/-- A frame that comes in on the live link of a generation, and the calls that wait at that moment. -/
structure Receipt where
  generation : Link.Generation
  waiting : Call.Pending
  frame : Frame

def Receipt.fate (receipt : Receipt) : Fate := fateOf receipt.waiting receipt.frame

/-- Frames that come in one after another: each is met by the calls that the ones before it have left. -/
def receipts (generation : Link.Generation) (waiting : Call.Pending) : List Frame → List Receipt
  | [] => []
  | frame :: frames =>
    ⟨generation, waiting, frame⟩ ::
      receipts generation ((fateOf waiting frame).leaves waiting) frames

def remaining (waiting : Call.Pending) (frames : List Frame) : Call.Pending :=
  frames.foldl (fun waiting frame => (fateOf waiting frame).leaves waiting) waiting

def effectsOf (received : List Receipt) : List Effect :=
  received.flatMap fun receipt => receipt.fate.effects

def hearing (dispatcher : Dispatcher) : Stimulus → List Receipt
  | .signal generation (.data chunk) =>
    if dispatcher.connection.live = some generation then
      receipts generation dispatcher.pending
        (Frame.Decoder.framesOf (dispatcher.decoder.step chunk).1)
    else []
  | _ => []

def framesOn (generation : Link.Generation) (received : List Receipt) : List Frame :=
  (received.filter fun receipt => receipt.generation = generation).map Receipt.frame

def Effect.message? : Effect → Option Inbound
  | .delivered message => some message
  | _ => none

def deliveries (effects : List Effect) : List Inbound := effects.filterMap Effect.message?

theorem frame_receipts (frames : List Frame) :
    (receipts generation waiting frames).map Receipt.frame = frames := by
  induction frames generalizing waiting with
  | nil => rfl
  | cons frame frames ih => rw [receipts, List.map_cons, ih]

theorem generation_receipts {frames : List Frame} :
    ∀ receipt ∈ receipts generation waiting frames, receipt.generation = generation := by
  induction frames generalizing waiting with
  | nil => exact nofun
  | cons frame frames ih => exact List.forall_mem_cons.mpr ⟨rfl, ih⟩

theorem Fate.distinct_leaves (distinct : waiting.Distinct) (fate : Fate) :
    (fate.leaves waiting).Distinct := by
  cases fate with
  | skipped => exact distinct
  | claimed id settlement => exact Call.Pending.distinct_erase distinct
  | delivered message => exact distinct

theorem distinct_receipts (distinct : waiting.Distinct) {frames : List Frame} :
    ∀ receipt ∈ receipts generation waiting frames, receipt.waiting.Distinct := by
  induction frames generalizing waiting with
  | nil => exact nofun
  | cons frame frames ih =>
    exact List.forall_mem_cons.mpr ⟨distinct, ih (Fate.distinct_leaves distinct _)⟩

theorem framesOn_receipts (frames : List Frame) :
    framesOn generation (receipts generation waiting frames) = frames := by
  rw [framesOn, List.filter_eq_self.mpr, frame_receipts]
  simpa using generation_receipts

theorem framesOn_append (first second : List Receipt) :
    framesOn generation (first ++ second) =
      framesOn generation first ++ framesOn generation second := by
  simp [framesOn]

theorem deliveries_append (first second : List Effect) :
    deliveries (first ++ second) = deliveries first ++ deliveries second := List.filterMap_append

theorem deliveries_eq_nil {effects : List Effect} (silent : ∀ message, .delivered message ∉ effects) :
    deliveries effects = [] := by
  apply List.filterMap_eq_nil_iff.mpr
  intro effect present
  cases effect with
  | delivered message => exact absurd present (silent message)
  | _ => rfl

theorem deliveries_effectsOf (received : List Receipt) :
    deliveries (effectsOf received) = received.filterMap fun receipt => receipt.fate.message? := by
  induction received with
  | nil => rfl
  | cons receipt received ih =>
    rw [effectsOf, List.flatMap_cons, deliveries_append, ← effectsOf, ih, List.filterMap_cons]
    cases receipt.fate <;> rfl

theorem stopped_effectsOf (received : List Receipt) : .stopped ∉ effectsOf received := by
  intro stopped
  obtain ⟨receipt, -, present⟩ := List.mem_flatMap.mp stopped
  cases fate : receipt.fate with
  | _ => simp [fate, Fate.effects] at present

/-- The dispatcher once frames have come in: any of them shows that the link is healthy. -/
def tended (dispatcher : Dispatcher) (generation : Link.Generation) (frames : List Frame) :
    Dispatcher :=
  if frames.isEmpty then dispatcher else dispatcher.healthy generation

theorem healthy_healthy : (dispatcher.healthy generation).healthy generation =
    dispatcher.healthy generation := by
  simp only [healthy, Connection.markHealthy]
  split
  · split <;> rfl
  · rfl

theorem takeFrames_eq (dispatcher : Dispatcher) (now : Nat) (generation : Link.Generation)
    (frames : List Frame) : dispatcher.takeFrames now generation (frames.map .ok) =
      ({ dispatcher.tended generation frames with pending := remaining dispatcher.pending frames },
        effectsOf (receipts generation dispatcher.pending frames)) := by
  induction frames generalizing dispatcher with
  | nil => rfl
  | cons frame frames ih =>
    have again (waiting : Call.Pending) :
        ({ dispatcher.healthy generation with pending := waiting } : Dispatcher).tended generation frames =
          { dispatcher.healthy generation with pending := waiting } := by
      have still : ({ dispatcher.healthy generation with pending := waiting } : Dispatcher).healthy
          generation = { (dispatcher.healthy generation).healthy generation with pending := waiting } := rfl
      rw [tended, still, healthy_healthy]
      split <;> rfl
    rw [List.map_cons, takeFrames_frame, dispatch_fate]
    simp only [ih, again]
    rfl

theorem takeFrames_receipts (dispatcher : Dispatcher) (now : Nat) (generation : Link.Generation)
    (frames : List Frame) :
    (dispatcher.takeFrames now generation (frames.map .ok)).1.pending =
        remaining dispatcher.pending frames ∧
      (dispatcher.takeFrames now generation (frames.map .ok)).2 =
        effectsOf (receipts generation dispatcher.pending frames) := by
  rw [takeFrames_eq]
  exact ⟨rfl, rfl⟩

/-- What is heard from data on the live link comes to its fate. Behind it there is nothing, and the link
goes on; or there is a fault, the link is dropped, and nothing more is delivered. -/
theorem signal_receipts (live : dispatcher.connection.live = some generation) (now : Nat)
    (chunk : Bytes) :
    let items := (dispatcher.decoder.step chunk).1
    let frames := Frame.Decoder.framesOf items
    let after := dispatcher.signal now generation (.data chunk)
    let heard := effectsOf (receipts generation dispatcher.pending frames)
    (items = frames.map .ok ∧ after.2 = heard ∧
      after.1.pending = remaining dispatcher.pending frames ∧
      after.1.connection.live = some generation) ∨
    ∃ fault ends, items = frames.map .ok ++ [.error fault] ∧
      after.2 = heard ++ .dropped generation :: ends ∧ after.1.connection.live = none ∧
      ∀ message, .delivered message ∉ ends := by
  obtain ⟨frames, -, ⟨tail, -, stepped, clean⟩ | ⟨fault, stepped, kept, faulty⟩⟩ :=
    data_cases now live chunk
  · left
    obtain ⟨pending, effects⟩ :=
      takeFrames_receipts { dispatcher with decoder := ⟨tail⟩ } now generation frames
    simp only [stepped, Frame.Decoder.framesOf_ok, clean]
    exact ⟨trivial, effects, pending, (takeFrames_clean _ now generation frames).2.1.trans live⟩
  · right
    have effects :=
      (takeFrames_receipts { dispatcher with decoder := .empty } now generation frames).2
    have only : Frame.Decoder.framesOf (frames.map .ok ++ [.error fault]) = frames := by
      rw [Frame.Decoder.framesOf_append, Frame.Decoder.framesOf_ok]
      exact List.append_nil frames
    obtain ⟨ends, lost⟩ : ∃ ends,
        ((({ dispatcher with decoder := .empty } : Dispatcher).takeFrames now generation
          (frames.map .ok)).1.lose now generation ("protocol error: " ++ fault.message)).2 =
          .dropped generation :: ends := ⟨_, by rw [lose_current kept]; rfl⟩
    simp only [stepped, only, faulty, effects, lost]
    refine ⟨fault, ends, rfl, rfl, (lose_down kept).2.2, fun message delivers => ?_⟩
    have shown := List.mem_cons_of_mem (.dropped generation) delivers
    rw [← lost] at shown
    rcases mem_lose kept shown with same | ⟨number, -, same⟩ | same | same <;> cases same

theorem hearing_data (live : dispatcher.connection.live = some generation) (chunk : Bytes) :
    dispatcher.hearing (.signal generation (.data chunk)) =
      receipts generation dispatcher.pending
        (Frame.Decoder.framesOf (dispatcher.decoder.step chunk).1) := if_pos live

theorem hearing_stale {signal : Link.Signal} (stale : dispatcher.connection.live ≠ some generation) :
    dispatcher.hearing (.signal generation signal) = [] := by
  cases signal with
  | data chunk => exact if_neg stale
  | closed reason => rfl
  | failed detail => rfl

theorem mem_hearing {stimulus : Stimulus} {receipt : Receipt}
    (heard : receipt ∈ dispatcher.hearing stimulus) :
    ∃ chunk, stimulus = .signal receipt.generation (.data chunk) ∧
      dispatcher.connection.live = some receipt.generation ∧
      receipt ∈ receipts receipt.generation dispatcher.pending
        (Frame.Decoder.framesOf (dispatcher.decoder.step chunk).1) := by
  cases stimulus with
  | signal generation signal =>
    by_cases live : dispatcher.connection.live = some generation
    · cases signal with
      | data chunk =>
        rw [hearing_data live] at heard
        obtain rfl := generation_receipts receipt heard
        exact ⟨chunk, rfl, live, heard⟩
      | closed reason => cases heard
      | failed detail => cases heard
    · rw [hearing_stale live] at heard
      cases heard
  | call number request attempt writable => cases heard
  | timer attempt => cases heard
  | stats => cases heard
  | shutdown => cases heard

theorem settled_hearing {stimulus : Stimulus} {receipt : Receipt} {id : String}
    {settlement : Call.Settlement} (heard : receipt ∈ dispatcher.hearing stimulus)
    (claimed : receipt.fate = .claimed id settlement) :
    .settled settlement ∈ (dispatcher.handle now stimulus).2 := by
  obtain ⟨chunk, rfl, live, present⟩ := mem_hearing heard
  have settles : .settled settlement ∈ effectsOf (receipts receipt.generation dispatcher.pending
      (Frame.Decoder.framesOf (dispatcher.decoder.step chunk).1)) :=
    List.mem_flatMap.mpr ⟨receipt, present, by simp [claimed, Fate.effects]⟩
  rw [handle]
  rcases signal_receipts live now chunk with ⟨-, shown, -⟩ | ⟨fault, ends, -, shown, -⟩
  · rw [shown]
    exact settles
  · rw [shown]
    exact List.mem_append_left _ settles

theorem unheard {stimulus : Stimulus}
    (stale : ∀ chunk, stimulus = .signal generation (.data chunk) →
      dispatcher.connection.live ≠ some generation) :
    dispatcher.receiving generation stimulus = [] ∧
      framesOn generation (dispatcher.hearing stimulus) = [] := by
  constructor
  · cases stimulus with
    | signal origin signal =>
      cases signal with
      | data chunk =>
        refine if_neg ?_
        rintro ⟨live, rfl⟩
        exact stale chunk rfl live
      | closed reason => rfl
      | failed detail => rfl
    | call number request attempt writable => rfl
    | timer attempt => rfl
    | stats => rfl
    | shutdown => rfl
  · refine List.map_eq_nil_iff.mpr (List.filter_eq_nil_iff.mpr fun receipt heard same => ?_)
    obtain rfl : receipt.generation = generation := by simpa using same
    obtain ⟨chunk, brings, live, -⟩ := mem_hearing heard
    exact stale chunk brings live

theorem splits_hearing (coherent : dispatcher.Coherent)
    (live : dispatcher.connection.live = some generation) (stimulus : Stimulus) :
    ∃ rest, Frame.Decoder.Splits (dispatcher.decoder.buffer ++ dispatcher.receiving generation stimulus)
      (framesOn generation (dispatcher.hearing stimulus)) rest := by
  by_cases heard : ∃ chunk, stimulus = .signal generation (.data chunk)
  · obtain ⟨chunk, rfl⟩ := heard
    have brought : dispatcher.receiving generation (.signal generation (.data chunk)) = chunk :=
      if_pos ⟨live, rfl⟩
    rw [hearing_data live, framesOn_receipts, brought]
    exact Frame.Decoder.splits_framesOf dispatcher.decoder chunk
  · have other : ∀ chunk, stimulus = .signal generation (.data chunk) →
        dispatcher.connection.live ≠ some generation := fun chunk brings => absurd ⟨chunk, brings⟩ heard
    obtain ⟨nothing, none_heard⟩ := unheard other
    rw [nothing, none_heard, List.append_nil]
    exact ⟨_, Frame.Decoder.splits_nil coherent.incomplete⟩

theorem deliveries_handle (coherent : dispatcher.Coherent) (stimulus : Stimulus) :
    deliveries (dispatcher.handle now stimulus).2 =
      (dispatcher.hearing stimulus).filterMap fun receipt => receipt.fate.message? := by
  cases stimulus with
  | call number request attempt writable =>
    exact deliveries_eq_nil fun message delivers => by simpa using mem_call coherent delivers
  | timer attempt =>
    exact deliveries_eq_nil fun message delivers => by simpa using mem_restart coherent delivers
  | stats => rfl
  | shutdown =>
    exact deliveries_eq_nil fun message delivers => by simpa using mem_shutdown delivers
  | signal generation signal =>
    by_cases live : dispatcher.connection.live = some generation
    · have silent_lose (reason : String) :
          deliveries (dispatcher.lose now generation reason).2 = [] :=
        deliveries_eq_nil fun message delivers => by simpa using mem_lose live delivers
      cases signal with
      | data chunk =>
        rw [handle, hearing_data live, ← deliveries_effectsOf]
        rcases signal_receipts live now chunk with
          ⟨-, shown, -⟩ | ⟨fault, ends, -, shown, -, silent⟩
        · rw [shown]
        · have nothing : deliveries (.dropped generation :: ends) = [] :=
            deliveries_eq_nil (by simpa using silent)
          rw [shown, deliveries_append, nothing, List.append_nil]
      | closed reason =>
        rw [handle, signal_closed live]
        exact silent_lose reason.text
      | failed detail =>
        rw [handle, signal_failed live]
        exact silent_lose detail
    · rw [handle, signal_stale live, hearing_stale live]
      rfl

end Dispatcher

end EngineClient
