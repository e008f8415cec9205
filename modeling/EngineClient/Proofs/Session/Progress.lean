import EngineClient.Proofs.Client.Identifiers
import EngineClient.Proofs.Link.Acts
import EngineClient.Proofs.Session.Flow

/-!
A session never comes to a stop with something left to do: further turns take up every call, hand it to the
engine, answer it and bring the answer back.
-/

namespace EngineClient.Session

variable {listing : String → List Entry} {paths : List String} {session after last : Session}
  {outputs : List Client.Output} {sending : List Request}

theorem idPrefix_turn (session : Session) (turn : Turn) :
    (session.turn listing turn).1.client.idPrefix = session.client.idPrefix := by
  cases turn with
  | list path => exact Client.idPrefix_perform _ _
  | handle => exact Client.idPrefix_perform _ _
  | pour amount => exact Client.idPrefix_perform _ _
  | read => exact Client.idPrefix_perform _ _
  | answer index =>
    rw [Session.turn]
    cases session.unanswered[index]? <;> rfl
  | aside frame =>
    rw [Session.turn]
    cases session.client.link <;> rfl
  | deliver count =>
    rw [Session.turn]
    cases session.client.link with
    | none => rfl
    | some link => exact Client.idPrefix_perform _ _

theorem idPrefix_run (session : Session) (turns : List Turn) :
    (session.run listing turns).1.client.idPrefix = session.client.idPrefix := by
  induction turns generalizing session with
  | nil => rfl
  | cons turn turns ih => exact (ih _).trans (idPrefix_turn session turn)

/-- Some turns that are permitted lead from one session to the other, and nothing is listed in them. -/
inductive Leads (listing : String → List Entry) : Session → Session → Prop
  | refl (session : Session) : Leads listing session session
  | turn {session after : Session} (turn : Turn) (quiet : listed [turn] = [])
      (permitted : session.Permitted listing turn)
      (rest : Leads listing (session.turn listing turn).1 after) : Leads listing session after

theorem Leads.trans (first : Leads listing session after) (second : Leads listing after last) :
    Leads listing session last := by
  induction first with
  | refl => exact second
  | turn turn quiet permitted _ ih => exact .turn turn quiet permitted (ih second)

theorem Leads.exists_turns (leads : Leads listing session after) :
    ∃ more, listed more = [] ∧ Permits listing session more ∧
      (session.run listing more).1 = after := by
  induction leads with
  | refl => exact ⟨[], rfl, trivial, rfl⟩
  | turn turn quiet permitted _ ih =>
    obtain ⟨more, none_listed, permits, reached⟩ := ih
    refine ⟨turn :: more, ?_, ⟨permitted, permits⟩, reached⟩
    rw [listed_cons, quiet, none_listed]
    rfl

theorem Leads.idPrefix (leads : Leads listing session after) :
    after.client.idPrefix = session.client.idPrefix := by
  induction leads with
  | refl => rfl
  | turn turn _ _ _ ih => exact ih.trans (idPrefix_turn _ turn)

theorem Leads.flow (leads : Leads listing session after)
    (flow : Flow listing paths session outputs sending) :
    ∃ outputs sending, Flow listing paths after outputs sending := by
  obtain ⟨more, none_listed, permits, rfl⟩ := leads.exists_turns
  obtain ⟨sending, flow⟩ := flow_run flow permits
  rw [none_listed, List.append_nil] at flow
  exact ⟨_, sending, flow⟩

theorem unclaimed_front {pending : Call.Pending} {writings later : List Writing}
    (unclaimed : Unclaimed pending (writings ++ later)) : Unclaimed pending writings := by
  induction writings generalizing pending with
  | nil => trivial
  | cons writing writings ih =>
    cases writing with
    | answer request => exact ih unclaimed
    | aside frame => exact ⟨unclaimed.1, ih unclaimed.2⟩

theorem unclaimed_answer {pending : Call.Pending} {writings : List Writing} (request : Request)
    (unclaimed : Unclaimed pending writings) :
    Unclaimed pending (writings ++ [.answer request]) := by
  induction writings generalizing pending with
  | nil => trivial
  | cons writing writings ih =>
    cases writing with
    | answer request => exact ih unclaimed
    | aside frame => exact ⟨unclaimed.1, ih unclaimed.2⟩

theorem exists_read_out (flow : Flow listing paths session outputs sending)
    (unclaimed : Unclaimed session.client.dispatcher.pending session.written) :
    ∃ after, Leads listing session after ∧ after.client.signals = [] ∧
      after.outbox = session.outbox ∧ after.unanswered = session.unanswered ∧
      after.client.commands = session.client.commands ∧ after.client.link = session.client.link := by
  generalize waiting : session.client.signals = signals
  induction signals generalizing session outputs sending with
  | nil => exact ⟨session, .refl session, waiting, rfl, rfl, rfl, rfl⟩
  | cons entry later ih =>
    obtain ⟨generation, read, unread, tail, written, front, -, turned⟩ := flow.turn_read waiting
    rw [written] at unclaimed
    have permitted : session.Permitted listing .read := by
      rw [Permitted, front]
      exact unclaimed_front unclaimed
    have next := flow_read flow permitted
    obtain ⟨-, rest, -⟩ := @take_writings listing paths
      { session.client.dispatcher with decoder := ⟨tail⟩ } session.client.now generation read unread
      flow.accounted.coherent.distinct unclaimed _ (flow.underway_read written)
    rw [turned] at next
    obtain ⟨after, leads, kept⟩ := ih next rest rfl
    rw [← turned] at leads
    exact ⟨after, .turn .read rfl permitted leads, kept⟩

theorem exists_drained (flow : Flow listing paths session outputs sending)
    (unclaimed : Unclaimed session.client.dispatcher.pending session.written) :
    ∃ after, Leads listing session after ∧ after.client.signals = [] ∧ after.outbox = [] ∧
      after.unanswered = session.unanswered ∧ after.client.commands = session.client.commands ∧
      after.client.link = session.client.link := by
  obtain ⟨apart, -⟩ | ⟨link, opened⟩ := flow.joined
  · obtain ⟨after, leads, read, outbox, kept⟩ := exists_read_out flow unclaimed
    exact ⟨after, leads, read, outbox.trans (flow.unconnected apart), kept⟩
  · have turned := @turn_deliver listing session link session.outbox.length opened
    have next := flow_deliver flow session.outbox.length
    rw [turned, List.drop_length] at next
    obtain ⟨after, leads, read, kept⟩ := exists_read_out next unclaimed
    refine ⟨after, .turn (.deliver session.outbox.length) rfl trivial ?_, read, kept⟩
    rw [turned, List.drop_length]
    exact leads

theorem exists_handled_out (flow : Flow listing paths session outputs sending) :
    ∃ after, Leads listing session after ∧ after.client.commands = [] ∧
      after.client.signals = session.client.signals ∧ after.outbox = session.outbox := by
  generalize queued : session.client.commands = commands
  induction commands generalizing session outputs sending with
  | nil => exact ⟨session, .refl session, queued, rfl, rfl⟩
  | cons command rest ih =>
    obtain ⟨dispatcher, link, shown, turned⟩ := flow.turn_handle queued
    obtain ⟨sending, next⟩ := flow_handle flow
    rw [turned] at next
    obtain ⟨after, leads, kept⟩ := ih next rfl
    rw [← congrArg Prod.fst turned] at leads
    exact ⟨after, .turn .handle rfl trivial leads, kept⟩

theorem exists_poured_out (flow : Flow listing paths session outputs sending) :
    ∃ after, Leads listing session after ∧
      (∀ link, after.client.link = some link → link.writer.hand = [] ∧ link.writer.queue = []) ∧
      after.client.commands = session.client.commands ∧
      after.client.signals = session.client.signals ∧ after.outbox = session.outbox := by
  obtain ⟨apart, -⟩ | ⟨link, opened⟩ := flow.joined
  · refine ⟨session, .refl session, fun link there => ?_, rfl, rfl, rfl⟩
    cases apart.symm.trans there
  -- on the work that the writer has left: each step of it is a turn, and lowers the work
  generalize left : link.writer.work = work
  induction work using Nat.strongRecOn generalizing session outputs sending link with
  | ind work ih =>
    cases stepped : link.writer.step? link.writer.hand.length with
    | none =>
      have waits := (Link.Writer.idle_cases stepped).resolve_left
        fun stopped => stopped opened.unlimited.running
      refine ⟨session, .refl session, fun other there => ?_, rfl, rfl, rfl⟩
      obtain rfl := Option.some.inj (opened.there.symm.trans there)
      exact ⟨waits.written, waits.none_queued⟩
    | some step =>
      obtain ⟨bytes, performed, -⟩ := pour_step opened stepped
      obtain ⟨sending, next⟩ := flow_pour flow link.writer.hand.length
      have less : step.2.work < work := left ▸ Link.Writer.work_step stepped
      have there : (session.turn listing (.pour link.writer.hand.length)).1.client =
          { session.client with link := some { link with writer := step.2 } } := by
        rw [turn, perform, performed]
        rfl
      have opened' : Open (session.turn listing (.pour link.writer.hand.length)).1.client
          { link with writer := step.2 } := by
        rw [there]
        exact ⟨rfl, opened.live, opened.kept, opened.heard,
          (Link.Writer.unlimited_step opened.unlimited stepped).2, opened.data⟩
      obtain ⟨after, leads, empty, commands, signals, outbox⟩ := ih _ less next _ opened' rfl
      refine ⟨after, .turn (.pour link.writer.hand.length) rfl trivial leads, empty, ?_, ?_, ?_⟩
      · rw [commands, there]
      · rw [signals, there]
      · rw [outbox, turn, perform, performed]
        rfl

theorem exists_answered_out
    (fits : ∀ request ∈ session.unanswered, ((Writing.answer request).frame listing).Fits)
    (unclaimed : Unclaimed session.client.dispatcher.pending session.written) :
    ∃ after, Leads listing session after ∧ after.unanswered = [] ∧ after.client = session.client ∧
      Unclaimed after.client.dispatcher.pending after.written := by
  generalize waiting : session.unanswered = unanswered
  induction unanswered generalizing session with
  | nil => exact ⟨session, .refl session, waiting, rfl, unclaimed⟩
  | cons request rest ih =>
    have turned : (session.turn listing (.answer 0)).1 =
        { session with unanswered := rest }.write listing (.answer request) := by
      rw [turn, waiting]
      rfl
    have permitted : session.Permitted listing (.answer 0) := by
      intro other first
      rw [waiting] at first
      cases first
      exact fits request (by rw [waiting]; exact List.mem_cons_self)
    obtain ⟨after, leads, kept⟩ :=
      @ih ({ session with unanswered := rest }.write listing (.answer request))
        (fun other present => fits other (by rw [waiting]; exact List.mem_cons_of_mem _ present))
        (unclaimed_answer request unclaimed) rfl
    rw [← turned] at leads
    exact ⟨after, .turn (.answer 0) rfl permitted leads, kept⟩

def Answerable (listing : String → List Entry) (paths : List String) (idPrefix : String) : Prop :=
  ∀ (number : Nat) path, paths[number]? = some path →
    ((Writing.answer (request (Call.generatedId idPrefix (UInt64.ofNat number)) path)).frame
      listing).Fits

theorem Flow.fits_answers (flow : Flow listing paths session outputs sending)
    (answerable : Answerable listing paths session.client.idPrefix) :
    ∀ request ∈ session.unanswered, ((Writing.answer request).frame listing).Fits := by
  intro asked present
  have waits : asked ∈ session.client.dispatcher.pending.calls.map (requestAt paths) :=
    flow.underway.subset (List.mem_append_left _ (List.mem_append_right _ present))
  obtain ⟨⟨id, number⟩, pending, rfl⟩ := List.mem_map.mp waits
  obtain ⟨rfl, issued⟩ := flow.calls.pending id number pending
  have there : paths[(number : Nat)]? = some paths[(number : Nat)] := List.getElem?_eq_getElem issued
  rw [requestAt, List.getD_eq_getElem?_getD, there]
  exact answerable number _ there

/-- Nothing keeps a session from coming to rest. What is on its way is read first, so that a call which is
still queued is not claimed by it. -/
theorem exists_rest (flow : Flow listing paths session outputs sending)
    (answerable : Answerable listing paths session.client.idPrefix)
    (unclaimed : Unclaimed session.client.dispatcher.pending session.written) :
    ∃ after, Leads listing session after ∧ after.AtRest := by
  obtain ⟨drained, to_drained, read, delivered, -⟩ := exists_drained flow unclaimed
  obtain ⟨_, _, flow_drained⟩ := to_drained.flow flow
  obtain ⟨taken, to_taken, none_queued, signals, outbox⟩ := exists_handled_out flow_drained
  obtain ⟨_, _, flow_taken⟩ := to_taken.flow flow_drained
  obtain ⟨poured, to_poured, empty, commands, signals', outbox'⟩ := exists_poured_out flow_taken
  obtain ⟨_, _, flow_poured⟩ := to_poured.flow flow_taken
  -- The engine has written nothing since the link was drained, so its answers claim no call of others.
  have none_written : poured.written = [] :=
    flow_poured.none_written (outbox'.trans (outbox.trans delivered))
      (signals'.trans (signals.trans read))
  have to_here := to_drained.trans (to_taken.trans to_poured)
  have named : poured.client.idPrefix = session.client.idPrefix := to_here.idPrefix
  obtain ⟨answered, to_answered, all_answered, same, unclaimed'⟩ :=
    exists_answered_out (flow_poured.fits_answers (named ▸ answerable))
      (by rw [none_written]; trivial)
  obtain ⟨_, _, flow_answered⟩ := to_answered.flow flow_poured
  obtain ⟨last, to_last, read', delivered', none_open, commands', link'⟩ :=
    exists_drained flow_answered unclaimed'
  refine ⟨last, to_here.trans (to_answered.trans to_last), ?_, ?_, ?_, delivered', read'⟩
  · rw [commands', same, commands, none_queued]
  · rw [link', same]
    exact empty
  · rw [none_open, all_answered]

end EngineClient.Session
