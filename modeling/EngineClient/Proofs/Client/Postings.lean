import EngineClient.Proofs.Client.Reports
import EngineClient.Proofs.Dispatcher.Postings

/-!
What a run shows of the frames that it queues and of the bytes that peers take, and what each move does to
the link on the way.
-/

namespace EngineClient.Client

open Dispatcher (Posting)

def Output.posting? : Output → Option Posting
  | .effect result => result.posting?
  | .poured _ _ => none

def postings (outputs : List Output) : List Posting := outputs.filterMap Output.posting?

/-- The bytes of the frames that a run queues on the link of a generation. -/
def posted (generation : Link.Generation) (outputs : List Output) : Bytes :=
  Dispatcher.chunksOn generation (postings outputs)

def Output.taken (generation : Link.Generation) : Output → Bytes
  | .poured origin bytes => if origin = generation then bytes else []
  | .effect _ => []

def taken (generation : Link.Generation) (outputs : List Output) : Bytes :=
  outputs.flatMap (Output.taken generation)

def Output.carrier? : Output → Option Link.Generation
  | .effect result => result.posting?.map Posting.generation
  | .poured generation _ => some generation

variable {generation : Link.Generation}

@[simp] theorem postings_nil : postings [] = [] := rfl

@[simp] theorem postings_append (first second : List Output) :
    postings (first ++ second) = postings first ++ postings second :=
  List.filterMap_append

@[simp] theorem postings_effects (effects : List Dispatcher.Effect) :
    postings (effects.map .effect) = Dispatcher.postings effects := by
  simp only [postings, Dispatcher.postings, List.filterMap_map]
  rfl

theorem posted_append (first second : List Output) : posted generation (first ++ second) =
    posted generation first ++ Dispatcher.chunksOn generation (postings second) := by
  rw [posted, postings_append, Dispatcher.chunksOn_append]
  rfl

@[simp] theorem taken_nil : taken generation [] = [] := rfl

@[simp] theorem taken_append (first second : List Output) :
    taken generation (first ++ second) = taken generation first ++ taken generation second :=
  List.flatMap_append

theorem taken_effects (effects : List Dispatcher.Effect) :
    taken generation (effects.map .effect) = [] := by
  simp [taken, Output.taken]

theorem taken_eq_nil {outputs : List Output}
    (uncarried : ∀ output ∈ outputs, output.carrier? ≠ some generation) :
    taken generation outputs = [] := by
  apply List.flatMap_eq_nil_iff.mpr
  intro output present
  cases output with
  | effect result => rfl
  | poured origin bytes =>
    exact if_neg fun same => uncarried _ present (congrArg some same)

theorem postings_abandon (commands : List Command) :
    postings (commands.flatMap Command.abandon) = [] :=
  filterMap_abandon (fun _ => rfl) commands

theorem taken_abandon (commands : List Command) :
    taken generation (commands.flatMap Command.abandon) = [] := by
  apply List.flatMap_eq_nil_iff.mpr
  intro output shows
  obtain ⟨number, rfl⟩ := mem_abandon shows
  rfl

variable {client : Client} {outputs : List Output}

/-- What a move that is handled does to the link, and the frames that it queues. -/
inductive Transfer (client : Client) (after : Option Link) : List Posting → Prop where
  | kept (same : after = client.link) : Transfer client after []
  | queued {link longer : Link} {posting : Posting} (there : client.link = some link)
      (own : posting.generation = link.generation)
      (written : link.write posting.chunk = .ok longer) (grown : after = some longer) :
      Transfer client after [posting]
  | opened {link : Link} {frames : List Posting}
      (newest : link.generation = client.dispatcher.connection.generation + 1)
      (own : ∀ posting ∈ frames, posting.generation = link.generation)
      (unsent : link.writer.unsent = frames.flatMap Posting.chunk) (fresh : after = some link) :
      Transfer client after frames
  | dropped (gone : after = none) : Transfer client after []

theorem commands_kept (attempt : Link.Attempt) (stimulus : Dispatcher.Stimulus) :
    (client.handle attempt stimulus).1.commands.Sublist client.commands := by
  simp only [handle, foldl_apply]
  split
  · exact List.Sublist.refl _
  · exact List.nil_sublist _

theorem linkAfter_written (attempt : Link.Attempt) (generation : Link.Generation)
    (call : Call.Number) {link after : Link} {chunk : Bytes}
    (written : link.write chunk = .ok after) (there : client.link = some link) :
    linkAfter attempt client [.queued generation call chunk] = some after := by
  simp [linkAfter, apply, there, written]

theorem linkAfter_started (client : Client) (peer : Link.Peer) (generation : Link.Generation)
    (effects : List Dispatcher.Effect) :
    linkAfter (.ok peer) client (.attempted generation true :: effects) =
      linkAfter (.ok peer)
        { client with link := some (Link.start peer client.kind generation) } effects := rfl

section Handled

variable {move : Move} {stimulus : Dispatcher.Stimulus}
  (handled : client.stimulus? move = some stimulus)
include handled

theorem usable_of_handled {number : Call.Number} {request : Request}
    {attempt : Except Link.Error Unit} (call : stimulus = .call number request attempt true)
    {link : Link} (there : client.link = some link) : link.isClosed = false := by
  rcases handled_cases handled with ⟨attempt, command, rest, rfl, -, rfl⟩ |
    ⟨-, origin, signal, rest, rfl, -, rfl⟩ | ⟨-, attempt, rfl, rfl⟩
  · cases command with
    | call other asked =>
      obtain ⟨-, -, -, usable⟩ := Dispatcher.Stimulus.call.inj call
      simpa [there] using usable
    | stats => cases call
    | shutdown => cases call
  · cases call
  · cases call

theorem postings_handled (accounted : Accounted client outputs) :
    postings (client.perform move).2 =
      Dispatcher.postings (client.dispatcher.handle client.now stimulus).2 := by
  obtain ⟨abandoned, shown⟩ := shown_handled handled accounted
  rw [shown, postings_append, postings_effects, postings_abandon, List.append_nil]

theorem taken_handled (accounted : Accounted client outputs) (generation : Link.Generation) :
    taken generation (client.perform move).2 = [] := by
  obtain ⟨abandoned, shown⟩ := shown_handled handled accounted
  rw [shown, taken_append, taken_effects, taken_abandon, List.append_nil]

theorem transfer_handled (accounted : Accounted client outputs) (linked : Linked client) :
    Transfer client (client.perform move).1.link (postings (client.perform move).2) := by
  have change : Dispatcher.LinkChange client.dispatcher
      (client.dispatcher.handle client.now stimulus).1 stimulus
      (client.dispatcher.handle client.now stimulus).2 :=
    Dispatcher.linkChange_handle accounted.coherent stimulus
  have opens := attempt_ok handled
  have usable := @usable_of_handled _ _ _ handled
  rw [postings_handled handled accounted, perform_handled handled, link_handle]
  simp only [reaction, taking_dispatcher, taking_now]
  generalize client.dispatcher.handle client.now stimulus = result at change ⊢
  obtain ⟨after, effects⟩ := result
  cases change with
  | left same untouched =>
    rw [linkAfter_untouched _ untouched, Dispatcher.postings_untouched untouched]
    exact .kept (taking_link move)
  | @queued generation number request attempt live same =>
    rw [Linked, live] at linked
    obtain ⟨link, there, own⟩ := Option.map_eq_some_iff.mp linked
    obtain ⟨longer, written⟩ := Link.exists_write (usable rfl there) request.frame.encode
    rw [linkAfter_written _ _ _ written ?_]
    · exact .queued there own.symm written rfl
    · exact (taking_link move).trans there
  | @opened number request writable down live =>
    obtain ⟨peer, opened⟩ := opens (.inl ⟨_, _, _, rfl⟩)
    obtain ⟨longer, written⟩ := (Link.start peer (client.taking move).kind
      (client.dispatcher.connection.generation + 1)).exists_write rfl request.frame.encode
    rw [opened, linkAfter_started, linkAfter_written _ _ _ written rfl]
    have own := Link.generation_write written
    refine .opened own ?_ ?_ rfl
    · intro posting present
      obtain rfl := List.mem_singleton.mp present
      exact own.symm
    · rw [Link.unsent_write written]
      exact (List.append_nil _).symm
  | restarted down live =>
    obtain ⟨peer, opened⟩ := opens (.inr rfl)
    rw [opened, linkAfter_started]
    exact .opened rfl (by simp [Dispatcher.postings, Dispatcher.Effect.posting?]) rfl rfl
  | dropped live down drops only =>
    rw [linkAfter_dropped _ (.inr drops) only, Dispatcher.postings_dropped only]
    exact .dropped rfl

theorem live_of_posting (accounted : Accounted client outputs) (linked : Linked client)
    {posting : Posting} (present : posting ∈ postings (client.perform move).2) :
    (client.perform move).1.dispatcher.connection.live = some posting.generation := by
  have transfer := transfer_handled handled accounted linked
  rw [← linked_perform accounted.coherent linked move]
  generalize postings (client.perform move).2 = frames at transfer present
  cases transfer with
  | kept same => cases present
  | queued there own written grown =>
    obtain rfl := List.mem_singleton.mp present
    rw [grown, own, ← Link.generation_write written]
    rfl
  | opened newest own unsent fresh =>
    rw [fresh, own posting present]
    rfl
  | dropped gone => cases present

theorem live_handled (accounted : Accounted client outputs)
    (live : (client.perform move).1.dispatcher.connection.live = some generation) :
    client.dispatcher.connection.live = some generation ∨
      generation = client.dispatcher.connection.generation + 1 := by
  rw [dispatcher_handled handled] at live
  exact Dispatcher.live_handle accounted.coherent live

theorem sublist_handled (accounted : Accounted client outputs) :
    ((postings (client.perform move).2).map Posting.call ++
      (client.perform move).1.queuedCalls).Sublist client.queuedCalls := by
  have calls : ((postings (client.perform move).2).map Posting.call).Sublist
      stimulus.call?.toList := by
    rw [postings_handled handled accounted]
    rcases Dispatcher.postings_handle accounted.coherent client.now stimulus with
      nothing | ⟨number, request, attempt, writable, generation, rfl, once⟩
    · rw [nothing]
      exact List.nil_sublist _
    · rw [once]
      exact List.Sublist.refl _
  have rest : (client.perform move).1.queuedCalls.Sublist (client.taking move).queuedCalls := by
    rw [perform_handled handled]
    exact (commands_kept _ _).filterMap _
  rw [queuedCalls_taking handled]
  exact calls.append rest

theorem carrier_handled (accounted : Accounted client outputs) (linked : Linked client)
    {output : Output} (shows : output ∈ (client.perform move).2)
    (carried : output.carrier? = some generation) :
    client.dispatcher.connection.live = some generation ∨
      generation = client.dispatcher.connection.generation + 1 := by
  obtain ⟨abandoned, shown⟩ := shown_handled handled accounted
  cases output with
  | poured origin bytes =>
    rw [shown] at shows
    rcases List.mem_append.mp shows with effect | ends
    · simp at effect
    · obtain ⟨number, same⟩ := mem_abandon ends
      cases same
  | effect result =>
    obtain ⟨posting, queues, rfl⟩ := Option.map_eq_some_iff.mp carried
    exact live_handled handled accounted
      (live_of_posting handled accounted linked (List.mem_filterMap.mpr ⟨_, shows, queues⟩))

theorem dropped_handled (accounted : Accounted client outputs)
    (drops : .effect (.dropped generation) ∈ (client.perform move).2) :
    client.dispatcher.connection.live = some generation ∧
      (client.perform move).1.dispatcher.connection.live = none ∧
      ∀ output ∈ (client.perform move).2, output.carrier? = none := by
  obtain ⟨abandoned, shown⟩ := shown_handled handled accounted
  have reacted : .dropped generation ∈ (client.dispatcher.handle client.now stimulus).2 := by
    rcases effect_of_shows handled accounted drops with present | ⟨-, number, same⟩
    · exact present
    · cases same
  obtain ⟨live, down, nothing⟩ := Dispatcher.dropped_handle accounted.coherent reacted
  refine ⟨live, ?_, ?_⟩
  · rw [dispatcher_handled handled]
    exact down
  · intro output shows
    rw [shown] at shows
    rcases List.mem_append.mp shows with effect | ends
    · obtain ⟨result, present, rfl⟩ := List.mem_map.mp effect
      rw [Output.carrier?, List.filterMap_eq_nil_iff.mp nothing result present]
      rfl
    · obtain ⟨number, rfl⟩ := mem_abandon ends
      rfl

end Handled

section Quiet

variable {move : Move} {after : Client} {shown : List Output} (quiet : Quiet client move after shown)
include quiet

theorem postings_quiet : postings shown = [] :=
  quiet.filterMap_eq_nil (fun _ _ => rfl) fun _ => rfl

theorem unsent_quiet {link : Link} (there : after.link = some link) :
    ∃ before, client.link = some before ∧ before.generation = link.generation ∧
      before.writer.unsent = taken link.generation shown ++ link.writer.unsent := by
  cases quiet with
  | @read before later signal held stepped =>
    cases there
    refine ⟨before, held, (Link.generation_read stepped).symm, ?_⟩
    rw [Link.writer_read stepped]
    rfl
  | @poured before later amount signal held stepped =>
    cases there
    have own := (Link.generation_pour stepped).symm
    obtain ⟨bytes, grown, split⟩ := Link.pour_conserves stepped
    refine ⟨before, held, own, ?_⟩
    simp [taken, Output.taken, own, grown, split]
  | arrived arrival =>
    obtain ⟨before, held, rfl⟩ := Option.map_eq_some_iff.mp there
    exact ⟨before, held, rfl, rfl⟩
  | _ => exact ⟨link, there, rfl, rfl⟩

theorem carrier_quiet {output : Output} (shows : output ∈ shown)
    (carries : output.carrier? = some generation) :
    ∃ link, client.link = some link ∧ link.generation = generation := by
  cases quiet with
  | @poured link later amount signal there stepped =>
    obtain rfl := List.mem_singleton.mp shows
    exact ⟨link, there, Option.some.inj carries⟩
  | refused request counter stopped =>
    obtain rfl := List.mem_singleton.mp shows
    cases carries
  | _ => cases shows

theorem queuedCalls_quiet : after.queuedCalls = client.queuedCalls ∨
    after.queuedCalls = client.queuedCalls ++ [client.issued] := by
  cases quiet with
  | sent request counter running => exact .inr (List.filterMap_append ..)
  | asked unissued other running =>
    refine .inl ?_
    simp only [queuedCalls, List.filterMap_append, List.filterMap_cons, other, List.filterMap_nil,
      List.append_nil]
  | _ => exact .inl rfl

theorem dropped_quiet : .effect (.dropped generation) ∉ shown := by
  intro drops
  cases (quiet.settles drops).2

end Quiet

end EngineClient.Client
