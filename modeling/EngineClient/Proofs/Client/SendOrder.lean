import EngineClient.Proofs.Client.Postings

/-!
Frames leave in the order in which their calls were sent, each at most once: what the peer of a link has
taken and what its writer still holds are together the frames that were queued on it.
-/

namespace EngineClient.Client

open Dispatcher (Posting)

/-- What holds of a client between any two moves, given what the run has issued and shown. -/
structure Posted (client : Client) (requests : List Request) (outputs : List Output) : Prop where
  ordered : ((postings outputs).map Posting.call ++ client.queuedCalls).Pairwise (· < ·)
  encoded : ∀ posting ∈ postings outputs, ∃ request,
    requests[posting.call]? = some request ∧ posting.chunk = request.frame.encode
  flowing : ∀ link, client.link = some link →
    posted link.generation outputs = taken link.generation outputs ++ link.writer.unsent
  within : ∀ generation, taken generation outputs <+: posted generation outputs
  ahead : ∀ posting ∈ postings outputs,
    posting.generation ≤ client.dispatcher.connection.generation
  retired : ∀ generation, .effect (.dropped generation) ∈ outputs →
    generation ≤ client.dispatcher.connection.generation ∧
      client.dispatcher.connection.live ≠ some generation
  silent : outputs.Pairwise fun first second =>
    ∀ generation, first = .effect (.dropped generation) → second.carrier? ≠ some generation

variable {generation : Link.Generation} {client : Client} {requests : List Request} {outputs : List Output}
  {brought : Link.Generation → Bytes}

theorem Posted.unused (orderly : Posted client requests outputs)
    (ahead : client.dispatcher.connection.generation < generation) :
    posted generation outputs = [] ∧ taken generation outputs = [] := by
  have nothing : posted generation outputs = [] :=
    Dispatcher.chunksOn_others fun posting present =>
      (Nat.lt_of_le_of_lt (orderly.ahead posting present) ahead).ne
  exact ⟨nothing, List.prefix_nil.mp (nothing ▸ orderly.within generation)⟩

theorem Posted.gone (orderly : Posted client requests outputs)
    (drops : .effect (.dropped generation) ∈ outputs) :
    ¬ (client.dispatcher.connection.live = some generation ∨
      generation = client.dispatcher.connection.generation + 1) := by
  obtain ⟨early, down⟩ := orderly.retired generation drops
  rintro (live | next)
  · exact down live
  · exact (Nat.lt_succ_of_le early).ne next

section Handled

variable {move : Move} {stimulus : Dispatcher.Stimulus}
  (handled : client.stimulus? move = some stimulus)
include handled

theorem flowing_handled (accounted : Accounted client outputs) (linked : Linked client)
    (orderly : Posted client requests outputs) {link : Link}
    (there : (client.perform move).1.link = some link) :
    posted link.generation (outputs ++ (client.perform move).2) =
      taken link.generation (outputs ++ (client.perform move).2) ++ link.writer.unsent := by
  have transfer := transfer_handled handled accounted linked
  rw [posted_append, taken_append, taken_handled handled accounted, List.append_nil]
  generalize postings (client.perform move).2 = frames at transfer
  cases transfer with
  | kept same => exact (List.append_nil _).trans (orderly.flowing link (same ▸ there))
  | @queued before longer posting held own written grown =>
    obtain rfl := Option.some.inj (grown.symm.trans there)
    have same := Link.generation_write written
    have only : ∀ other ∈ [posting], other.generation = before.generation := by simpa using own
    rw [same, orderly.flowing before held, Dispatcher.chunksOn_own only,
      Link.unsent_write written, List.append_assoc]
    simp
  | opened newest own unsent fresh =>
    obtain rfl := Option.some.inj (fresh.symm.trans there)
    obtain ⟨nothing, untaken⟩ := orderly.unused (Nat.lt_of_lt_of_eq (Nat.lt_succ_self _) newest.symm)
    rw [nothing, untaken, Dispatcher.chunksOn_own own, unsent]
  | dropped gone => cases gone.symm.trans there

theorem posted_handled (carried : Carried client requests outputs brought)
    (linked : Linked client) (orderly : Posted client requests outputs) :
    Posted (client.perform move).1 requests (outputs ++ (client.perform move).2) := by
  have accounted := carried.accounted
  have later : Accounted (client.perform move).1 (outputs ++ (client.perform move).2) :=
    accounted_handled accounted handled
  have grows : client.dispatcher.connection.generation ≤
      (client.perform move).1.dispatcher.connection.generation := by
    rw [dispatcher_handled handled]
    exact Dispatcher.generation_handle stimulus
  refine ⟨?_, ?_, fun link => flowing_handled handled accounted linked orderly, ?_, ?_, ?_, ?_⟩
  · rw [postings_append, List.map_append, List.append_assoc]
    exact orderly.ordered.sublist
      ((List.Sublist.refl _).append (sublist_handled handled accounted))
  · intro posting present
    rw [postings_append] at present
    rcases List.mem_append.mp present with before | new
    · exact orderly.encoded posting before
    · rw [postings_handled handled accounted] at new
      rcases Dispatcher.postings_handle accounted.coherent client.now stimulus with
        nothing | ⟨number, request, attempt, writable, origin, call, once⟩
      · rw [nothing] at new
        cases new
      · rw [once] at new
        obtain rfl := List.mem_singleton.mp new
        exact ⟨request, carried.queued number request (call_of_handled handled call), rfl⟩
  · intro generation
    rw [posted_append, taken_append, taken_handled handled accounted, List.append_nil]
    exact (orderly.within generation).trans (List.prefix_append _ _)
  · intro posting present
    rw [postings_append] at present
    rcases List.mem_append.mp present with before | new
    · exact (orderly.ahead posting before).trans grows
    · exact (later.coherent.newest _ (live_of_posting handled accounted linked new)).le
  · intro generation drops
    rcases List.mem_append.mp drops with before | new
    · exact ⟨(orderly.retired generation before).1.trans grows,
        fun live => orderly.gone before (live_handled handled accounted live)⟩
    · obtain ⟨live, down, -⟩ := dropped_handled handled accounted new
      exact ⟨(accounted.coherent.newest generation live).le.trans grows, by simp [down]⟩
  · -- A link that was dropped is not live again, for generations only grow; so nothing is shown on it.
    refine List.pairwise_append.mpr ⟨orderly.silent, ?_, ?_⟩
    · refine List.pairwise_of_forall_mem_list fun first drops second shows generation same => ?_
      rw [(dropped_handled handled accounted (same ▸ drops)).2.2 second shows]
      exact (Option.some_ne_none generation).symm
    · rintro first drops second shows generation rfl carries
      exact orderly.gone drops (carrier_handled handled accounted linked shows carries)

end Handled

section Quiet

variable {move : Move} {after : Client} {shown : List Output} (quiet : Quiet client move after shown)
include quiet

theorem ordered_quiet (carried : Carried client requests outputs brought)
    (orderly : Posted client requests outputs) :
    ((postings outputs).map Posting.call ++ after.queuedCalls).Pairwise (· < ·) := by
  rcases queuedCalls_quiet quiet with same | longer
  · rw [same]
    exact orderly.ordered
  · rw [longer, ← List.append_assoc]
    refine List.pairwise_append.mpr ⟨orderly.ordered, List.pairwise_singleton _ _, ?_⟩
    intro number present newest added
    obtain rfl := List.mem_singleton.mp added
    rcases List.mem_append.mp present with sent | waits
    · obtain ⟨posting, queued, rfl⟩ := List.mem_map.mp sent
      obtain ⟨request, issued, -⟩ := orderly.encoded posting queued
      obtain ⟨bound, -⟩ := List.getElem?_eq_some_iff.mp issued
      exact carried.issued ▸ bound
    · exact carried.accounted.issued_of_waiting (.inl waits)

theorem flowing_quiet (orderly : Posted client requests outputs) {link : Link}
    (there : after.link = some link) :
    posted link.generation (outputs ++ shown) =
      taken link.generation (outputs ++ shown) ++ link.writer.unsent := by
  obtain ⟨before, held, own, split⟩ := unsent_quiet quiet there
  have nothing : Dispatcher.chunksOn link.generation [] = [] := rfl
  calc
    posted link.generation (outputs ++ shown) = posted before.generation outputs := by
      rw [posted_append, postings_quiet quiet, nothing, List.append_nil, own]
    _ = taken before.generation outputs ++ before.writer.unsent := orderly.flowing before held
    _ = taken link.generation outputs ++ (taken link.generation shown ++ link.writer.unsent) := by
      rw [own, split]
    _ = taken link.generation (outputs ++ shown) ++ link.writer.unsent := by
      rw [taken_append, List.append_assoc]

theorem within_quiet (linked : Linked client) (orderly : Posted client requests outputs)
    (generation : Link.Generation) :
    taken generation (outputs ++ shown) <+: posted generation (outputs ++ shown) := by
  by_cases live : client.dispatcher.connection.live = some generation
  · have still : Linked after := linked_quiet linked quiet
    rw [Linked, quiet.dispatcher, live] at still
    obtain ⟨link, there, rfl⟩ := Option.map_eq_some_iff.mp still
    rw [flowing_quiet quiet orderly there]
    exact List.prefix_append _ _
  · have untaken : taken generation shown = [] := by
      refine taken_eq_nil fun output present carries => live ?_
      obtain ⟨link, there, rfl⟩ := carrier_quiet quiet present carries
      exact linked.live there
    rw [taken_append, untaken, List.append_nil, posted_append]
    exact (orderly.within generation).trans (List.prefix_append _ _)

end Quiet

theorem posted_quiet (carried : Carried client requests outputs brought) (linked : Linked client)
    (orderly : Posted client requests outputs) {move : Move} {after : Client} {shown : List Output}
    (quiet : Quiet client move after shown) :
    Posted after (requests ++ client.issuing move) (outputs ++ shown) := by
  have nothing := postings_quiet quiet
  have same := quiet.dispatcher
  refine ⟨?_, ?_, fun link => flowing_quiet quiet orderly, within_quiet quiet linked orderly,
    ?_, ?_, ?_⟩
  · rw [postings_append, nothing, List.append_nil]
    exact ordered_quiet quiet carried orderly
  · intro posting present
    rw [postings_append, nothing, List.append_nil] at present
    obtain ⟨request, issued, encoded⟩ := orderly.encoded posting present
    obtain ⟨bound, -⟩ := List.getElem?_eq_some_iff.mp issued
    exact ⟨request, (List.getElem?_append_left bound).trans issued, encoded⟩
  · intro posting present
    rw [postings_append, nothing, List.append_nil] at present
    exact same ▸ orderly.ahead posting present
  · intro generation drops
    rw [same]
    exact orderly.retired generation
      ((List.mem_append.mp drops).resolve_right (dropped_quiet quiet))
  · refine List.pairwise_append.mpr ⟨orderly.silent, ?_, ?_⟩
    · refine List.pairwise_of_forall_mem_list fun first drops second shows generation dropped => ?_
      exact absurd (dropped ▸ drops) (dropped_quiet quiet)
    · rintro first drops second shows generation rfl carries
      obtain ⟨link, there, rfl⟩ := carrier_quiet quiet shows carries
      exact (orderly.retired _ drops).2 (linked.live there)

theorem posted_new (idPrefix : String) (kind : Link.Kind) (policy : Restart.Policy) (now : Nat) :
    Posted (new idPrefix kind policy now) [] [] where
  ordered := List.Pairwise.nil
  encoded _ impossible := by cases impossible
  flowing _ impossible := by cases impossible
  within _ := List.prefix_refl _
  ahead _ impossible := by cases impossible
  retired _ impossible := by cases impossible
  silent := List.Pairwise.nil

theorem posted_perform (carried : Carried client requests outputs brought) (linked : Linked client)
    (orderly : Posted client requests outputs) (move : Move) :
    Posted (client.perform move).1 (requests ++ client.issuing move)
      (outputs ++ (client.perform move).2) := by
  cases handled : client.stimulus? move with
  | some stimulus =>
    rw [issuing_handled handled, List.append_nil]
    exact posted_handled handled carried linked orderly
  | none => exact posted_quiet carried linked orderly (quiet_perform handled)

theorem posted_after (carried : Carried client requests outputs brought) (linked : Linked client)
    (orderly : Posted client requests outputs) (moves : List Move) :
    Posted (client.after moves) (requests ++ client.requests moves)
      (outputs ++ client.shown moves) := by
  induction moves generalizing client requests outputs brought with
  | nil => simpa [Client.requests] using orderly
  | cons move rest ih =>
    have later := ih (carried_perform carried move)
      (linked_perform carried.accounted.coherent linked move)
      (posted_perform carried linked orderly move)
    simpa only [after_cons, shown_cons, Client.requests, List.append_assoc] using later

theorem posted_run (idPrefix : String) (kind : Link.Kind) (policy : Restart.Policy) (start : Nat)
    (moves : List Move) :
    let fresh := new idPrefix kind policy start
    Posted (fresh.after moves) (fresh.requests moves) (fresh.shown moves) := by
  simpa using posted_after (carried_new idPrefix kind policy start) rfl
    (posted_new idPrefix kind policy start) moves

theorem queued_of_posting (accounted : Accounted client outputs) {move : Move} {posting : Posting}
    (present : posting ∈ postings (client.perform move).2) : posting.call ∈ client.queuedCalls := by
  cases handled : client.stimulus? move with
  | some stimulus =>
    exact (sublist_handled handled accounted).subset
      (List.mem_append_left _ (List.mem_map_of_mem present))
  | none =>
    rw [postings_quiet (quiet_perform handled)] at present
    cases present

theorem unposted_after (accounted : Accounted client outputs) {number : Call.Number}
    (settled : outcomes number outputs ≠ []) (moves : List Move) :
    number ∉ (postings (client.shown moves)).map Posting.call := by
  induction moves generalizing client outputs with
  | nil => exact List.not_mem_nil
  | cons move rest ih =>
    have later : outcomes number (outputs ++ (client.perform move).2) ≠ [] := by
      rw [outcomes_append]
      exact List.append_ne_nil_of_left_ne_nil settled _
    rw [shown_cons, postings_append, List.map_append]
    intro present
    rcases List.mem_append.mp present with now | afterwards
    · obtain ⟨posting, queued, rfl⟩ := List.mem_map.mp now
      exact settled (accounted.unsettled (.inl (queued_of_posting accounted queued)))
    · exact ih (accounted_perform accounted move) later afterwards

theorem unposted_of_settled (carried : Carried client requests outputs brought)
    (orderly : Posted client requests outputs) {move : Move} {number : Call.Number}
    {request : Request} {attempt : Except Link.Error Unit} {writable : Bool}
    (handled : client.stimulus? move = some (.call number request attempt writable))
    {outcome : Call.Outcome}
    (settles : .settled ⟨number, outcome⟩ ∈
      (client.dispatcher.call client.now number request attempt writable).2) (later : List Move) :
    number ∉ (postings (outputs ++ client.shown (move :: later))).map Posting.call := by
  have accounted := carried.accounted
  have waits := (accounted.handled_once handled rfl).1
  have nothing : postings (client.perform move).2 = [] :=
    (postings_handled handled accounted).trans
      (Dispatcher.postings_settled accounted.coherent settles)
  have settled : outcomes number (outputs ++ (client.perform move).2) ≠ [] := by
    have shown : .effect (.settled ⟨number, outcome⟩) ∈ (client.perform move).2 :=
      shows_effect handled accounted settles
    have given : outcome ∈ outcomes number (client.perform move).2 :=
      List.mem_filterMap.mpr ⟨_, shown, if_pos rfl⟩
    rw [outcomes_append]
    exact List.append_ne_nil_of_right_ne_nil _ (List.ne_nil_of_mem given)
  rw [shown_cons, ← List.append_assoc, postings_append, postings_append, nothing, List.append_nil,
    List.map_append]
  intro present
  rcases List.mem_append.mp present with before | afterwards
  · have early := (List.pairwise_append.mp orderly.ordered).2.2 number before number waits
    exact Nat.lt_irrefl number early
  · exact unposted_after (accounted_perform accounted move) settled later afterwards

theorem duplicate_shown (accounted : Accounted client outputs) {move : Move}
    {number : Call.Number} {id : String}
    (shows : .effect (.settled ⟨number, .error (.duplicateId id)⟩) ∈ (client.perform move).2) :
    (∃ request attempt writable,
      client.stimulus? move = some (.call number request attempt writable) ∧
      .settled ⟨number, .error (.duplicateId id)⟩ ∈
        (client.dispatcher.call client.now number request attempt writable).2) ∧
    (client.perform move).2 = [.effect (.settled ⟨number, .error (.duplicateId id)⟩)] := by
  cases handled : client.stimulus? move with
  | none =>
    cases ((quiet_perform handled).settles shows).2
  | some stimulus =>
    rcases effect_of_shows handled accounted shows with present | ⟨-, other, same⟩
    · obtain ⟨⟨request, attempt, writable, rfl⟩, alone⟩ :=
        Dispatcher.duplicate_handle accounted.coherent present
      refine ⟨⟨request, attempt, writable, rfl, present⟩, ?_⟩
      have running : (client.taking move).running = true := by
        rw [taking_running]
        exact accounted.running handled
      have reacts : ((client.taking move).reaction (.call number request attempt writable)).2 =
          [.settled ⟨number, .error (.duplicateId id)⟩] := by
        simpa [reaction] using alone
      have going : .stopped ∉
          ((client.taking move).reaction (.call number request attempt writable)).2 := by
        simp [reacts]
      rw [perform_handled handled, handle_going _ _ running going, reacts]
      rfl
    · cases same

/-- What the peer of a link has taken is the front of the frames that were queued on it, one after the
other in the order in which their calls were sent. Each call has its frame queued at most once in a run,
and nothing is carried by a link once it is dropped. A call that is refused as a duplicate, or for which no
link can be opened, has none queued at all; the refusal opens no link either. -/
theorem frames_leave_in_order (idPrefix : String) (kind : Link.Kind) (policy : Restart.Policy)
    (start : Nat) (moves : List Move) :
    let fresh := new idPrefix kind policy start
    let client := fresh.after moves
    let outputs := fresh.shown moves
    (∀ generation, taken generation outputs <+: posted generation outputs) ∧
    ((postings outputs).map Posting.call).Pairwise (· < ·) ∧
    (∀ posting ∈ postings outputs, ∃ request,
      (fresh.requests moves)[posting.call]? = some request ∧
        posting.chunk = request.frame.encode) ∧
    (∀ before generation later, outputs = before ++ .effect (.dropped generation) :: later →
      ∀ output ∈ later, output.carrier? ≠ some generation) ∧
    (∀ move number id,
      .effect (.settled ⟨number, .error (.duplicateId id)⟩) ∈ (client.perform move).2 →
        (client.perform move).2 = [.effect (.settled ⟨number, .error (.duplicateId id)⟩)] ∧
        ∀ later, number ∉ (postings (fresh.shown (moves ++ move :: later))).map Posting.call) ∧
    (∀ attempt number request rest generation, client.commands = .call number request :: rest →
      .effect (.attempted generation false) ∈ (client.perform (.command attempt)).2 →
        ∀ later, number ∉
          (postings (fresh.shown (moves ++ .command attempt :: later))).map Posting.call) := by
  intro fresh client outputs
  have carried : Carried client (fresh.requests moves) outputs _ :=
    carried_run idPrefix kind policy start moves
  have orderly : Posted client (fresh.requests moves) outputs :=
    posted_run idPrefix kind policy start moves
  have accounted := carried.accounted
  refine ⟨orderly.within, (List.pairwise_append.mp orderly.ordered).1, orderly.encoded, ?_, ?_, ?_⟩
  · intro before generation later split output shows
    have silent := orderly.silent
    rw [split] at silent
    have behind := (List.pairwise_cons.mp (List.pairwise_append.mp silent).2.1).1
    exact behind output shows generation rfl
  · intro move number id shows
    obtain ⟨⟨request, attempt, writable, handled, settles⟩, alone⟩ :=
      duplicate_shown accounted shows
    refine ⟨alone, fun later => ?_⟩
    rw [shown_append]
    exact unposted_of_settled carried orderly handled settles later
  · intro attempt number request rest generation next shows later
    obtain ⟨stimulus, handled, present⟩ := handled_of_shows accounted shows (by simp)
    obtain rfl : Command.stimulus attempt client.link (.call number request) = stimulus := by
      simpa [stimulus?, next] using handled
    obtain ⟨error, settles⟩ := Dispatcher.settled_of_failure present
    rw [shown_append]
    exact unposted_of_settled carried orderly handled settles later

end EngineClient.Client
