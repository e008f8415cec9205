import EngineClient.Proofs.Client.Carriage

/-!
No call hangs on a link that is gone: the task that notices the end reports it, and the report stays in
the queue of signals until the dispatcher drops the link over it. So a client with nothing left to do
holds a link that is up, or none.
-/

namespace EngineClient

theorem Dispatcher.down_of_ends {dispatcher : Dispatcher} {now : Nat}
    {generation : Link.Generation} {signal : Link.Signal}
    (live : dispatcher.connection.live = some generation) (ends : signal.ends = true) :
    (dispatcher.signal now generation signal).1.connection.live = none := by
  rcases signal_cases dispatcher now generation signal with
    ⟨stale, -⟩ | ⟨-, chunk, rfl, -⟩ | ⟨-, reason, lost⟩
  · exact absurd live stale
  · cases ends
  · rw [lost]
    exact (lose_down live).2.2

namespace Client

variable {client : Client} {outputs : List Output} {effects : List Dispatcher.Effect}

/-- The end of the link of a generation is reported, and not handled yet. -/
def Announced (client : Client) (generation : Link.Generation) : Prop :=
  ∃ report, (generation, report) ∈ client.signals ∧ report.ends = true

/-- The link is in use, and up unless its end is announced. -/
def Watched (client : Client) : Prop :=
  ∀ link, client.link = some link → link.Attached ∧ (link.Up ∨ client.Announced link.generation)

theorem Announced.mono {other : Client} {generation : Link.Generation}
    (announced : client.Announced generation)
    (kept : ∀ entry ∈ client.signals, entry ∈ other.signals) : other.Announced generation := by
  obtain ⟨report, queued, ends⟩ := announced
  exact ⟨report, kept _ queued, ends⟩

theorem watched_report (watched : Watched client) {link after : Link} {signal : Option Link.Signal}
    (there : client.link = some link) (same : after.generation = link.generation)
    (attached : after.Attached)
    (up : link.Up → after.Up ∨ ∃ report, signal = some report ∧ report.ends = true) :
    Watched (client.report after signal) := by
  rintro _ ⟨⟩
  refine ⟨attached, ?_⟩
  rcases (watched link there).2 with before | announced
  · rcases up before with still | ⟨report, rfl, ends⟩
    · exact .inl still
    · refine .inr ⟨report, List.mem_append_right _ ?_, ends⟩
      simp [same]
  · rw [same]
    exact .inr (announced.mono fun entry queued => List.mem_append_left _ queued)

theorem watched_quiet (watched : Watched client)
    (rests : client.running = false → client.link = none) {move : Move} {after : Client}
    {shown : List Output} (quiet : Quiet client move after shown) : Watched after := by
  cases quiet with
  | ignored rest stopped =>
    intro link there
    rw [rests stopped] at there
    cases there
  | read there stepped =>
    have attached := (watched _ there).1
    exact watched_report watched there (Link.generation_read stepped)
      (Link.attached_read attached stepped) (fun up => Link.up_read attached up stepped)
  | poured there stepped =>
    have attached := (watched _ there).1
    exact watched_report watched there (Link.generation_pour stepped)
      (Link.attached_pour attached stepped) (fun up => Link.up_pour attached up stepped)
  | arrived arrival =>
    intro link there
    obtain ⟨before, held, rfl⟩ := Option.map_eq_some_iff.mp there
    obtain ⟨attached, up⟩ := watched before held
    exact ⟨attached.receive arrival, up.imp_left fun up => up.receive arrival⟩
  | reported generation signal =>
    intro link there
    obtain ⟨attached, up⟩ := watched link there
    refine ⟨attached, up.imp_right fun announced => ?_⟩
    exact announced.mono fun entry queued => List.mem_append_left _ queued
  | _ => exact watched

theorem signals_handle (attempt : Link.Attempt) (stimulus : Dispatcher.Stimulus) :
    (client.handle attempt stimulus).1.signals = client.signals := by
  simp only [handle, foldl_apply]
  split <;> rfl

theorem grown_of_queued {attempt : Link.Attempt} {generation : Link.Generation}
    {call : Call.Number} {chunk : Bytes} {link : Link}
    (there : linkAfter attempt client [.queued generation call chunk] = some link) :
    ∃ before, client.link = some before ∧ before.Grown link := by
  obtain ⟨before, held, same⟩ := Option.map_eq_some_iff.mp there
  refine ⟨before, held, ?_⟩
  cases written : before.write chunk with
  | error error => exact .inl (by simpa [written] using same.symm)
  | ok after => exact .inr ⟨chunk, by simpa [written] using same⟩

section Handled

variable {move : Move} {stimulus : Dispatcher.Stimulus}
  (handled : client.stimulus? move = some stimulus)
include handled

theorem signals_handled : (client.perform move).1.signals = (client.taking move).signals := by
  rw [perform_handled handled, signals_handle]

theorem announced_handled {generation : Link.Generation} (announced : client.Announced generation)
    (live : client.dispatcher.connection.live = some generation)
    (still : (client.perform move).1.dispatcher.connection.live = some generation) :
    (client.perform move).1.Announced generation := by
  obtain ⟨report, queued, ends⟩ := announced
  refine ⟨report, ?_, ends⟩
  rw [dispatcher_handled handled] at still
  rw [signals_handled handled]
  rcases handled_cases handled with ⟨attempt, command, rest, rfl, -, -⟩ |
    ⟨-, other, signal, rest, rfl, next, rfl⟩ | ⟨-, attempt, rfl, -⟩
  · exact queued
  · -- Only the head of the queue is handled; if it is this report, the link is not live any more.
    rw [next] at queued
    simp only [taking, next, List.tail_cons]
    rcases List.mem_cons.mp queued with first | behind
    · cases first
      rw [Dispatcher.handle, Dispatcher.down_of_ends live ends] at still
      cases still
    · exact behind
  · exact queued

/-- Whatever the dispatcher handles, the link that is there afterwards is the one from before, perhaps with
one more chunk queued on it, or a fresh one. -/
theorem link_handled (accounted : Accounted client outputs) {link : Link}
    (there : (client.perform move).1.link = some link) :
    (∃ before, client.link = some before ∧ before.Grown link ∧
      (client.perform move).1.dispatcher.connection.live = client.dispatcher.connection.live) ∨
    (∃ peer kind generation, (Link.start peer kind generation).Grown link) := by
  have change : Dispatcher.LinkChange client.dispatcher
      (client.dispatcher.handle client.now stimulus).1 stimulus
      (client.dispatcher.handle client.now stimulus).2 :=
    Dispatcher.linkChange_handle accounted.coherent stimulus
  have opens := attempt_ok handled
  rw [dispatcher_handled handled]
  rw [perform_handled handled, link_handle] at there
  simp only [reaction, taking_dispatcher, taking_now] at there
  generalize client.dispatcher.handle client.now stimulus = result at change there ⊢
  obtain ⟨after, effects⟩ := result
  cases change with
  | left same untouched =>
    rw [linkAfter_untouched _ untouched] at there
    exact .inl ⟨link, by simpa using there, .inl rfl, same⟩
  | queued live same =>
    obtain ⟨before, held, grown⟩ := grown_of_queued there
    exact .inl ⟨before, by simpa using held, grown, same.trans live.symm⟩
  | opened down live =>
    obtain ⟨peer, opened⟩ := opens (.inl ⟨_, _, _, rfl⟩)
    obtain ⟨before, held, grown⟩ := grown_of_queued there
    rw [opened] at held
    cases held
    exact .inr ⟨peer, _, _, grown⟩
  | restarted down live =>
    obtain ⟨peer, opened⟩ := opens (.inr rfl)
    rw [opened] at there
    cases there
    exact .inr ⟨peer, _, _, .inl rfl⟩
  | dropped live down drops only =>
    rw [linkAfter_dropped _ (.inr drops) only] at there
    cases there

theorem watched_handled (accounted : Accounted client outputs) (linked : Linked client)
    (watched : Watched client) : Watched (client.perform move).1 := by
  intro link there
  rcases link_handled handled accounted there with
    ⟨before, held, grown, same⟩ | ⟨peer, kind, generation, grown⟩
  · have live := linked.live held
    obtain ⟨attached, up⟩ := watched before held
    refine ⟨grown.attached attached, up.imp grown.up ?_⟩
    intro announced
    rw [grown.generation]
    exact announced_handled handled announced live (same.trans live)
  · exact ⟨grown.attached (Link.attached_start peer kind generation),
      .inl (grown.up (Link.up_start peer kind generation))⟩

end Handled

theorem watched_new (idPrefix : String) (kind : Link.Kind) (policy : Restart.Policy) (now : Nat) :
    Watched (new idPrefix kind policy now) := by
  intro link impossible
  cases impossible

theorem unlinked_of_stopped (accounted : Accounted client outputs) (linked : Linked client)
    (stopped : client.running = false) : client.link = none := by
  rw [Linked, (accounted.rests stopped).2.live] at linked
  exact Option.map_eq_none_iff.mp linked

theorem watched_perform (accounted : Accounted client outputs) (linked : Linked client)
    (watched : Watched client) (move : Move) : Watched (client.perform move).1 := by
  cases handled : client.stimulus? move with
  | some stimulus => exact watched_handled handled accounted linked watched
  | none =>
    exact watched_quiet watched (unlinked_of_stopped accounted linked) (quiet_perform handled)

theorem watched_after (accounted : ∃ outputs, Accounted client outputs) (linked : Linked client)
    (watched : Watched client) (moves : List Move) : Watched (client.after moves) := by
  induction moves generalizing client with
  | nil => exact watched
  | cons move moves ih =>
    obtain ⟨outputs, accounted⟩ := accounted
    rw [after_cons]
    exact ih ⟨_, accounted_perform accounted move⟩
      (linked_perform accounted.coherent linked move)
      (watched_perform accounted linked watched move)

/-- No command and no signal waits, and neither task of the link has a step to make. -/
structure Quiescent (client : Client) : Prop where
  commands : client.commands = []
  signals : client.signals = []
  reader : ∀ link, client.link = some link → link.read? = none
  writer : ∀ link amount, client.link = some link → link.pour? amount = none

theorem quiescent_of_isIdle (idle : client.isIdle = true) : client.Quiescent := by
  simp only [isIdle, nextMove?, Option.isNone_iff_eq_none] at idle
  split_ifs at idle with commands reader writer signals due
  refine ⟨by simpa using commands, by simpa using signals, ?_, ?_⟩
  · intro link there
    simpa [there] using reader
  · intro link amount there
    simp only [there] at writer
    exact Link.pour_idle (by simpa using writer) amount

/-- At any time of any run, a link whose reader or writer has ended has its end reported in the queue of
signals. So when nothing is left to do, a generation that is live has a link that is up, that has been
read and written to the end, and every pending call has had its frame queued on it, once. -/
theorem live_link_is_up (idPrefix : String) (kind : Link.Kind) (policy : Restart.Policy)
    (start : Nat) (moves : List Move) :
    let fresh := new idPrefix kind policy start
    let client := fresh.after moves
    (∀ link, client.link = some link → ¬ link.Up → client.Announced link.generation) ∧
    (client.Quiescent → ∀ generation, client.dispatcher.connection.live = some generation →
      ∃ link, client.link = some link ∧ link.generation = generation ∧ link.Up ∧
        link.reader.arrivals = [] ∧ link.writer.unsent = [] ∧
        ∀ id number, (id, number) ∈ client.dispatcher.pending.calls →
          ∃ request, (fresh.requests moves)[number]? = some request ∧ request.id = some id ∧
            frames number (fresh.shown moves) = [(link.generation, request.frame.encode)]) := by
  intro fresh client
  have carried : Carried client _ _ _ := carried_run idPrefix kind policy start moves
  have first : ∃ outputs, Accounted fresh outputs := ⟨_, accounted_new idPrefix kind policy start⟩
  have linked : Linked client := linked_after first rfl moves
  have watched : Watched client :=
    watched_after first rfl (watched_new idPrefix kind policy start) moves
  refine ⟨fun link there gone => (watched link there).2.resolve_left gone, ?_⟩
  intro quiescent generation live
  rw [Linked, live] at linked
  obtain ⟨link, there, rfl⟩ := Option.map_eq_some_iff.mp linked
  obtain ⟨attached, up | ⟨report, queued, -⟩⟩ := watched link there
  · refine ⟨link, there, rfl, up, Link.arrivals_of_idle attached up (quiescent.reader link there),
      Link.unsent_of_idle attached up (quiescent.writer link 0 there), ?_⟩
    intro id number pending
    obtain ⟨other, request, same, issued, named, once⟩ := carried.sent id number pending
    obtain rfl := Option.some.inj (same.symm.trans live)
    exact ⟨request, issued, named, once⟩
  · rw [quiescent.signals] at queued
    cases queued

theorem live_link_is_up_pending :
    let fresh := new "p" .socket .socket 0
    let moves : List Move :=
      [.send (.directoryOpen "/"), .command (.ok .silent), .pour 0, .pour 300, .pour 0]
    (fresh.after moves).dispatcher.pending.numbers = [0] ∧
      ∃ link, (fresh.after moves).link = some link ∧ link.Up := by
  intro fresh moves
  have idle : (fresh.after moves).isIdle = true := by decide +kernel
  have live : (fresh.after moves).dispatcher.connection.live = some 1 := by decide +kernel
  have pending : (fresh.after moves).dispatcher.pending.numbers = [0] := by decide +kernel
  have settled := (live_link_is_up "p" .socket .socket 0 moves).2
  -- What the theorem says of this run is instantiated without evaluating the run again.
  generalize fresh.after moves = client at idle live pending settled ⊢
  obtain ⟨link, there, -, up, -⟩ := settled (quiescent_of_isIdle idle) 1 live
  exact ⟨pending, link, there, up⟩

end Client

end EngineClient
