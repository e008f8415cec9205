import EngineClient.Proofs.Client.Links
import EngineClient.Proofs.Dispatcher.Carriage

/-!
Between any two moves, the frame of every pending call has been queued exactly once, on the link that is
live, and the decoder holds exactly the undecoded end of what that link has brought.
-/

namespace EngineClient.Client

def Output.frame? (number : Call.Number) : Output → Option (Link.Generation × Bytes)
  | .effect result => result.frame? number
  | .poured _ _ => none

def frames (number : Call.Number) (outputs : List Output) : List (Link.Generation × Bytes) :=
  outputs.filterMap (Output.frame? number)

def receiving (client : Client) (generation : Link.Generation) (move : Move) : Bytes :=
  ((client.stimulus? move).map (client.dispatcher.receiving generation)).getD []

/-- The bytes that a run has brought in on the link of a generation while it was live. -/
def delivered (client : Client) (generation : Link.Generation) : List Move → Bytes
  | [] => []
  | move :: moves =>
    client.receiving generation move ++ (client.perform move).1.delivered generation moves

@[simp] theorem frames_nil (number : Call.Number) : frames number [] = [] := rfl

@[simp] theorem frames_append (number : Call.Number) (first second : List Output) :
    frames number (first ++ second) = frames number first ++ frames number second :=
  List.filterMap_append

@[simp] theorem frames_effects (number : Call.Number) (effects : List Dispatcher.Effect) :
    frames number (effects.map .effect) = Dispatcher.frames number effects := by
  simp only [frames, Dispatcher.frames, List.filterMap_map]
  rfl

theorem mem_abandon {commands : List Command} {output : Output}
    (shows : output ∈ commands.flatMap Command.abandon) :
    ∃ number, output = .effect (.settled ⟨number, .error .clientClosed⟩) := by
  obtain ⟨command, -, ends⟩ := List.mem_flatMap.mp shows
  cases command with
  | call number request => exact ⟨number, List.mem_singleton.mp ends⟩
  | stats => cases ends
  | shutdown => cases ends

theorem filterMap_abandon {α : Type} {read : Output → Option α}
    (settled : ∀ settlement, read (.effect (.settled settlement)) = none)
    (commands : List Command) : (commands.flatMap Command.abandon).filterMap read = [] := by
  apply List.filterMap_eq_nil_iff.mpr
  intro output shows
  obtain ⟨number, rfl⟩ := mem_abandon shows
  exact settled _

@[simp] theorem frames_abandon (number : Call.Number) (commands : List Command) :
    frames number (commands.flatMap Command.abandon) = [] :=
  filterMap_abandon (fun _ => rfl) commands

theorem delivered_append (client : Client) (generation : Link.Generation)
    (first second : List Move) :
    client.delivered generation (first ++ second) =
      client.delivered generation first ++ (client.after first).delivered generation second := by
  induction first generalizing client with
  | nil => rfl
  | cons move rest ih =>
    simp only [List.cons_append, delivered, ih, after_cons, List.append_assoc]

@[simp] theorem delivered_concat (client : Client) (generation : Link.Generation)
    (moves : List Move) (move : Move) :
    client.delivered generation (moves ++ [move]) =
      client.delivered generation moves ++ (client.after moves).receiving generation move := by
  simp [delivered_append, delivered]

/-- What holds of a client between any two moves, given what the run has issued, shown and brought in. -/
structure Carried (client : Client) (requests : List Request) (outputs : List Output)
    (brought : Link.Generation → Bytes) : Prop where
  accounted : Accounted client outputs
  issued : client.issued = requests.length
  named : ∀ request ∈ requests, request.id.isSome
  queued : ∀ number request, .call number request ∈ client.commands →
    requests[number]? = some request
  unsent : ∀ number : Nat, number ∈ client.queuedCalls ∨ client.issued ≤ number →
    frames number outputs = []
  sent : ∀ id number, (id, number) ∈ client.dispatcher.pending.calls →
    ∃ generation request, client.dispatcher.connection.live = some generation ∧
      requests[number]? = some request ∧ request.id = some id ∧
      frames number outputs = [(generation, request.frame.encode)]
  held : ∀ generation, client.dispatcher.connection.live = some generation →
    ∃ frames : List Frame, (∀ frame ∈ frames, frame.Fits) ∧
      brought generation = Frame.encodeAll frames ++ client.dispatcher.decoder.buffer
  ahead : ∀ generation, client.dispatcher.connection.generation < generation →
    brought generation = []

variable {client : Client} {requests : List Request} {outputs : List Output}
  {brought : Link.Generation → Bytes}

theorem commands_handle (attempt : Link.Attempt) (stimulus : Dispatcher.Stimulus)
    {command : Command} (present : command ∈ (client.handle attempt stimulus).1.commands) :
    command ∈ client.commands := by
  simp only [handle, foldl_apply] at present
  split at present
  · exact present
  · cases present

theorem mem_queuedCalls {number : Call.Number} :
    number ∈ client.queuedCalls ↔ ∃ request, .call number request ∈ client.commands := by
  simp only [queuedCalls, List.mem_filterMap]
  constructor
  · rintro ⟨command, present, brings⟩
    cases command with
    | call other request =>
      cases brings
      exact ⟨request, present⟩
    | stats => cases brings
    | shutdown => cases brings
  · rintro ⟨request, present⟩
    exact ⟨_, present, rfl⟩

theorem commands_taking {move : Move} {command : Command}
    (present : command ∈ (client.taking move).commands) : command ∈ client.commands := by
  cases move with
  | command attempt => exact List.mem_of_mem_tail present
  | signal => exact present
  | timer attempt => exact present
  | send request => exact present
  | stats => exact present
  | shutdown => exact present
  | read => exact present
  | pour amount => exact present
  | arrive arrival => exact present
  | report generation signal => exact present
  | wait nanos => exact present

theorem call_of_handled {move : Move} {stimulus : Dispatcher.Stimulus}
    (handled : client.stimulus? move = some stimulus) {number : Call.Number}
    {request : Request} {attempt : Except Link.Error Unit} {writable : Bool}
    (call : stimulus = .call number request attempt writable) :
    .call number request ∈ client.commands := by
  rcases handled_cases handled with ⟨attempt, command, rest, rfl, next, rfl⟩ |
    ⟨-, generation, signal, rest, rfl, -, rfl⟩ | ⟨-, attempt, rfl, rfl⟩
  · rw [next]
    cases command with
    | call other request =>
      cases call
      exact List.mem_cons_self
    | stats => cases call
    | shutdown => cases call
  · cases call
  · cases call

theorem Accounted.handled_once (accounted : Accounted client outputs) {move : Move}
    {stimulus : Dispatcher.Stimulus} (handled : client.stimulus? move = some stimulus)
    {number : Nat} (call : stimulus.call? = some number) :
    number ∈ client.queuedCalls ∧ number ∉ (client.taking move).queuedCalls ∧
      number ∉ client.pendingCalls := by
  have same : (client.taking move).pendingCalls = client.pendingCalls := by
    simp [pendingCalls]
  have taken := waiting_taking number handled
  have once := accounted.at_most_once number
  rw [if_pos call] at taken
  refine ⟨?_, ?_, ?_⟩
  · cases stimulus with
    | call other request attempt writable =>
      cases call
      exact mem_queuedCalls.mpr ⟨request, call_of_handled handled rfl⟩
    | signal generation signal => cases call
    | timer attempt => cases call
    | stats => cases call
    | shutdown => cases call
  · intro again
    have positive : 0 < (client.taking move).waiting number := waiting_pos (.inl again)
    omega
  · intro pending
    have positive : 0 < (client.taking move).waiting number :=
      waiting_pos (.inr (same ▸ pending))
    omega

section Handled

variable {move : Move} {stimulus : Dispatcher.Stimulus}
  (handled : client.stimulus? move = some stimulus)
include handled

theorem dispatcher_handled : (client.perform move).1.dispatcher =
    (client.dispatcher.handle client.now stimulus).1 := by
  rw [perform_handled handled, dispatcher_handle]
  simp [reaction]

theorem commands_handled {command : Command} (present : command ∈ (client.perform move).1.commands) :
    command ∈ (client.taking move).commands := by
  rw [perform_handled handled] at present
  exact commands_handle _ _ present

theorem receiving_handled (generation : Link.Generation) :
    client.receiving generation move = client.dispatcher.receiving generation stimulus := by
  simp [receiving, handled]

theorem shown_handled (accounted : Accounted client outputs) :
    ∃ abandoned : List Command, (client.perform move).2 =
      (client.dispatcher.handle client.now stimulus).2.map .effect ++
        abandoned.flatMap Command.abandon := by
  have running : (client.taking move).running = true := by
    rw [taking_running]
    exact accounted.running handled
  have same : (client.taking move).reaction stimulus =
      client.dispatcher.handle client.now stimulus := by
    simp [reaction]
  rw [perform_handled handled, ← same]
  by_cases stopped : .stopped ∈ ((client.taking move).reaction stimulus).2
  · exact ⟨_, congrArg Prod.snd (handle_stopped _ move.attempt stopped)⟩
  · refine ⟨[], ?_⟩
    rw [handle_going _ move.attempt running stopped]
    simp

theorem shows_effect (accounted : Accounted client outputs) {effect : Dispatcher.Effect}
    (present : effect ∈ (client.dispatcher.handle client.now stimulus).2) :
    .effect effect ∈ (client.perform move).2 := by
  obtain ⟨abandoned, shown⟩ := shown_handled handled accounted
  rw [shown]
  exact List.mem_append_left _ (List.mem_map_of_mem present)

theorem effect_of_shows (accounted : Accounted client outputs) {effect : Dispatcher.Effect}
    (shows : .effect effect ∈ (client.perform move).2) :
    effect ∈ (client.dispatcher.handle client.now stimulus).2 ∨
    .stopped ∈ (client.dispatcher.handle client.now stimulus).2 ∧
      ∃ number, effect = .settled ⟨number, .error .clientClosed⟩ := by
  have running : (client.taking move).running = true := by
    rw [taking_running]
    exact accounted.running handled
  rw [perform_handled handled] at shows
  rcases mem_handle running shows with ⟨other, present, same⟩ | ⟨stopped, number, -, same⟩
  · cases same
    exact .inl (by simpa [reaction] using present)
  · cases same
    exact .inr ⟨by simpa [reaction] using stopped, number, rfl⟩

theorem frames_handled (accounted : Accounted client outputs) (number : Call.Number) :
    frames number (client.perform move).2 =
      Dispatcher.frames number (client.dispatcher.handle client.now stimulus).2 := by
  obtain ⟨abandoned, shown⟩ := shown_handled handled accounted
  rw [shown, frames_append, frames_effects, frames_abandon, List.append_nil]

theorem frames_handled_other (accounted : Accounted client outputs) {number : Call.Number}
    (other : stimulus.call? ≠ some number) : frames number (client.perform move).2 = [] := by
  rw [frames_handled handled accounted, Dispatcher.frames_of_other accounted.coherent other]

theorem unsent_handled (carried : Carried client requests outputs brought) {number : Nat}
    (waits : number ∈ (client.perform move).1.queuedCalls ∨
      (client.perform move).1.issued ≤ number) :
    frames number (outputs ++ (client.perform move).2) = [] := by
  have early : number ∈ (client.taking move).queuedCalls ∨ client.issued ≤ number := by
    rcases waits with behind | unissued
    · obtain ⟨request, present⟩ := mem_queuedCalls.mp behind
      exact .inl (mem_queuedCalls.mpr ⟨request, commands_handled handled present⟩)
    · rw [issued_perform, issuing_handled handled] at unissued
      exact .inr unissued
  have other : stimulus.call? ≠ some number := by
    intro call
    obtain ⟨queued, once, -⟩ := carried.accounted.handled_once handled call
    rcases early with behind | unissued
    · exact once behind
    · have issued := carried.accounted.issued_of_waiting (.inl queued)
      omega
  have before : frames number outputs = [] := by
    apply carried.unsent
    rcases early with behind | unissued
    · obtain ⟨request, present⟩ := mem_queuedCalls.mp behind
      exact .inl (mem_queuedCalls.mpr ⟨request, commands_taking present⟩)
    · exact .inr unissued
  rw [frames_append, before, frames_handled_other handled carried.accounted other]
  rfl

theorem sent_handled (carried : Carried client requests outputs brought) {id : String}
    {number : Nat} (present : (id, number) ∈ (client.perform move).1.dispatcher.pending.calls) :
    ∃ generation request,
      (client.perform move).1.dispatcher.connection.live = some generation ∧
      requests[number]? = some request ∧ request.id = some id ∧
      frames number (outputs ++ (client.perform move).2) =
        [(generation, request.frame.encode)] := by
  rw [dispatcher_handled handled] at present ⊢
  rw [frames_append]
  rcases Dispatcher.mem_handle_pending carried.accounted.coherent present with
    ⟨before, same⟩ | ⟨request, attempt, writable, generation, call, named, live, once⟩
  · obtain ⟨generation, request, live, issued, named, once⟩ := carried.sent id number before
    have other : stimulus.call? ≠ some number := by
      intro call
      exact (carried.accounted.handled_once handled call).2.2 (List.mem_map_of_mem before)
    refine ⟨generation, request, same.trans live, issued, named, ?_⟩
    rw [once, frames_handled_other handled carried.accounted other, List.append_nil]
  · have waits := call_of_handled handled call
    have issued := carried.queued number request waits
    have before := carried.unsent number (.inl (mem_queuedCalls.mpr ⟨request, waits⟩))
    obtain ⟨name, given⟩ := Option.isSome_iff_exists.mp
      (carried.named request (List.mem_of_getElem? issued))
    refine ⟨generation, request, live, issued, ?_, ?_⟩
    · have same : id = request.id.getD "" := named
      rw [same, given]
      rfl
    · rw [before, List.nil_append, frames_handled handled carried.accounted]
      exact once

theorem held_handled (carried : Carried client requests outputs brought)
    {generation : Link.Generation}
    (live : (client.perform move).1.dispatcher.connection.live = some generation) :
    ∃ frames : List Frame, (∀ frame ∈ frames, frame.Fits) ∧
      brought generation ++ client.receiving generation move =
        Frame.encodeAll frames ++ (client.perform move).1.dispatcher.decoder.buffer := by
  rw [dispatcher_handled handled] at live ⊢
  rw [receiving_handled handled]
  rcases Dispatcher.fed_handle carried.accounted.coherent live with
    ⟨down, newest, empty⟩ | ⟨before, frames, fits, split⟩
  · have nothing : client.dispatcher.receiving generation stimulus = [] :=
      Dispatcher.receiving_down down
    refine ⟨[], by simp, ?_⟩
    rw [carried.ahead generation (newest ▸ Nat.lt_succ_self _), nothing, empty]
    rfl
  · obtain ⟨earlier, earlier_fits, brought_before⟩ := carried.held generation before
    refine ⟨earlier ++ frames, ?_, ?_⟩
    · intro frame present
      exact (List.mem_append.mp present).elim (earlier_fits frame) (fits frame)
    · rw [brought_before, List.append_assoc, split, Frame.encodeAll_append, List.append_assoc]

theorem ahead_handled (carried : Carried client requests outputs brought)
    {generation : Link.Generation}
    (later : (client.perform move).1.dispatcher.connection.generation < generation) :
    brought generation ++ client.receiving generation move = [] := by
  rw [dispatcher_handled handled] at later
  have before : client.dispatcher.connection.generation < generation :=
    lt_of_le_of_lt (Dispatcher.generation_handle stimulus) later
  rw [carried.ahead generation before, receiving_handled handled,
    Dispatcher.receiving_ahead carried.accounted.coherent before]
  rfl

theorem carried_handled (carried : Carried client requests outputs brought) :
    Carried (client.perform move).1 (requests ++ client.issuing move)
      (outputs ++ (client.perform move).2)
      (fun generation => brought generation ++ client.receiving generation move) := by
  rw [issuing_handled handled, List.append_nil]
  refine ⟨accounted_handled carried.accounted handled, ?_, carried.named, ?_,
    fun _ => unsent_handled handled carried, fun _ _ => sent_handled handled carried,
    fun _ => held_handled handled carried, fun _ => ahead_handled handled carried⟩
  · rw [issued_perform, issuing_handled handled, carried.issued]
    rfl
  · intro number request present
    exact carried.queued number request (commands_taking (commands_handled handled present))

end Handled

theorem isSome_identify (request : Request) : (client.identify request).1.id.isSome := by
  unfold identify
  split <;> simp_all [Request.withId]

section Quiet

variable {move : Move} {after : Client} {shown : List Output} (quiet : Quiet client move after shown)
include quiet

theorem commands_quiet {command : Command} (present : command ∈ after.commands) :
    command ∈ client.commands ∨ command.call? = none ∨
      ∃ request, client.issuing move = [request] ∧ command = .call client.issued request := by
  cases quiet with
  | sent request counter running =>
    rcases List.mem_append.mp present with before | added
    · exact .inl before
    · exact .inr (.inr ⟨_, rfl, List.mem_singleton.mp added⟩)
  | asked unissued other running =>
    rcases List.mem_append.mp present with before | added
    · exact .inl before
    · rw [List.mem_singleton.mp added]
      exact .inr (.inl other)
  | _ => exact .inl present

theorem frames_quiet (number : Call.Number) : frames number shown = [] :=
  quiet.filterMap_eq_nil (fun _ _ => rfl) fun _ => rfl

end Quiet

theorem carried_quiet (carried : Carried client requests outputs brought) {move : Move}
    (unhandled : client.stimulus? move = none) :
    Carried (client.perform move).1 (requests ++ client.issuing move)
      (outputs ++ (client.perform move).2)
      (fun generation => brought generation ++ client.receiving generation move) := by
  have quiet := quiet_perform unhandled
  have same := quiet.dispatcher
  have nothing (generation : Link.Generation) : client.receiving generation move = [] := by
    simp [receiving, unhandled]
  have silent (number : Call.Number) (none_before : frames number outputs = []) :
      frames number (outputs ++ (client.perform move).2) = [] := by
    rw [frames_append, none_before, frames_quiet quiet]
    rfl
  have stays {number : Nat} {request : Request} (issued : requests[number]? = some request) :
      (requests ++ client.issuing move)[number]? = some request := by
    obtain ⟨bound, -⟩ := List.getElem?_eq_some_iff.mp issued
    rw [List.getElem?_append_left bound, issued]
  refine ⟨accounted_perform carried.accounted move, ?_, ?_, ?_, ?_, ?_, ?_, ?_⟩
  · rw [issued_perform, carried.issued, List.length_append]
  · intro request present
    rcases List.mem_append.mp present with before | new
    · exact carried.named request before
    · cases move with
      | send sent =>
        rw [List.mem_singleton.mp new]
        exact isSome_identify sent
      | _ => cases new
  · intro number request present
    rcases commands_quiet quiet present with before | other | ⟨sent, issuing, added⟩
    · exact stays (carried.queued number request before)
    · cases other
    · cases added
      rw [issuing, carried.issued]
      simp
  · intro number waits
    apply silent
    apply carried.unsent
    rcases waits with queued | unissued
    · obtain ⟨request, present⟩ := mem_queuedCalls.mp queued
      rcases commands_quiet quiet present with before | other | ⟨sent, -, added⟩
      · exact .inl (mem_queuedCalls.mpr ⟨request, before⟩)
      · cases other
      · cases added
        exact .inr (Nat.le_refl _)
    · rw [issued_perform] at unissued
      exact .inr (by omega)
  · intro id number present
    rw [same] at present ⊢
    obtain ⟨generation, request, live, issued, named, once⟩ := carried.sent id number present
    refine ⟨generation, request, live, stays issued, named, ?_⟩
    rw [frames_append, once, frames_quiet quiet, List.append_nil]
  · intro generation live
    rw [same] at live ⊢
    rw [nothing, List.append_nil]
    exact carried.held generation live
  · intro generation later
    rw [same] at later
    rw [nothing, carried.ahead generation later]
    rfl

theorem carried_new (idPrefix : String) (kind : Link.Kind) (policy : Restart.Policy)
    (now : Nat) : Carried (new idPrefix kind policy now) [] [] (fun _ => []) where
  accounted := accounted_new idPrefix kind policy now
  issued := rfl
  named := by simp
  queued _ _ impossible := by cases impossible
  unsent _ _ := rfl
  sent _ _ impossible := by cases impossible
  held _ impossible := by cases impossible
  ahead _ _ := rfl

theorem carried_perform (carried : Carried client requests outputs brought) (move : Move) :
    Carried (client.perform move).1 (requests ++ client.issuing move)
      (outputs ++ (client.perform move).2)
      (fun generation => brought generation ++ client.receiving generation move) := by
  cases handled : client.stimulus? move with
  | some stimulus => exact carried_handled handled carried
  | none => exact carried_quiet carried handled

theorem carried_after (carried : Carried client requests outputs brought) (moves : List Move) :
    Carried (client.after moves) (requests ++ client.requests moves)
      (outputs ++ client.shown moves)
      (fun generation => brought generation ++ client.delivered generation moves) := by
  induction moves generalizing client requests outputs brought with
  | nil => simpa [Client.requests, delivered] using carried
  | cons move rest ih =>
    have later := ih (carried_perform carried move)
    simpa only [after_cons, shown_cons, Client.requests, delivered, List.append_assoc] using later

theorem carried_run (idPrefix : String) (kind : Link.Kind) (policy : Restart.Policy)
    (start : Nat) (moves : List Move) :
    let fresh := new idPrefix kind policy start
    Carried (fresh.after moves) (fresh.requests moves) (fresh.shown moves)
      (fun generation => fresh.delivered generation moves) := by
  simpa using carried_after (carried_new idPrefix kind policy start) moves

theorem handled_of_shows (accounted : Accounted client outputs) {move : Move}
    {effect : Dispatcher.Effect} (shows : .effect effect ∈ (client.perform move).2)
    (other : ∀ settlement, effect ≠ .settled settlement) :
    ∃ stimulus, client.stimulus? move = some stimulus ∧
      effect ∈ (client.dispatcher.handle client.now stimulus).2 := by
  cases handled : client.stimulus? move with
  | none => exact absurd ((quiet_perform handled).settles shows).2 (other _)
  | some stimulus =>
    rcases effect_of_shows handled accounted shows with present | ⟨-, number, same⟩
    · exact ⟨stimulus, rfl, present⟩
    · exact absurd same (other _)

theorem none_pending_of_failure (accounted : Accounted client outputs) {move : Move}
    {generation : Link.Generation}
    (shows : .effect (.attempted generation false) ∈ (client.perform move).2) :
    client.dispatcher.pending = .empty := by
  obtain ⟨stimulus, -, reacted⟩ := handled_of_shows accounted shows (by simp)
  exact accounted.coherent.none_waits (Dispatcher.attempted_handle accounted.coherent reacted).1

/-- Between any two moves of any run: the link is there exactly while a generation is live, and is of that
generation; the frame of every pending call has been queued exactly once, on it; the decoder holds exactly
the undecoded end of what the live link has brought, and nothing without one; and the live link is the
one that was opened last. So an attempt that fails finds no call pending. -/
theorem coherent_between_moves (idPrefix : String) (kind : Link.Kind) (policy : Restart.Policy)
    (start : Nat) (moves : List Move) :
    let fresh := new idPrefix kind policy start
    let client := fresh.after moves
    let dispatcher := client.dispatcher
    client.link.map Link.generation = dispatcher.connection.live ∧
    (dispatcher.pending.calls ≠ [] → dispatcher.connection.live ≠ none) ∧
    (∀ id number, (id, number) ∈ dispatcher.pending.calls →
      ∃ generation request, dispatcher.connection.live = some generation ∧
        (fresh.requests moves)[number]? = some request ∧ request.id = some id ∧
        frames number (fresh.shown moves) = [(generation, request.frame.encode)]) ∧
    (dispatcher.decoder.buffer ≠ [] → dispatcher.connection.live ≠ none) ∧
    (∀ generation, dispatcher.connection.live = some generation →
      generation = dispatcher.connection.generation ∧
      Frame.decode? dispatcher.decoder.buffer = .ok none ∧
      ∃ frames,
        fresh.delivered generation moves = Frame.encodeAll frames ++ dispatcher.decoder.buffer ∧
        Frame.Decoder.empty.step (fresh.delivered generation moves) =
          (frames.map .ok, dispatcher.decoder)) ∧
    (∀ move generation, .effect (.attempted generation false) ∈ (client.perform move).2 →
      dispatcher.pending.calls = []) := by
  intro fresh client dispatcher
  have carried : Carried client _ _ _ := carried_run idPrefix kind policy start moves
  have coherent := carried.accounted.coherent
  refine ⟨?_, ?_, carried.sent, ?_, ?_, ?_⟩
  · have linked : Linked fresh := rfl
    exact linked_after ⟨_, accounted_new idPrefix kind policy start⟩ linked moves
  · intro waits down
    exact waits (congrArg Call.Pending.calls (coherent.none_waits down))
  · intro held down
    exact held (congrArg Frame.Decoder.buffer (coherent.none_held down))
  · intro generation live
    obtain ⟨frames, fits, brought⟩ := carried.held generation live
    refine ⟨coherent.newest generation live, coherent.incomplete, frames, brought, ?_⟩
    rw [brought]
    exact Frame.Decoder.step_empty fits coherent.incomplete
  · intro move generation shows
    exact congrArg Call.Pending.calls (none_pending_of_failure carried.accounted shows)

end EngineClient.Client
