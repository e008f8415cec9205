import EngineClient.Proofs.Client.Carriage

/-!
Where outcomes come from. The outcome of a call is its own response, brought in by the link that carried
its request while it was pending; or the error of the very step that failed it. `ClientClosed` also comes
without a shutdown, when a restart would lie beyond the end of the clock.
-/

namespace EngineClient.Client

/-- The call is pending under an id, and its frame was queued on the link of a generation, once. -/
structure Awaits (fresh : Client) (moves : List Move) (number : Call.Number) (id : String)
    (generation : Link.Generation) : Prop where
  pending : (id, number) ∈ (fresh.after moves).dispatcher.pending.calls
  live : (fresh.after moves).dispatcher.connection.live = some generation
  queued : ∃ request, (fresh.requests moves)[number]? = some request ∧ request.id = some id ∧
    frames number (fresh.shown moves) = [(generation, request.frame.encode)]

/-- The move completes a frame in what the link of a generation has brought, and the frame reads as this
response. -/
structure Brings (fresh : Client) (moves : List Move) (move : Move)
    (generation : Link.Generation) (reply : Response) : Prop where
  data : ∃ chunk, (fresh.after moves).stimulus? move = some (.signal generation (.data chunk))
  decoded : ∃ (earlier : List Frame) (frame : Frame) (later : Bytes),
    fresh.delivered generation (moves ++ [move]) =
      Frame.encodeAll earlier ++ frame.encode ++ later ∧
    (∀ other ∈ earlier, other.Fits) ∧ frame.Fits ∧
    (fresh.delivered generation moves).length <
      (Frame.encodeAll earlier ++ frame.encode).length ∧
    frame.inbound = .ok (.response reply)

/-- The reply carries the id of the call, and comes on the link that carried its request while the call
is pending. -/
def Answered (fresh : Client) (moves : List Move) (move : Move) (number : Call.Number)
    (reply : Response) : Prop :=
  ∃ id generation, reply.id = some id ∧ Awaits fresh moves number id generation ∧
    Brings fresh moves move generation reply

def Handles (fresh : Client) (moves : List Move) (move : Move) (number : Call.Number)
    (id : String) (attempt : Except Link.Error Unit) (writable : Bool) : Prop :=
  ∃ request, (fresh.requests moves)[number]? = some request ∧ request.id = some id ∧
    (fresh.after moves).stimulus? move = some (.call number request attempt writable)

def Stops (client : Client) (move : Move) : Prop :=
  client.stimulus? move = some .shutdown ∨
    ∃ delay, .effect (.decided (.after delay)) ∈ (client.perform move).2 ∧
      Dispatcher.clockEnd ≤ client.now + delay.nanos

def HasStopped (fresh : Client) (moves : List Move) : Prop :=
  ∃ before move later, moves = before ++ move :: later ∧ (fresh.after before).Stops move

/-- What must have happened, up to and in this move, for a call to be given an outcome. -/
def Provenance (fresh : Client) (moves : List Move) (move : Move) (number : Call.Number) :
    Call.Outcome → Prop
  | .ok reply => reply.status = .success ∧ Answered fresh moves move number reply
  | .error (.engine message) => ∃ reply, reply.status = .fail ∧ reply.errorMessage = message ∧
      Answered fresh moves move number reply
  | .error (.duplicateId id) =>
      (∃ attempt writable, Handles fresh moves move number id attempt writable) ∧
      ∃ other, other ≠ number ∧ (id, other) ∈ (fresh.after moves).dispatcher.pending.calls
  | .error (.connectionFailed detail) => ∃ id error writable,
      Handles fresh moves move number id (.error error) writable ∧
      (fresh.after moves).dispatcher.connection.live = none ∧
      Call.Error.ofLink error = .connectionFailed detail
  | .error (.linkLost reason) =>
      (∃ id error writable, Handles fresh moves move number id (.error error) writable ∧
        (fresh.after moves).dispatcher.connection.live = none ∧
        Call.Error.ofLink error = .linkLost reason) ∨
      (∃ id attempt, Handles fresh moves move number id attempt false ∧
        (fresh.after moves).dispatcher.connection.live ≠ none ∧
        reason = Link.Error.closed.message) ∨
      (∃ id generation, Awaits fresh moves number id generation ∧
        .effect (.dropped generation) ∈ ((fresh.after moves).perform move).2)
  | .error .clientClosed => HasStopped fresh (moves ++ [move])
  | .error (.protocol _) => False
  | .error (.encoding _) => False

variable {fresh : Client} {moves : List Move} {move : Move} {number : Call.Number}

abbrev CarriedRun (fresh : Client) (moves : List Move) : Prop :=
  Carried (fresh.after moves) (fresh.requests moves) (fresh.shown moves)
    (fun generation => fresh.delivered generation moves)

theorem hasStopped_append (stopped : HasStopped fresh moves) (later : List Move) :
    HasStopped fresh (moves ++ later) := by
  obtain ⟨before, move, rest, rfl, stops⟩ := stopped
  exact ⟨before, move, rest ++ later, by simp, stops⟩

theorem hasStopped_concat (stops : (fresh.after moves).Stops move) :
    HasStopped fresh (moves ++ [move]) := ⟨moves, move, [], rfl, stops⟩

theorem stops_iff_stopped {client : Client} {outputs : List Output}
    (accounted : Accounted client outputs) {stimulus : Dispatcher.Stimulus}
    (handled : client.stimulus? move = some stimulus) :
    client.Stops move ↔ .stopped ∈ (client.dispatcher.handle client.now stimulus).2 := by
  by_cases asked : stimulus = .shutdown
  · subst asked
    exact iff_of_true (.inl handled) Dispatcher.shutdown_stops
  · rw [(Dispatcher.stops_handle asked).overruns, Stops, handled]
    constructor
    · rintro (shutdown | ⟨delay, shows, late⟩)
      · exact absurd (Option.some.inj shutdown) asked
      · rcases effect_of_shows handled accounted shows with present | ⟨-, number, same⟩
        · exact ⟨delay, present, late⟩
        · cases same
    · rintro ⟨delay, present, late⟩
      exact .inr ⟨delay, shows_effect handled accounted present, late⟩

theorem handled_of_stops {client : Client} (stops : client.Stops move) :
    ∃ stimulus, client.stimulus? move = some stimulus := by
  rcases stops with shutdown | ⟨delay, shows, -⟩
  · exact ⟨_, shutdown⟩
  · cases handled : client.stimulus? move with
    | some stimulus => exact ⟨stimulus, rfl⟩
    | none => cases ((quiet_perform handled).settles shows).2

theorem running_perform {client : Client} {outputs : List Output}
    (accounted : Accounted client outputs) :
    (client.perform move).1.running = false ↔ client.running = false ∨ client.Stops move := by
  cases handled : client.stimulus? move with
  | none =>
    have quiet : ¬ client.Stops move := by
      intro stops
      obtain ⟨stimulus, some_handled⟩ := handled_of_stops stops
      rw [handled] at some_handled
      cases some_handled
    rw [(quiet_perform handled).running]
    exact ⟨.inl, fun either => either.resolve_right quiet⟩
  | some stimulus =>
    have running := accounted.running handled
    have taken : (client.taking move).running = true := by
      rw [taking_running]
      exact running
    have same : ((client.taking move).reaction stimulus).2 =
        (client.dispatcher.handle client.now stimulus).2 := by
      simp [reaction]
    rw [perform_handled handled, stops_iff_stopped accounted handled, ← same]
    by_cases stopped : .stopped ∈ ((client.taking move).reaction stimulus).2
    · rw [handle_stopped _ _ stopped]
      exact iff_of_true rfl (.inr stopped)
    · rw [handle_going _ _ taken stopped]
      simp [running, stopped]

theorem running_eq_false_iff (idPrefix : String) (kind : Link.Kind) (policy : Restart.Policy)
    (start : Nat) (moves : List Move) :
    let fresh := new idPrefix kind policy start
    (fresh.after moves).running = false ↔ HasStopped fresh moves := by
  intro fresh
  induction moves using List.reverseRecOn with
  | nil =>
    refine iff_of_false (by simp [fresh, new]) ?_
    rintro ⟨before, move, later, impossible, -⟩
    simp at impossible
  | append_singleton moves move ih =>
    have accounted := (carried_run idPrefix kind policy start moves).accounted
    rw [after_concat, running_perform accounted, ih]
    constructor
    · rintro (stopped | stops)
      · exact hasStopped_append stopped [move]
      · exact hasStopped_concat stops
    · rintro ⟨before, stopping, later, split, stops⟩
      rcases List.eq_nil_or_concat later with rfl | ⟨rest, last, rfl⟩
      · obtain ⟨rfl, same⟩ := List.append_inj' split rfl
        cases same
        exact .inr stops
      · have whole : moves ++ [move] = (before ++ stopping :: rest) ++ [last] := by
          rw [split]
          simp
        obtain ⟨rfl, -⟩ := List.append_inj' whole rfl
        exact .inl ⟨before, stopping, rest, rfl, stops⟩

theorem handles_of_handled (carried : CarriedRun fresh moves) {request : Request}
    {attempt : Except Link.Error Unit} {writable : Bool}
    (handled : (fresh.after moves).stimulus? move = some (.call number request attempt writable)) :
    ∃ id, request.id.getD "" = id ∧ Handles fresh moves move number id attempt writable := by
  have waits := call_of_handled handled rfl
  have issued := carried.queued number request waits
  obtain ⟨id, named⟩ := Option.isSome_iff_exists.mp
    (carried.named request (List.mem_of_getElem? issued))
  exact ⟨id, by rw [named]; rfl, request, issued, named, handled⟩

theorem awaits_of_pending (carried : CarriedRun fresh moves) {id : String}
    {generation : Link.Generation}
    (live : (fresh.after moves).dispatcher.connection.live = some generation)
    (pending : (id, number) ∈ (fresh.after moves).dispatcher.pending.calls) :
    Awaits fresh moves number id generation := by
  obtain ⟨carrier, request, up, issued, named, once⟩ := carried.sent id number pending
  rw [live] at up
  cases up
  exact ⟨pending, live, request, issued, named, once⟩

theorem brings_of_framed (carried : CarriedRun fresh moves) {generation : Link.Generation}
    {chunk : Bytes} {frames : List Frame} {frame : Frame}
    {ends : List (Except Frame.Error Frame)} {reply : Response}
    (handled : (fresh.after moves).stimulus? move = some (.signal generation (.data chunk)))
    (live : (fresh.after moves).dispatcher.connection.live = some generation)
    (framed : ((fresh.after moves).dispatcher.decoder.step chunk).1 =
      frames.map .ok ++ .ok frame :: ends)
    (said : frame.inbound = .ok (.response reply)) :
    Brings fresh moves move generation reply := by
  obtain ⟨earlier, earlier_fits, brought⟩ := carried.held generation live
  obtain ⟨rest, split, fits, -⟩ :=
    Frame.Decoder.splits_framesOf (fresh.after moves).dispatcher.decoder chunk
  have found : Frame.Decoder.framesOf ((fresh.after moves).dispatcher.decoder.step chunk).1 =
      (frames ++ [frame]) ++ Frame.Decoder.framesOf ends := by
    rw [framed]
    simp
  rw [found, Frame.encodeAll_append, List.append_assoc] at split
  rw [found] at fits
  have own_fits : ∀ other ∈ frames ++ [frame], other.Fits := fun other present =>
    fits other (List.mem_append_left _ present)
  have completes := Frame.Decoder.length_lt_of_incomplete carried.accounted.coherent.incomplete
    own_fits (by simp) split
  have single : Frame.encodeAll (frames ++ [frame]) = Frame.encodeAll frames ++ frame.encode := by
    simp
  refine ⟨⟨chunk, handled⟩, earlier ++ frames, frame,
    Frame.encodeAll (Frame.Decoder.framesOf ends) ++ rest, ?_, ?_, ?_, ?_, said⟩
  · have receives : (fresh.after moves).receiving generation move = chunk := by
      simp [receiving, handled, Dispatcher.receiving, live]
    rw [delivered_concat, receives, brought, List.append_assoc, split, single,
      Frame.encodeAll_append]
    simp only [List.append_assoc]
  · intro other present
    rcases List.mem_append.mp present with early | late
    · exact earlier_fits other early
    · exact own_fits other (List.mem_append_left _ late)
  · exact own_fits frame (by simp)
  · rw [brought, Frame.encodeAll_append, List.append_assoc, ← single]
    simp only [List.length_append] at completes ⊢
    omega

theorem provenance_of_cause (carried : CarriedRun fresh moves) {stimulus : Dispatcher.Stimulus}
    {outcome : Call.Outcome} (handled : (fresh.after moves).stimulus? move = some stimulus)
    (cause : (fresh.after moves).dispatcher.Cause number stimulus outcome) :
    Provenance fresh moves move number outcome := by
  cases cause with
  | @duplicate request attempt writable taken =>
    obtain ⟨id, rfl, handles⟩ := handles_of_handled carried handled
    obtain ⟨other, pending⟩ := Call.Pending.contains_iff.mp taken
    refine ⟨⟨attempt, writable, handles⟩, other, ?_, pending⟩
    rintro rfl
    exact (carried.accounted.handled_once handled rfl).2.2 (List.mem_map_of_mem pending)
  | @unreachable request error writable free down =>
    obtain ⟨id, -, handles⟩ := handles_of_handled carried handled
    cases error with
    | spawn program detail => exact ⟨id, _, writable, handles, down, rfl⟩
    | connect address detail => exact ⟨id, _, writable, handles, down, rfl⟩
    | closed => exact .inl ⟨id, _, writable, handles, down, rfl⟩
    | io detail => exact .inl ⟨id, _, writable, handles, down, rfl⟩
  | @refused request attempt generation free live =>
    obtain ⟨id, -, handles⟩ := handles_of_handled carried handled
    exact .inr (.inl ⟨id, attempt, handles, by simp [live], rfl⟩)
  | @answered generation chunk frames ends frame id reply live framed waits first answers =>
    have answered : Answered fresh moves move number reply :=
      ⟨id, generation, answers.2, awaits_of_pending carried live waits,
        brings_of_framed carried handled live framed answers.1⟩
    cases status : reply.status with
    | success =>
      have outcome : Call.outcomeOf reply = .ok reply := by simp [Call.outcomeOf, status]
      rw [outcome]
      exact ⟨status, answered⟩
    | fail =>
      have outcome : Call.outcomeOf reply = .error (.engine reply.errorMessage) := by
        simp [Call.outcomeOf, status]
      rw [outcome]
      exact ⟨reply, status, rfl, answered⟩
  | @lost generation signal reason live ends waits =>
    obtain ⟨⟨id, call⟩, present, rfl⟩ := List.mem_map.mp waits
    refine .inr (.inr ⟨id, generation, awaits_of_pending carried live present, ?_⟩)
    exact shows_effect handled carried.accounted (Dispatcher.dropped_of_ends live ends)
  | closed waits => exact hasStopped_concat (.inl handled)

theorem provenance_of_shows (carried : CarriedRun fresh moves)
    (stopped : (fresh.after moves).running = false → HasStopped fresh moves)
    {outcome : Call.Outcome}
    (shows : .effect (.settled ⟨number, outcome⟩) ∈ ((fresh.after moves).perform move).2) :
    Provenance fresh moves move number outcome := by
  cases handled : (fresh.after moves).stimulus? move with
  | none =>
    obtain ⟨halted, same⟩ := (quiet_perform handled).settles shows
    cases same
    exact hasStopped_append (stopped halted) [move]
  | some stimulus =>
    rcases effect_of_shows handled carried.accounted shows with present | ⟨stops, call, same⟩
    · exact provenance_of_cause carried handled
        (Dispatcher.cause_handle carried.accounted.coherent present)
    · cases same
      exact hasStopped_concat ((stops_iff_stopped carried.accounted handled).mpr stops)

theorem duplicate_of_pending (carried : CarriedRun fresh moves) {id : String}
    {attempt : Except Link.Error Unit} {writable : Bool} {other : Call.Number}
    (handles : Handles fresh moves move number id attempt writable)
    (pending : (id, other) ∈ (fresh.after moves).dispatcher.pending.calls) :
    .effect (.settled ⟨number, .error (.duplicateId id)⟩) ∈
      ((fresh.after moves).perform move).2 := by
  obtain ⟨request, -, named, handled⟩ := handles
  have same : request.id.getD "" = id := by rw [named]; rfl
  have taken : (fresh.after moves).dispatcher.pending.contains (request.id.getD "") = true := by
    rw [same]
    exact Call.Pending.contains_iff.mpr ⟨other, pending⟩
  apply shows_effect handled carried.accounted
  rw [Dispatcher.handle, Dispatcher.call_duplicate taken, same]
  exact List.mem_singleton_self _

theorem ofLink_of_failure (carried : CarriedRun fresh moves) {id : String}
    {error : Link.Error} {writable : Bool}
    (handles : Handles fresh moves move number id (.error error) writable)
    (down : (fresh.after moves).dispatcher.connection.live = none) :
    .effect (.settled ⟨number, .error (.ofLink error)⟩) ∈
      ((fresh.after moves).perform move).2 := by
  obtain ⟨request, -, -, handled⟩ := handles
  have free : (fresh.after moves).dispatcher.pending.contains (request.id.getD "") = false := by
    rw [carried.accounted.coherent.none_waits down]
    rfl
  apply shows_effect handled carried.accounted
  rw [Dispatcher.handle, Dispatcher.call_failed free down]
  exact List.mem_cons_of_mem _ List.mem_cons_self

/-- Every outcome comes from the one cause that its kind names. A response comes on the link that carried
the request of the call, while the call is pending under its id; a call whose id is pending is refused as
a duplicate, one whose link cannot be opened has the error of the attempt, and the client ends calls with
`ClientClosed` just when it has handled a shutdown or a restart has overrun the clock. -/
theorem outcome_provenance (idPrefix : String) (kind : Link.Kind) (policy : Restart.Policy)
    (start : Nat) (moves : List Move) :
    let fresh := new idPrefix kind policy start
    let client := fresh.after moves
    (∀ move number outcome,
      .effect (.settled ⟨number, outcome⟩) ∈ (client.perform move).2 →
        Provenance fresh moves move number outcome) ∧
    (∀ move number id attempt writable other,
      Handles fresh moves move number id attempt writable →
      (id, other) ∈ client.dispatcher.pending.calls →
        .effect (.settled ⟨number, .error (.duplicateId id)⟩) ∈ (client.perform move).2) ∧
    (∀ move number id error writable,
      Handles fresh moves move number id (.error error) writable →
      client.dispatcher.connection.live = none →
        .effect (.settled ⟨number, .error (.ofLink error)⟩) ∈ (client.perform move).2) ∧
    (client.running = false ↔ HasStopped fresh moves) := by
  intro fresh client
  have carried : CarriedRun fresh moves := carried_run idPrefix kind policy start moves
  have halts := running_eq_false_iff idPrefix kind policy start moves
  refine ⟨?_, ?_, ?_, halts⟩
  · intro move number outcome shows
    exact provenance_of_shows carried halts.mp shows
  · intro move number id attempt writable other handles pending
    exact duplicate_of_pending carried handles pending
  · intro move number id error writable handles down
    exact ofLink_of_failure carried handles down

def farthest : Duration := ⟨0x10000000000000000 * 1000000000 - 1, by decide⟩

/-- A run in which nobody asks for a shutdown: the link cannot be opened, and the restart that is put off
by the longest delay overruns the clock. -/
def overrunning : List Move :=
  [.send (.directoryOpen "/"), .command (.error .closed), .send (.directoryOpen "/")]

/-- The second call ends with `ClientClosed` though the client was not shut down. -/
theorem clientClosed_without_shutdown :
    Move.shutdown ∉ overrunning ∧
      outcomes 1 ((new "p" .socket ⟨0, farthest, farthest, none⟩ 0).shown overrunning) =
        [.error .clientClosed] := by
  constructor
  · simp [overrunning]
  · rfl

end EngineClient.Client
