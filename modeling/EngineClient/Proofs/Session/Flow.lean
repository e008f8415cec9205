import EngineClient.Proofs.Session.Reading

/-!
What holds of a session between any two turns: every request is queued, on its way to the engine, open there,
or answered by what the client is about to read, and what has come back is the listing of its own path.
-/

namespace EngineClient.Session

open Client (Accounted Command)
open EngineClient.Frame (Incomplete encodeAll)

variable (listing : String → List Entry)

/-- What holds of a session between any two turns, given the directories that were listed, what the
client has shown, and the requests that are on their way to the engine. -/
structure Flow (paths : List String) (session : Session) (outputs : List Client.Output)
    (sending : List Request) : Prop where
  accounted : Accounted session.client outputs
  calls : Calls session.client paths
  joined : Joined session.client
  unconnected : session.client.link = none → session.outbox = []
  outward : session.inbox.buffer ++ unsent session.client = encodeAll (sending.map Request.frame)
  sendable : ∀ frame ∈ sending.map Request.frame, frame.Fits
  whole : Incomplete session.inbox.buffer
  inward : session.client.dispatcher.decoder.buffer ++ arriving session.client.signals ++
    session.outbox = encodeAll (session.written.map (Writing.frame listing))
  readable : ∀ frame ∈ session.written.map (Writing.frame listing), frame.Fits
  underway : (sending ++ session.unanswered ++ answers session.written).Perm
    (session.client.dispatcher.pending.calls.map (requestAt paths))
  returned : ∀ (number : Nat) outcome, outcome ∈ Client.outcomes number outputs →
    ∃ path, paths[number]? = some path ∧ Call.listing outcome = .ok (listing path)

variable {listing} {paths : List String} {session : Session} {outputs : List Client.Output}
  {sending : List Request}

theorem flow_start (idPrefix : String) (kind : Link.Kind) (policy : Restart.Policy) (now : Nat) :
    Flow listing [] (start (Client.new idPrefix kind policy now)) [] [] where
  accounted := Client.accounted_new idPrefix kind policy now
  calls := calls_new idPrefix kind policy now
  joined := .inl ⟨rfl, rfl, rfl⟩
  unconnected _ := rfl
  outward := rfl
  sendable := by simp
  whole := Frame.incomplete_nil
  inward := rfl
  readable := by simp [start]
  underway := .nil
  returned := by simp

theorem requestAt_append {path : String} {entry : String × Call.Number}
    (earlier : (entry.2 : Nat) < paths.length) :
    requestAt (paths ++ [path]) entry = requestAt paths entry := by
  rw [requestAt, requestAt, List.getD_eq_getElem?_getD, List.getD_eq_getElem?_getD,
    List.getElem?_append_left earlier]

theorem flow_list (flow : Flow listing paths session outputs sending) {path : String}
    (permitted : session.Permitted listing (.list path)) :
    Flow listing (paths ++ [path]) (session.turn listing (.list path)).1
      (outputs ++ (session.turn listing (.list path)).2) sending := by
  obtain ⟨fits, near⟩ := permitted
  rw [identify_list flow.calls] at fits
  rw [flow.calls.issued] at near
  have accounted := Client.accounted_perform flow.accounted (.send (.directoryOpen path))
  have calls := calls_list flow.calls fits near
  have sent : session.client.perform (.send (.directoryOpen path)) = _ :=
    send_list flow.calls path
  have same : session.client.dispatcher.pending.calls.map (requestAt (paths ++ [path])) =
      session.client.dispatcher.pending.calls.map (requestAt paths) := by
    apply List.map_congr_left
    intro entry present
    exact requestAt_append (flow.calls.pending entry.1 entry.2 present).2
  rw [turn, perform, sent]
  rw [sent] at accounted
  rw [send_list flow.calls] at calls
  refine ⟨accounted, calls, flow.joined.of_same rfl rfl (List.Subset.refl _), flow.unconnected,
    flow.outward, flow.sendable, flow.whole, flow.inward, flow.readable, ?_, ?_⟩
  · exact (same ▸ flow.underway :)
  · intro number outcome shown
    rw [List.append_nil] at shown
    obtain ⟨old, there, listed⟩ := flow.returned number outcome shown
    exact ⟨old, by rw [List.getElem?_append_left (lt_of_getElem? there), there], listed⟩

theorem Flow.next_call (flow : Flow listing paths session outputs sending) {command : Command}
    {rest : List Command} (next : session.client.commands = command :: rest) :
    ∃ (number : Nat) (path : String), paths[number]? = some path ∧
      (request (callId session.client number) path).frame.Fits ∧
      command = .call number (request (callId session.client number) path) ∧
      session.client.dispatcher.pending.contains (callId session.client number) = false := by
  obtain ⟨number, path, there, fits, rfl⟩ :=
    flow.calls.queued command (by rw [next]; exact List.mem_cons_self)
  exact ⟨number, path, there, fits, rfl, flow.calls.free flow.accounted next⟩

theorem Flow.turn_handle (flow : Flow listing paths session outputs sending) {command : Command}
    {rest : List Command} (next : session.client.commands = command :: rest) :
    ∃ dispatcher link outputs, session.turn listing .handle =
      ({ session with client := { session.client with commands := rest, dispatcher, link } },
        outputs) := by
  obtain ⟨number, path, -, -, rfl, free⟩ := flow.next_call next
  obtain ⟨connection, link, effects, performed, -⟩ :=
    exists_handled flow.joined flow.calls.running next free
  exact ⟨_, _, effects, by rw [turn, perform, performed]⟩

theorem Flow.underway_handle (flow : Flow listing paths session outputs sending)
    {number : Call.Number} {path : String} (there : paths[number]? = some path) :
    let asked := request (callId session.client number) path
    (sending ++ [asked] ++ session.unanswered ++ answers session.written).Perm
      ((session.client.dispatcher.pending.adding (asked.id.getD "") number).calls.map
        (requestAt paths)) := by
  intro asked
  have same : requestAt paths (callId session.client number, number) = asked := by
    rw [requestAt, List.getD_eq_getElem?_getD, there]
    rfl
  have added : (session.client.dispatcher.pending.adding (asked.id.getD "") number).calls.map
      (requestAt paths) =
        session.client.dispatcher.pending.calls.map (requestAt paths) ++ [asked] := by
    rw [Call.Pending.calls_adding, List.map_append, List.map_singleton, ← same]
    rfl
  rw [added, List.append_assoc, List.append_assoc, List.singleton_append]
  refine List.perm_middle.trans ?_
  rw [← List.append_assoc]
  exact (flow.underway.cons _).trans (List.perm_append_singleton _ _).symm

theorem flow_handle (flow : Flow listing paths session outputs sending) :
    ∃ sending, Flow listing paths (session.turn listing .handle).1
      (outputs ++ (session.turn listing .handle).2) sending := by
  have accounted := Client.accounted_perform flow.accounted (.command (.ok .silent))
  rw [turn, perform]
  cases next : session.client.commands with
  | nil =>
    have idle : session.client.perform (.command (.ok .silent)) = (session.client, []) :=
      Client.command_none _ next
    rw [idle, List.append_nil]
    exact ⟨sending, flow⟩
  | cons command rest =>
    obtain ⟨number, path, there, fits, rfl, free⟩ := flow.next_call next
    obtain ⟨connection, link, effects, performed, opened, moved, silent⟩ :=
      exists_handled flow.joined flow.calls.running next free
    have queued : number ∈ session.client.queuedCalls := by
      simp [Client.queuedCalls, next, Command.call?]
    rw [performed] at accounted opened ⊢
    refine ⟨sending ++ [request (callId session.client number) path], accounted, ?_,
      .inr ⟨link, opened⟩, fun gone => (by cases gone), ?_, ?_, flow.whole, flow.inward,
      flow.readable, ?_, ?_⟩
    · refine flow.calls.of_same ?_ ?_ ?_
      · exact ⟨rfl, rfl, rfl, rfl⟩
      · rw [next]
        exact List.subset_cons_self _ _
      · intro id other present
        rcases List.mem_append.mp present with before | last
        · exact .inl before
        · cases List.mem_singleton.mp last
          exact .inr ⟨rfl, queued⟩
    · rw [unsent_open opened, moved, ← List.append_assoc, flow.outward]
      simp
    · intro frame present
      rw [List.map_append] at present
      rcases List.mem_append.mp present with before | last
      · exact flow.sendable frame before
      · rw [List.mem_singleton.mp last]
        exact fits
    · exact flow.underway_handle there
    · intro other outcome shown
      rw [Client.outcomes_append, silent, List.append_nil] at shown
      exact flow.returned other outcome shown

theorem Flow.outbound (flow : Flow listing paths session outputs sending) {asked : Request}
    (present : asked ∈ sending) : asked.frame.outbound = .ok asked := by
  have waits : asked ∈ session.client.dispatcher.pending.calls.map (requestAt paths) :=
    flow.underway.subset (List.mem_append_left _ (List.mem_append_left _ present))
  obtain ⟨entry, -, rfl⟩ := List.mem_map.mp waits
  exact Request.outbound_directoryOpen _ _

theorem outbound_frames {requests : List Request}
    (readable : ∀ asked ∈ requests, asked.frame.outbound = .ok asked) :
    (requests.map Request.frame).filterMap (·.outbound.toOption) = requests := by
  induction requests with
  | nil => rfl
  | cons asked requests ih =>
    have first := readable asked List.mem_cons_self
    have rest := ih fun other present => readable other (List.mem_cons_of_mem asked present)
    rw [List.map_cons, List.filterMap_cons, first, rest]
    rfl

theorem flow_pour (flow : Flow listing paths session outputs sending) (amount : Nat) :
    ∃ sending, Flow listing paths (session.turn listing (.pour amount)).1
      (outputs ++ (session.turn listing (.pour amount)).2) sending := by
  have accounted := Client.accounted_perform flow.accounted (.pour amount)
  obtain ⟨link, shown, performed, joined, apart, moved, silent⟩ := exists_poured flow.joined amount
  have stream : session.inbox.buffer ++ poured shown ++
      unsent { session.client with link } = encodeAll (sending.map Request.frame) := by
    rw [← flow.outward, moved, List.append_assoc]
  obtain ⟨early, late, tail, split, stepped, whole, left⟩ :=
    Frame.Decoder.step_stream flow.sendable stream
  obtain ⟨read, unread, rfl, rfl, rfl⟩ := List.map_eq_append_iff.mp split
  have opened := outbound_frames fun asked present =>
    flow.outbound (List.mem_append_left unread present)
  have turned : session.turn listing (.pour amount) = ({ session with
      client := { session.client with link }
      inbox := ⟨tail⟩
      unanswered := session.unanswered ++ read }, shown) := by
    simp only [turn, perform, performed, receive, stepped, Frame.Decoder.framesOf_ok, opened]
  rw [performed] at accounted
  rw [turned]
  refine ⟨unread, accounted, ?_, joined, fun none => flow.unconnected (apart none), left, ?_, whole,
    flow.inward, flow.readable, ?_, ?_⟩
  · refine flow.calls.of_same ?_ (List.Subset.refl _) fun id number present => .inl present
    exact ⟨rfl, rfl, rfl, rfl⟩
  · intro frame present
    exact flow.sendable frame (by rw [List.map_append]; exact List.mem_append_right _ present)
  · refine List.Perm.trans ?_ flow.underway
    refine List.Perm.append_right _ ?_
    rw [← List.append_assoc, List.append_assoc read]
    exact List.perm_append_comm
  · intro number outcome given
    rw [Client.outcomes_append, silent, List.append_nil] at given
    exact flow.returned number outcome given

theorem flow_write (flow : Flow listing paths session outputs sending)
    (connected : session.client.link ≠ none) {writing : Writing} {unanswered : List Request}
    (fits : (writing.frame listing).Fits)
    (moves : (unanswered ++ answers [writing]).Perm session.unanswered) :
    Flow listing paths ({ session with unanswered }.write listing writing) (outputs ++ [])
      sending := by
  rw [List.append_nil]
  refine ⟨flow.accounted, flow.calls, flow.joined, fun apart => absurd apart connected,
    flow.outward, flow.sendable, flow.whole, ?_, ?_, ?_, flow.returned⟩
  · rw [write, ← List.append_assoc, flow.inward, List.map_append, Frame.encodeAll_append]
    simp
  · intro frame present
    rw [write, List.map_append] at present
    rcases List.mem_append.mp present with before | last
    · exact flow.readable frame before
    · rw [List.mem_singleton.mp last]
      exact fits
  · refine List.Perm.trans ?_ flow.underway
    rw [write, answers_append, List.append_assoc, List.append_assoc]
    refine List.Perm.append_left sending ?_
    refine (List.perm_append_comm.append_left unanswered).trans ?_
    rw [← List.append_assoc]
    exact moves.append_right _

theorem Flow.none_asked (flow : Flow listing paths session outputs sending)
    (apart : session.client.link = none) : session.unanswered = [] := by
  have down : session.client.dispatcher.connection.live = none := by
    obtain ⟨-, down, -⟩ | ⟨link, opened⟩ := flow.joined
    · exact down
    · rw [opened.there] at apart
      cases apart
  have underway := flow.underway
  rw [flow.accounted.coherent.none_waits down] at underway
  have nothing := underway.eq_nil
  simp only [List.append_eq_nil_iff] at nothing
  exact nothing.1.2

theorem flow_answer (flow : Flow listing paths session outputs sending) {index : Nat}
    (permitted : session.Permitted listing (.answer index)) :
    Flow listing paths (session.turn listing (.answer index)).1
      (outputs ++ (session.turn listing (.answer index)).2) sending := by
  rw [turn]
  cases asked : session.unanswered[index]? with
  | none =>
    rw [List.append_nil]
    exact flow
  | some request =>
    have connected : session.client.link ≠ none := by
      intro apart
      rw [flow.none_asked apart] at asked
      cases asked
    refine flow_write flow connected (permitted request asked) ?_
    obtain ⟨bound, rfl⟩ := List.getElem?_eq_some_iff.mp asked
    exact (List.perm_append_singleton _ _).trans (List.getElem_cons_eraseIdx_perm bound)

theorem flow_aside (flow : Flow listing paths session outputs sending) {frame : Frame}
    (permitted : session.Permitted listing (.aside frame)) :
    Flow listing paths (session.turn listing (.aside frame)).1
      (outputs ++ (session.turn listing (.aside frame)).2) sending := by
  rw [turn]
  cases there : session.client.link with
  | none =>
    rw [List.append_nil]
    exact flow
  | some link =>
    have connected : session.client.link ≠ none := by
      rw [there]
      exact Option.some_ne_none link
    exact flow_write flow connected permitted (by rw [answers]; simp)

theorem turn_deliver {link : Link} (count : Nat) (opened : Open session.client link) :
    session.turn listing (.deliver count) = ({ session with
      client := { session.client with
        signals := session.client.signals ++
          [(link.generation, .data (session.outbox.take count))] }
      outbox := session.outbox.drop count }, []) := by
  rw [turn, opened.there]
  rfl

theorem flow_deliver (flow : Flow listing paths session outputs sending) (count : Nat) :
    Flow listing paths (session.turn listing (.deliver count)).1
      (outputs ++ (session.turn listing (.deliver count)).2) sending := by
  obtain ⟨apart, -⟩ | ⟨link, opened⟩ := flow.joined
  · have idle : session.turn listing (.deliver count) = (session, []) := by
      rw [turn, apart]
    rw [idle, List.append_nil]
    exact flow
  · have turned : session.turn listing (.deliver count) = ({ session with
        client := { session.client with
          signals := session.client.signals ++
            [(link.generation, .data (session.outbox.take count))] }
        outbox := session.outbox.drop count }, []) := by
      rw [turn, opened.there]
      rfl
    have accounted := Client.accounted_perform flow.accounted
      (.report link.generation (.data (session.outbox.take count)))
    rw [turn_deliver count opened, List.append_nil]
    rw [Client.perform, List.append_nil] at accounted
    refine ⟨accounted, ?_, .inr ⟨link, ?_⟩, ?_, flow.outward, flow.sendable, flow.whole, ?_,
      flow.readable, flow.underway, flow.returned⟩
    · refine flow.calls.of_same ?_ (List.Subset.refl _) fun id number present => .inl present
      exact ⟨rfl, rfl, rfl, rfl⟩
    · refine ⟨opened.there, opened.live, opened.kept, opened.heard, opened.unlimited, ?_⟩
      intro entry present
      rcases List.mem_append.mp present with before | last
      · exact opened.data entry before
      · exact ⟨_, List.mem_singleton.mp last⟩
    · intro apart
      cases opened.there.symm.trans apart
    · rw [← flow.inward]
      simp

theorem Flow.exists_read (flow : Flow listing paths session outputs sending)
    {generation : Link.Generation} {chunk : Bytes}
    {later : List (Link.Generation × Link.Signal)}
    (next : session.client.signals = (generation, .data chunk) :: later) :
    ∃ read unread tail, session.written = read ++ unread ∧ session.reading = read ∧
      session.client.dispatcher.decoder.step chunk =
        ((read.map (Writing.frame listing)).map .ok, ⟨tail⟩) ∧
      tail ++ arriving later ++ session.outbox =
        encodeAll (unread.map (Writing.frame listing)) := by
  have stream : session.client.dispatcher.decoder.buffer ++ chunk ++
      (arriving later ++ session.outbox) =
        encodeAll (session.written.map (Writing.frame listing)) := by
    rw [← flow.inward, next, arriving_cons]
    simp
  obtain ⟨early, late, tail, split, stepped, -, left⟩ :=
    Frame.Decoder.step_stream flow.readable stream
  obtain ⟨read, unread, written, rfl, rfl⟩ := List.map_eq_append_iff.mp split
  refine ⟨read, unread, tail, written, ?_, stepped, ?_⟩
  · rw [reading, next]
    dsimp only
    rw [stepped, Frame.Decoder.framesOf_ok, List.length_map, written, List.take_left]
  · rw [List.append_assoc]
    exact left

theorem Flow.turn_read (flow : Flow listing paths session outputs sending)
    {entry : Link.Generation × Link.Signal} {later : List (Link.Generation × Link.Signal)}
    (next : session.client.signals = entry :: later) :
    ∃ generation read unread tail, session.written = read ++ unread ∧ session.reading = read ∧
      tail ++ arriving later ++ session.outbox = encodeAll (unread.map (Writing.frame listing)) ∧
      let taken := { session.client.dispatcher with decoder := ⟨tail⟩ }.takeFrames session.client.now
        generation ((read.map (Writing.frame listing)).map .ok)
      session.turn listing .read = ({ session with
        client := { session.client with signals := later, dispatcher := taken.1 }
        written := unread }, taken.2.map .effect) := by
  obtain ⟨-, -, silent⟩ | ⟨link, opened⟩ := flow.joined
  · rw [next] at silent
    cases silent
  obtain ⟨chunk, rfl⟩ := opened.data entry (by rw [next]; exact List.mem_cons_self)
  obtain ⟨read, unread, tail, written, front, stepped, left⟩ := flow.exists_read next
  have performed := read_clean opened flow.calls.running next stepped
  refine ⟨link.generation, read, unread, tail, written, front, left, ?_⟩
  rw [turn, front, written, List.drop_left, perform, performed]

theorem Flow.underway_read (flow : Flow listing paths session outputs sending)
    {read unread : List Writing} (written : session.written = read ++ unread) :
    (sending ++ session.unanswered ++ answers unread ++ answers read).Perm
      (session.client.dispatcher.pending.calls.map (requestAt paths)) := by
  refine List.Perm.trans ?_ flow.underway
  rw [written, answers_append, List.append_assoc]
  exact List.perm_append_comm.append_left _

theorem flow_read (flow : Flow listing paths session outputs sending)
    (permitted : session.Permitted listing .read) :
    Flow listing paths (session.turn listing .read).1
      (outputs ++ (session.turn listing .read).2) sending := by
  have accounted := Client.accounted_perform flow.accounted .signal
  cases next : session.client.signals with
  | nil =>
    have idle : session.turn listing .read = (session, []) := by
      simp [turn, perform, Client.perform, Client.signal, reading, next]
    rw [idle, List.append_nil]
    exact flow
  | cons entry later =>
    obtain ⟨generation, read, unread, tail, written, front, left, turned⟩ := flow.turn_read next
    have performed : session.client.perform .signal =
        ((session.turn listing .read).1.client, (session.turn listing .read).2) := rfl
    rw [performed, turned] at accounted
    rw [turned]
    rw [Permitted, front, ← List.append_nil read] at permitted
    obtain ⟨waiting, -, returned⟩ := @take_writings listing paths
      { session.client.dispatcher with decoder := ⟨tail⟩ } session.client.now generation read []
      flow.accounted.coherent.distinct permitted _ (flow.underway_read written)
    obtain ⟨held, live, -⟩ := Dispatcher.takeFrames_clean
      { session.client.dispatcher with decoder := ⟨tail⟩ } session.client.now generation
      (read.map (Writing.frame listing))
    refine ⟨accounted, ?_, ?_, flow.unconnected, flow.outward, flow.sendable, flow.whole, ?_, ?_,
      waiting, ?_⟩
    · refine flow.calls.of_same ?_ (List.Subset.refl _) fun id number present => .inl ?_
      · exact ⟨rfl, rfl, rfl, rfl⟩
      · exact (Dispatcher.mem_takeFrames.mp present).1
    · refine flow.joined.of_same rfl live ?_
      rw [next]
      exact List.subset_cons_self _ _
    · rw [← left, held]
    · intro frame present
      exact flow.readable frame (by
        rw [written, List.map_append]
        exact List.mem_append_right _ present)
    · intro number outcome given
      rw [Client.outcomes_append, Client.outcomes_effects] at given
      rcases List.mem_append.mp given with before | now
      · exact flow.returned number outcome before
      · obtain ⟨⟨id, present⟩, listed⟩ :=
          returned _ (Dispatcher.settled_of_mem_outcomes number now)
        obtain ⟨-, issued⟩ := flow.calls.pending id number present
        rw [List.getD_eq_getElem?_getD, List.getElem?_eq_getElem issued] at listed
        exact ⟨paths[number], List.getElem?_eq_getElem issued, listed⟩

theorem flow_turn (flow : Flow listing paths session outputs sending) {turn : Turn}
    (permitted : session.Permitted listing turn) :
    ∃ sending, Flow listing (paths ++ listed [turn]) (session.turn listing turn).1
      (outputs ++ (session.turn listing turn).2) sending := by
  cases turn with
  | list path => exact ⟨sending, flow_list flow permitted⟩
  | handle => simpa [listed] using flow_handle flow
  | pour amount => simpa [listed] using flow_pour flow amount
  | answer index => exact ⟨sending, by simpa [listed] using flow_answer flow permitted⟩
  | aside frame => exact ⟨sending, by simpa [listed] using flow_aside flow permitted⟩
  | deliver count => exact ⟨sending, by simpa [listed] using flow_deliver flow count⟩
  | read => exact ⟨sending, by simpa [listed] using flow_read flow permitted⟩

theorem listed_cons (turn : Turn) (turns : List Turn) :
    listed (turn :: turns) = listed [turn] ++ listed turns := by
  rw [listed, listed, listed, ← List.filterMap_append, List.singleton_append]

theorem flow_run (flow : Flow listing paths session outputs sending) {turns : List Turn}
    (permits : Permits listing session turns) :
    ∃ sending, Flow listing (paths ++ listed turns) (session.run listing turns).1
      (outputs ++ (session.run listing turns).2) sending := by
  induction turns generalizing paths session outputs sending with
  | nil =>
    refine ⟨sending, ?_⟩
    simpa [listed, run] using flow
  | cons turn turns ih =>
    obtain ⟨permitted, permits⟩ := permits
    obtain ⟨still, after⟩ := flow_turn flow permitted
    obtain ⟨last, whole⟩ := ih after permits
    refine ⟨last, ?_⟩
    rw [listed_cons, ← List.append_assoc, run, ← List.append_assoc]
    exact whole

theorem Flow.none_written (flow : Flow listing paths session outputs sending)
    (delivered : session.outbox = []) (read : session.client.signals = []) :
    session.written = [] := by
  have inward := flow.inward
  rw [delivered, read, arriving_nil, List.append_nil, List.append_nil] at inward
  have incomplete := flow.accounted.coherent.incomplete
  rw [inward] at incomplete
  exact List.map_eq_nil_iff.mp (Frame.Decoder.eq_nil_of_incomplete flow.readable incomplete)

theorem Flow.none_waits (flow : Flow listing paths session outputs sending)
    (rest : session.AtRest) : session.client.pendingCalls = [] := by
  have poured : unsent session.client = [] := by
    obtain ⟨apart, -⟩ | ⟨link, opened⟩ := flow.joined
    · rw [unsent, apart]
    · obtain ⟨hand, queue⟩ := rest.poured link opened.there
      rw [unsent_open opened, Link.Writer.unsent, hand, queue]
      rfl
  have sent : sending = [] := by
    have outward := flow.outward
    rw [poured, List.append_nil] at outward
    have whole := flow.whole
    rw [outward] at whole
    exact List.map_eq_nil_iff.mp (Frame.Decoder.eq_nil_of_incomplete flow.sendable whole)
  have underway := flow.underway
  rw [sent, rest.answered, flow.none_written rest.delivered rest.read] at underway
  have nothing := List.map_eq_nil_iff.mp underway.symm.eq_nil
  rw [Client.pendingCalls, Call.Pending.numbers, nothing]
  rfl

/-- Every call has returned the entries at its path, once, and none is pending. -/
structure Returned (listing : String → List Entry) (paths : List String) (session : Session)
    (outputs : List Client.Output) : Prop where
  none_pending : session.client.pendingCalls = []
  once : ∀ (number : Nat) path, paths[number]? = some path →
    ∃ outcome, Client.outcomes number outputs = [outcome] ∧
      Call.listing outcome = .ok (listing path)

theorem Flow.all_returned (flow : Flow listing paths session outputs sending)
    (rest : session.AtRest) : Returned listing paths session outputs := by
  have none_pending := flow.none_waits rest
  refine ⟨none_pending, fun number path there => ?_⟩
  have once := flow.accounted.once number
  have none_queued : session.client.queuedCalls = [] := by
    rw [Client.queuedCalls, rest.handled]
    rfl
  rw [if_pos (flow.calls.issued ▸ lt_of_getElem? there), Client.waiting, none_queued,
    none_pending] at once
  have single : (Client.outcomes number outputs).length = 1 := by simpa using once
  obtain ⟨outcome, only⟩ := List.length_eq_one_iff.mp single
  obtain ⟨same, here, returned⟩ := flow.returned number outcome (by
    rw [only]
    exact List.mem_singleton_self outcome)
  obtain rfl := Option.some.inj (here.symm.trans there)
  exact ⟨outcome, only, returned⟩

end EngineClient.Session
