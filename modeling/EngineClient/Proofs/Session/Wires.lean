import EngineClient.Proofs.Client.Links
import EngineClient.Proofs.Link.Writer
import EngineClient.Proofs.Session.Calls

/-!
The link of a session: it is opened for the first call and stays. What is queued on it reaches the engine,
what the engine writes reaches the dispatcher, and no byte changes places on the way.
-/

namespace EngineClient.Session

open Client (Command)

def unsent (client : Client) : Bytes :=
  match client.link with
  | none => []
  | some link => link.writer.unsent

def arriving (signals : List (Link.Generation × Link.Signal)) : Bytes :=
  signals.flatMap fun
    | (_, .data chunk) => chunk
    | _ => []

@[simp] theorem arriving_nil : arriving [] = [] := rfl

@[simp] theorem arriving_cons (generation : Link.Generation) (chunk : Bytes)
    (later : List (Link.Generation × Link.Signal)) :
    arriving ((generation, .data chunk) :: later) = chunk ++ arriving later := rfl

@[simp] theorem arriving_append (first second : List (Link.Generation × Link.Signal)) :
    arriving (first ++ second) = arriving first ++ arriving second := List.flatMap_append

/-- The link is open, and brings nothing but data. -/
structure Open (client : Client) (link : Link) : Prop where
  there : client.link = some link
  live : client.dispatcher.connection.live = some link.generation
  kept : link.dropped = false
  heard : link.listening = true
  unlimited : link.writer.Unlimited
  data : ∀ entry ∈ client.signals, ∃ chunk, entry = (link.generation, .data chunk)

/-- There is no link yet, or it is open. -/
def Joined (client : Client) : Prop :=
  (client.link = none ∧ client.dispatcher.connection.live = none ∧ client.signals = []) ∨
    ∃ link, Open client link

variable {client : Client} {link : Link}

theorem Joined.of_same {other : Client} (joined : Joined client) (link : other.link = client.link)
    (live : other.dispatcher.connection.live = client.dispatcher.connection.live)
    (signals : other.signals ⊆ client.signals) : Joined other := by
  obtain ⟨apart, down, silent⟩ | ⟨there, opened⟩ := joined
  · rw [silent] at signals
    exact .inl ⟨link.trans apart, live.trans down, List.subset_nil.mp signals⟩
  · exact .inr ⟨there, link.trans opened.there, live.trans opened.live, opened.kept,
      opened.heard, opened.unlimited, fun entry present => opened.data entry (signals present)⟩

theorem unsent_open (opened : Open client link) : unsent client = link.writer.unsent := by
  rw [unsent, opened.there]

theorem open_write (opened : Open client link) (chunk : Bytes) :
    link.write chunk =
      .ok { link with writer := { link.writer with queue := link.writer.queue ++ [chunk] } } := by
  rw [Link.write, opened.kept, if_neg Bool.false_ne_true,
    Link.Writer.write_unlimited opened.unlimited]
  rfl

section Handle

variable {number : Call.Number} {request : Request} {rest : List Command}
  (running : client.running = true)
  (next : client.commands = .call number request :: rest)
  (free : client.dispatcher.pending.contains (request.id.getD "") = false)
include running next free

theorem handle_first (down : client.dispatcher.connection.live = none) :
    client.perform (.command (.ok .silent)) = ({ client with
      commands := rest
      dispatcher := { client.dispatcher with
        connection := client.dispatcher.connection.opened
        pending := client.dispatcher.pending.adding (request.id.getD "") number }
      link := some { Link.start .silent client.kind (client.dispatcher.connection.generation + 1) with
        writer := { Link.Writer.start none none "" with queue := [request.frame.encode] } } },
      [.effect (.attempted (client.dispatcher.connection.generation + 1) true),
        .effect (.queued (client.dispatcher.connection.generation + 1) number
          request.frame.encode)]) := by
  have called (writable : Bool) : client.dispatcher.handle client.now
      (.call number request (.ok ()) writable) = _ := Dispatcher.call_opened free down
  rw [Client.perform, Client.command_some _ next, Client.handle]
  simp only [Command.stimulus, Except.map, called, List.foldl_cons, List.foldl_nil, Client.apply,
    Option.map_some, Link.write, Link.start, Bool.false_eq_true, if_false,
    Link.Writer.write_unlimited (Link.Writer.unlimited_start ""), Link.Peer.silent, running,
    if_true]
  rfl

theorem handle_later (opened : Open client link) :
    client.perform (.command (.ok .silent)) = ({ client with
      commands := rest
      dispatcher := { client.dispatcher with
        pending := client.dispatcher.pending.adding (request.id.getD "") number }
      link := some { link with
        writer := { link.writer with queue := link.writer.queue ++ [request.frame.encode] } } },
      [.effect (.queued link.generation number request.frame.encode)]) := by
  have writable : (some link).any (!·.isClosed) = true := by
    simp [Link.isClosed, opened.kept, Link.Writer.isClosed, opened.unlimited.running,
      opened.unlimited.accepting]
  have called : client.dispatcher.handle client.now (.call number request (.ok ()) true) = _ :=
    Dispatcher.call_queued free opened.live
  rw [Client.perform, Client.command_some _ next, Client.handle]
  simp only [Command.stimulus, Except.map, writable, called, List.foldl_cons, List.foldl_nil,
    Client.apply, opened.there, Option.map_some, open_write opened, running, if_true]
  rfl

end Handle

theorem exists_handled (joined : Joined client) (running : client.running = true)
    {number : Call.Number} {request : Request} {rest : List Command}
    (next : client.commands = .call number request :: rest)
    (free : client.dispatcher.pending.contains (request.id.getD "") = false) :
    ∃ connection link effects,
      client.perform (.command (.ok .silent)) = ({ client with
        commands := rest
        dispatcher := { client.dispatcher with
          connection
          pending := client.dispatcher.pending.adding (request.id.getD "") number }
        link := some link }, effects) ∧
      Open (client.perform (.command (.ok .silent))).1 link ∧
      link.writer.unsent = unsent client ++ request.frame.encode ∧
      ∀ call, Client.outcomes call effects = [] := by
  obtain ⟨apart, down, silent⟩ | ⟨link, opened⟩ := joined
  · refine ⟨_, _, _, handle_first running next free down, ?_, ?_, fun call => rfl⟩
    · rw [handle_first running next free down]
      exact ⟨rfl, rfl, rfl, rfl, ⟨rfl, rfl, rfl, rfl⟩, by simp [silent]⟩
    · simp [unsent, apart, Link.Writer.unsent, Link.Writer.start]
  · refine ⟨_, _, _, handle_later running next free opened, ?_, ?_, fun call => rfl⟩
    · rw [handle_later running next free opened]
      exact ⟨rfl, opened.live, opened.kept, opened.heard, opened.unlimited.write _, opened.data⟩
    · simp [unsent_open opened, Link.Writer.unsent]

theorem pour_step (opened : Open client link) {amount : Nat} {signal : Option Link.Signal}
    {writer : Link.Writer} (stepped : link.writer.step? amount = some (signal, writer)) :
    ∃ bytes, client.perform (.pour amount) =
        ({ client with link := some { link with writer } }, [.poured link.generation bytes]) ∧
      link.writer.unsent = bytes ++ writer.unsent := by
  obtain ⟨silent, -⟩ := Link.Writer.unlimited_step opened.unlimited stepped
  obtain ⟨bytes, taken, moved⟩ := Link.Writer.step_conserves stepped
  refine ⟨bytes, ?_, moved⟩
  simp [Client.perform, Client.pour, opened.there, Link.pour?, opened.kept, stepped,
    opened.heard, silent, taken, Client.report]

theorem pour_open (opened : Open client link) (amount : Nat) :
    ∃ writer outputs,
      client.perform (.pour amount) = ({ client with link := some { link with writer } }, outputs) ∧
      writer.Unlimited ∧ link.writer.unsent = poured outputs ++ writer.unsent ∧
      ∀ call, Client.outcomes call outputs = [] := by
  cases stepped : link.writer.step? amount with
  | none =>
    have idle : client.perform (.pour amount) = (client, []) := by
      simp [Client.perform, Client.pour, opened.there, Link.pour?, opened.kept, stepped]
    have same : client = { client with link := some link } := by
      rw [← opened.there]
    exact ⟨link.writer, [], idle.trans (congrArg (·, []) same), opened.unlimited, rfl,
      fun call => rfl⟩
  | some step =>
    obtain ⟨signal, writer⟩ := step
    obtain ⟨bytes, performed, moved⟩ := pour_step opened stepped
    refine ⟨writer, _, performed, (Link.Writer.unlimited_step opened.unlimited stepped).2, ?_,
      fun call => rfl⟩
    simpa [poured] using moved

theorem exists_poured (joined : Joined client) (amount : Nat) :
    ∃ after outputs, client.perform (.pour amount) = ({ client with link := after }, outputs) ∧
      Joined { client with link := after } ∧ (after = none → client.link = none) ∧
      unsent client = poured outputs ++ unsent { client with link := after } ∧
      ∀ call, Client.outcomes call outputs = [] := by
  obtain ⟨apart, down, silent⟩ | ⟨link, opened⟩ := joined
  · have idle : client.perform (.pour amount) = (client, []) := by
      simp [Client.perform, Client.pour, apart]
    have same : client = { client with link := none } := by
      rw [← apart]
    refine ⟨none, [], idle.trans (congrArg (·, []) same), .inl ⟨rfl, down, silent⟩,
      fun _ => apart, ?_, fun call => rfl⟩
    rw [unsent, apart]
    rfl
  · obtain ⟨writer, outputs, performed, unlimited, moved, silent⟩ := pour_open opened amount
    refine ⟨some { link with writer }, outputs, performed, ?_, fun gone => (by cases gone), ?_,
      silent⟩
    · exact .inr ⟨_, rfl, opened.live, opened.kept, opened.heard, unlimited, opened.data⟩
    · rw [unsent_open opened, moved]
      rfl

theorem read_clean (opened : Open client link) (running : client.running = true)
    {chunk tail : Bytes} {later : List (Link.Generation × Link.Signal)} {frames : List Frame}
    (next : client.signals = (link.generation, .data chunk) :: later)
    (stepped : client.dispatcher.decoder.step chunk = (frames.map .ok, ⟨tail⟩)) :
    let taken := { client.dispatcher with decoder := ⟨tail⟩ }.takeFrames client.now
      link.generation (frames.map .ok)
    client.perform .signal =
      ({ client with signals := later, dispatcher := taken.1 }, taken.2.map .effect) := by
  intro taken
  have signalled : client.dispatcher.handle client.now
      (.signal link.generation (.data chunk)) = taken := by
    rw [Dispatcher.handle, Dispatcher.signal_data opened.live, stepped]
  have going : .stopped ∉ taken.2 := by
    intro stopped
    rcases Dispatcher.mem_takeFrames_shown stopped with ⟨settlement, impossible⟩ |
      ⟨message, impossible⟩
    · cases impossible
    · cases impossible
  have reacted : Client.reaction { client with signals := later }
      (.signal link.generation (.data chunk)) = taken := signalled
  have going_on : Client.handle { client with signals := later } (.error .closed)
      (.signal link.generation (.data chunk)) = _ :=
    Client.handle_going _ _ running (by rwa [reacted])
  rw [reacted, Client.linkAfter_untouched _ Dispatcher.takeFrames_untouched] at going_on
  rw [Client.perform, Client.signal, next]
  dsimp only
  rw [if_pos running, going_on]

end EngineClient.Session
