import EngineClient.Proofs.Client.Settlement
import EngineClient.Proofs.Dispatcher.Links
import EngineClient.Proofs.Link.Tasks

/-!
The link of a client is the one that its dispatcher takes to be live: it is there exactly while a
generation is live, and was opened for that generation.
-/

namespace EngineClient.Client

variable {client : Client} {effects : List Dispatcher.Effect}

/-- The link is there exactly while it is live. -/
def Linked (client : Client) : Prop :=
  client.link.map Link.generation = client.dispatcher.connection.live

theorem Linked.live (linked : Linked client) {link : Link} (there : client.link = some link) :
    client.dispatcher.connection.live = some link.generation := by
  rw [← linked, there]
  rfl

theorem apply_untouched (attempt : Link.Attempt) {effect : Dispatcher.Effect}
    (untouched : effect.touches = false) : (apply attempt client effect).link = client.link := by
  cases effect with
  | attempted generation opened =>
    obtain rfl : opened = false := untouched
    rfl
  | queued generation call chunk => cases untouched
  | dropped generation => cases untouched
  | settled settlement => rfl
  | delivered message => rfl
  | decided decision => rfl
  | stopped => rfl
  | reported stats => rfl

theorem linkAfter_untouched (attempt : Link.Attempt)
    (untouched : ∀ effect ∈ effects, effect.touches = false) :
    linkAfter attempt client effects = client.link := by
  induction effects generalizing client with
  | nil => rfl
  | cons effect rest ih =>
    have later : linkAfter attempt (apply attempt client effect) rest = _ :=
      ih fun other present => untouched other (List.mem_cons_of_mem effect present)
    exact later.trans (apply_untouched attempt (untouched effect List.mem_cons_self))

theorem linkAfter_dropped (attempt : Link.Attempt) {generation : Link.Generation}
    (drops : client.link = none ∨ .dropped generation ∈ effects)
    (only : ∀ effect ∈ effects, effect.touches = true → effect = .dropped generation) :
    linkAfter attempt client effects = none := by
  induction effects generalizing client with
  | nil =>
    obtain gone | impossible := drops
    · exact gone
    · cases impossible
  | cons effect rest ih =>
    have later : linkAfter attempt (apply attempt client effect) rest = none := by
      refine ih ?_ fun other present => only other (List.mem_cons_of_mem effect present)
      cases touches : effect.touches with
      | true =>
        rw [only effect List.mem_cons_self touches]
        exact .inl rfl
      | false =>
        rw [apply_untouched attempt touches]
        obtain gone | present := drops
        · exact .inl gone
        · rcases List.mem_cons.mp present with rfl | behind
          · cases touches
          · exact .inr behind
    exact later

theorem link_handle (attempt : Link.Attempt) (stimulus : Dispatcher.Stimulus) :
    (client.handle attempt stimulus).1.link = linkAfter attempt
      { client with dispatcher := (client.reaction stimulus).1 } (client.reaction stimulus).2 := by
  simp only [handle, foldl_apply, reaction]
  split <;> rfl

theorem linkAfter_queued (client : Client) (attempt : Link.Attempt) (generation : Link.Generation)
    (call : Call.Number) (chunk : Bytes) :
    (linkAfter attempt client [.queued generation call chunk]).map Link.generation =
      client.link.map Link.generation := by
  cases there : client.link with
  | none => simp [linkAfter, apply, there]
  | some link =>
    cases written : link.write chunk with
    | error fault => simp [linkAfter, apply, there, written]
    | ok after => simp [linkAfter, apply, there, written, Link.generation_write written]

theorem linkAfter_opened (client : Client) {attempt : Link.Attempt} {peer : Link.Peer}
    (opens : attempt = .ok peer) (generation : Link.Generation) :
    (linkAfter attempt client [.attempted generation true]).map Link.generation =
      some generation := by
  rw [opens]
  rfl

@[simp] theorem taking_link (move : Move) : (client.taking move).link = client.link := by
  cases move <;> rfl

theorem attempt_ok {move : Move} {stimulus : Dispatcher.Stimulus}
    (handled : client.stimulus? move = some stimulus)
    (opens : (∃ number request writable, stimulus = .call number request (.ok ()) writable) ∨
      stimulus = .timer (.ok ())) :
    ∃ peer, move.attempt = .ok peer := by
  have good (attempt : Link.Attempt) (same : (attempt.map fun _ => ()) = .ok ()) :
      ∃ peer, attempt = .ok peer := by
    cases attempt with
    | ok peer => exact ⟨peer, rfl⟩
    | error error => cases same
  rcases handled_cases handled with ⟨attempt, command, rest, rfl, -, rfl⟩ |
    ⟨-, generation, signal, rest, rfl, -, rfl⟩ | ⟨-, attempt, rfl, rfl⟩
  · rcases opens with ⟨number, request, writable, same⟩ | same
    · cases command with
      | call other asked =>
        obtain ⟨-, -, agrees, -⟩ := Dispatcher.Stimulus.call.inj same
        exact good attempt agrees
      | stats => cases same
      | shutdown => cases same
    · cases command <;> cases same
  · rcases opens with ⟨number, request, writable, same⟩ | same
    · cases same
    · cases same
  · rcases opens with ⟨number, request, writable, same⟩ | same
    · cases same
    · exact good attempt (Dispatcher.Stimulus.timer.inj same)

theorem linked_handled (coherent : client.dispatcher.Coherent) (linked : Linked client)
    {move : Move} {stimulus : Dispatcher.Stimulus}
    (handled : client.stimulus? move = some stimulus) : Linked (client.perform move).1 := by
  have change : Dispatcher.LinkChange client.dispatcher
      (client.dispatcher.handle client.now stimulus).1 stimulus
      (client.dispatcher.handle client.now stimulus).2 :=
    Dispatcher.linkChange_handle coherent stimulus
  have opens := attempt_ok handled
  rw [Linked, perform_handled handled, link_handle, dispatcher_handle]
  simp only [reaction, taking_dispatcher, taking_now]
  rw [Linked, ← taking_link move] at linked
  revert change
  generalize client.dispatcher.handle client.now stimulus = result
  obtain ⟨after, effects⟩ := result
  intro change
  cases change with
  | left same untouched =>
    rw [linkAfter_untouched _ untouched]
    exact linked.trans same.symm
  | queued live same =>
    rw [linkAfter_queued]
    exact linked.trans (live.trans same.symm)
  | opened down live =>
    obtain ⟨peer, opened⟩ := opens (.inl ⟨_, _, _, rfl⟩)
    exact (linkAfter_queued _ _ _ _ _).trans ((linkAfter_opened _ opened _).trans live.symm)
  | restarted down live =>
    obtain ⟨peer, opened⟩ := opens (.inr rfl)
    exact (linkAfter_opened _ opened _).trans live.symm
  | dropped live down drops only =>
    rw [linkAfter_dropped _ (.inr drops) only, down]
    rfl

theorem linked_quiet (linked : Linked client) {move : Move} {after : Client} {shown : List Output}
    (quiet : Quiet client move after shown) : Linked after := by
  rw [Linked, quiet.dispatcher]
  refine Eq.trans ?_ linked
  cases quiet with
  | read there stepped => simp [report, there, Link.generation_read stepped]
  | poured there stepped => simp [report, there, Link.generation_pour stepped]
  | arrived arrival =>
    cases there : client.link with
    | none => rfl
    | some link => rfl
  | _ => rfl

theorem linked_perform (coherent : client.dispatcher.Coherent) (linked : Linked client)
    (move : Move) : Linked (client.perform move).1 := by
  cases handled : client.stimulus? move with
  | some stimulus => exact linked_handled coherent linked handled
  | none => exact linked_quiet linked (quiet_perform handled)

theorem linked_after (accounted : ∃ outputs, Accounted client outputs) (linked : Linked client)
    (moves : List Move) : Linked (client.after moves) := by
  induction moves generalizing client with
  | nil => exact linked
  | cons move moves ih =>
    obtain ⟨outputs, accounted⟩ := accounted
    rw [after_cons]
    exact ih ⟨_, accounted_perform accounted move⟩
      (linked_perform accounted.coherent linked move)

end EngineClient.Client
