import EngineClient.Proofs.Call.Identifier
import EngineClient.Proofs.Session.Turns

/-!
The calls of a client that only lists directories: each carries its own id, and waits in one place.
-/

namespace EngineClient.Session

open Client (Accounted Command)

/-- The id of a call, when all calls leave it to the client. -/
def callId (client : Client) (number : Nat) : String :=
  Call.generatedId client.idPrefix (UInt64.ofNat number)

def request (id path : String) : Request := (Request.directoryOpen path).withId id

/-- The calls of a client, given the directories that were listed so far. -/
structure Calls (client : Client) (paths : List String) : Prop where
  running : client.running = true
  issued : client.issued = paths.length
  counter : client.counter = UInt64.ofNat paths.length
  queued : ∀ command ∈ client.commands, ∃ number path, paths[number]? = some path ∧
    (request (callId client number) path).frame.Fits ∧
    command = .call number (request (callId client number) path)
  pending : ∀ id (number : Nat), (id, number) ∈ client.dispatcher.pending.calls →
    id = callId client number ∧ number < paths.length
  recent : ∀ number : Nat, number ∈ client.queuedCalls ∨ number ∈ client.pendingCalls →
    paths.length ≤ number + 0x10000000000000000

variable {client : Client} {paths : List String} {outputs : List Client.Output}

theorem calls_new (idPrefix : String) (kind : Link.Kind) (policy : Restart.Policy) (now : Nat) :
    Calls (Client.new idPrefix kind policy now) [] where
  running := rfl
  issued := rfl
  counter := rfl
  queued := by simp [Client.new]
  pending := by simp [Client.new, Dispatcher.new, Call.Pending.empty]
  recent := by simp

theorem callId_inj {first second : Nat} (near : first < second + 0x10000000000000000)
    (close : second < first + 0x10000000000000000)
    (same : callId client first = callId client second) : first = second := by
  have counters : UInt64.ofNat first = UInt64.ofNat second :=
    Call.generatedId_injective client.idPrefix same
  have remainders : first % 0x10000000000000000 = second % 0x10000000000000000 := by
    have values := congrArg UInt64.toNat counters
    simpa only [UInt64.toNat_ofNat'] using values
  omega

theorem lt_of_getElem? {number : Nat} {path : String} (there : paths[number]? = some path) :
    number < paths.length :=
  (List.getElem?_eq_some_iff.mp there).1

theorem mem_pendingCalls {id : String} {number : Nat}
    (present : (id, number) ∈ client.dispatcher.pending.calls) : number ∈ client.pendingCalls :=
  List.mem_map.mpr ⟨(id, number), present, rfl⟩

theorem Calls.free (calls : Calls client paths) (accounted : Accounted client outputs)
    {number : Nat} {path : String} {rest : List Command}
    (next : client.commands = .call number (request (callId client number) path) :: rest) :
    client.dispatcher.pending.contains (callId client number) = false := by
  have queued : number ∈ client.queuedCalls := by
    simp [Client.queuedCalls, next, Command.call?]
  have issued : number < paths.length := by
    rw [← calls.issued]
    exact accounted.issued_of_waiting (.inl queued)
  refine Call.Pending.free_iff.mpr fun (other : Nat) present => ?_
  obtain ⟨same, earlier⟩ := calls.pending _ other present
  have waits := mem_pendingCalls present
  have first := calls.recent number (.inl queued)
  have second := calls.recent other (.inr waits)
  obtain rfl : number = other := callId_inj (by omega) (by omega) same
  have once := accounted.at_most_once number
  have twice : 1 ≤ client.queuedCalls.count number ∧ 1 ≤ client.pendingCalls.count number :=
    ⟨List.count_pos_iff.mpr queued, List.count_pos_iff.mpr waits⟩
  simp only [Client.waiting] at once
  omega

theorem identify_list (calls : Calls client paths) (path : String) :
    client.identify (.directoryOpen path) =
      (request (callId client paths.length) path, { client with counter := client.counter + 1 }) := by
  rw [callId, ← calls.counter]
  rfl

theorem send_list (calls : Calls client paths) (path : String) :
    client.send (.directoryOpen path) =
      ({ client with
          counter := client.counter + 1
          issued := client.issued + 1
          commands := client.commands ++
            [.call client.issued (request (callId client paths.length) path)] }, []) := by
  have identified := identify_list calls path
  have second : (client.identify (.directoryOpen path)).2 =
      { client with counter := client.counter + 1 } := by
    rw [identified]
  rw [Client.send_going calls.running second, identified]

theorem calls_list (calls : Calls client paths) {path : String}
    (fits : (request (callId client paths.length) path).frame.Fits)
    (fresh : ∀ number ∈ client.queuedCalls ++ client.pendingCalls,
      paths.length < (number : Nat) + 0x10000000000000000) :
    Calls (client.send (.directoryOpen path)).1 (paths ++ [path]) := by
  rw [send_list calls]
  refine ⟨calls.running, ?_, ?_, ?_, ?_, ?_⟩
  · rw [List.length_append, List.length_singleton, calls.issued]
  · rw [List.length_append, List.length_singleton, calls.counter]
    simp [UInt64.ofNat_add]
  · intro command present
    rcases List.mem_append.mp present with before | last
    · obtain ⟨number, old, there, fitting, rfl⟩ := calls.queued command before
      exact ⟨number, old, by rw [List.getElem?_append_left (lt_of_getElem? there), there],
        fitting, rfl⟩
    · rw [List.mem_singleton.mp last, calls.issued]
      exact ⟨paths.length, path, by simp, fits, rfl⟩
  · intro id number present
    obtain ⟨same, earlier⟩ := calls.pending id number present
    exact ⟨same, by rw [List.length_append]; omega⟩
  · intro number waits
    rw [List.length_append, List.length_singleton]
    simp only [Client.queuedCalls, List.filterMap_append, List.mem_append] at waits
    obtain (queued | last) | pending := waits
    · have later := fresh number (List.mem_append_left _ queued)
      omega
    · obtain rfl : number = paths.length := by
        simpa [Command.call?, calls.issued] using last
      omega
    · have later := fresh number (List.mem_append_right _ pending)
      omega

theorem Calls.lt_of_queued (calls : Calls client paths) {number : Nat}
    (queued : number ∈ client.queuedCalls) : number < paths.length := by
  obtain ⟨command, present, called⟩ := List.mem_filterMap.mp queued
  obtain ⟨same, path, there, -, rfl⟩ := calls.queued command present
  cases called
  exact lt_of_getElem? there

theorem Calls.of_same {after : Client} (calls : Calls client paths)
    (kept : after.idPrefix = client.idPrefix ∧ after.running = client.running ∧
      after.issued = client.issued ∧ after.counter = client.counter)
    (commands : after.commands ⊆ client.commands)
    (pending : ∀ id number, (id, number) ∈ after.dispatcher.pending.calls →
      (id, number) ∈ client.dispatcher.pending.calls ∨
      id = callId client number ∧ number ∈ client.queuedCalls) :
    Calls after paths := by
  obtain ⟨name, running, issued, counter⟩ := kept
  have ids (number : Nat) : callId after number = callId client number := by
    rw [callId, callId, name]
  refine ⟨running.trans calls.running, issued.trans calls.issued, counter.trans calls.counter,
    ?_, ?_, ?_⟩
  · intro command present
    obtain ⟨number, path, there, fits, same⟩ := calls.queued command (commands present)
    exact ⟨number, path, there, by rwa [ids], by rwa [ids]⟩
  · intro id number present
    rw [ids]
    rcases pending id number present with waits | ⟨same, queued⟩
    · exact calls.pending id number waits
    · exact ⟨same, calls.lt_of_queued queued⟩
  · intro number waits
    apply calls.recent number
    obtain queued | answered := waits
    · obtain ⟨command, present, called⟩ := List.mem_filterMap.mp queued
      exact .inl (List.mem_filterMap.mpr ⟨command, commands present, called⟩)
    · obtain ⟨⟨id, other⟩, present, rfl⟩ := List.mem_map.mp answered
      rcases pending id other present with before | ⟨-, queued⟩
      · exact .inr (mem_pendingCalls before)
      · exact .inl queued

end EngineClient.Session
