import EngineClient.Proofs.Call.Identifier
import EngineClient.Proofs.Client.Provenance

/-!
Generated ids. Those of a run follow the counter, so that no two are equal before it comes round; and a
call that was sent without an id never meets its id among the pending ones, unless a caller has pinned it.
-/

namespace EngineClient.Client

def Move.sent : Move → List Request
  | .send request => [request]
  | _ => []

/-- The requests of a run as their callers give them, so that each stands at the number of its call. -/
def sent (moves : List Move) : List Request := moves.flatMap Move.sent

def unnamed (requests : List Request) : Nat := requests.countP (·.id.isNone)

/-- The ids that a run generates, in order: those of the requests that are given without one. -/
def generated (client : Client) (moves : List Move) : List String :=
  ((sent moves).zip (client.requests moves)).filterMap fun call =>
    if call.1.id.isNone then call.2.id else none

def numbered (idPrefix : String) (counter : UInt64) (request : Request) : Request :=
  match request.id with
  | some _ => request
  | none => request.withId (Call.generatedId idPrefix counter)

def assign (idPrefix : String) (counter : UInt64) : List Request → List Request
  | [] => []
  | request :: requests =>
    numbered idPrefix counter request ::
      assign idPrefix (if request.id.isNone then counter + 1 else counter) requests

variable {idPrefix : String} {counter : UInt64} {requests : List Request} {request : Request}

theorem sent_append (first second : List Move) : sent (first ++ second) = sent first ++ sent second :=
  List.flatMap_append

theorem unnamed_cons (request : Request) (requests : List Request) :
    unnamed (request :: requests) = unnamed requests + if request.id.isNone then 1 else 0 :=
  List.countP_cons

theorem counter_add_unnamed (counter : UInt64) (request : Request) (requests : List Request) :
    (if request.id.isNone then counter + 1 else counter) + UInt64.ofNat (unnamed requests) =
      counter + UInt64.ofNat (unnamed (request :: requests)) := by
  rw [unnamed_cons]
  cases request.id with
  | none =>
    calc counter + 1 + UInt64.ofNat (unnamed requests)
        = counter + (1 + UInt64.ofNat (unnamed requests)) := UInt64.add_assoc _ _ _
      _ = counter + UInt64.ofNat (unnamed requests + 1) := by
        rw [UInt64.ofNat_add, UInt64.add_comm 1]
        rfl
  | some id => rfl

theorem assign_getElem? (number : Nat) : (assign idPrefix counter requests)[number]? =
    requests[number]?.map
      (numbered idPrefix (counter + UInt64.ofNat (unnamed (requests.take number)))) := by
  induction requests generalizing counter number with
  | nil => rfl
  | cons request requests ih =>
    cases number with
    | zero =>
      have still : counter + UInt64.ofNat (unnamed []) = counter := UInt64.add_zero counter
      rw [List.take_zero, still]
      rfl
    | succ number =>
      rw [assign, List.getElem?_cons_succ, ih, counter_add_unnamed, List.getElem?_cons_succ,
        List.take_succ_cons]

theorem generated_assign : ((requests.zip (assign idPrefix counter requests)).filterMap fun call =>
      if call.1.id.isNone then call.2.id else none) =
    (List.range (unnamed requests)).map fun count =>
      Call.generatedId idPrefix (counter + UInt64.ofNat count) := by
  induction requests generalizing counter with
  | nil => rfl
  | cons request requests ih =>
    rw [assign, List.zip_cons_cons, List.filterMap_cons, ih, unnamed_cons]
    cases named : request.id with
    | some id => rfl
    | none =>
      have shifted : ((fun count => Call.generatedId idPrefix (counter + UInt64.ofNat count)) ∘
          Nat.succ) = fun count => Call.generatedId idPrefix (counter + 1 + UInt64.ofNat count) := by
        funext count
        have next : counter + UInt64.ofNat (count + 1) = counter + 1 + UInt64.ofNat count := by
          rw [UInt64.ofNat_add, UInt64.add_comm (UInt64.ofNat count), ← UInt64.add_assoc]
          rfl
        exact congrArg (Call.generatedId idPrefix) next
      have still : counter + UInt64.ofNat 0 = counter := UInt64.add_zero counter
      simp only [Option.isNone_none, if_true]
      rw [List.range_succ_eq_map, List.map_cons, List.map_map, shifted, still]
      simp [numbered, named, Request.withId]

theorem offset_injective {first second : Nat} (first_small : first < 0x10000000000000000)
    (second_small : second < 0x10000000000000000)
    (same : Call.generatedId idPrefix (counter + UInt64.ofNat first) =
      Call.generatedId idPrefix (counter + UInt64.ofNat second)) : first = second := by
  have offsets := (UInt64.add_right_inj counter).mp (Call.generatedId_injective idPrefix same)
  have numbers := congrArg UInt64.toNat offsets
  rwa [UInt64.toNat_ofNat_of_lt' first_small, UInt64.toNat_ofNat_of_lt' second_small] at numbers

theorem unnamed_take_lt {first second : Nat} (there : requests[first]? = some request)
    (free : request.id = none) (earlier : first < second) :
    unnamed (requests.take first) < unnamed (requests.take second) := by
  have upTo : unnamed (requests.take (first + 1)) = unnamed (requests.take first) + 1 := by
    rw [List.take_add_one, there]
    simp [unnamed, free]
  have more : unnamed (requests.take (first + 1)) ≤ unnamed (requests.take second) :=
    (List.take_sublist_take_left earlier).countP_le
  omega

theorem unnamed_take_small (few : unnamed requests ≤ 0x10000000000000000) {number : Nat}
    (there : requests[number]? = some request) (free : request.id = none) :
    unnamed (requests.take number) < 0x10000000000000000 := by
  obtain ⟨within, -⟩ := List.getElem?_eq_some_iff.mp there
  have fewer := unnamed_take_lt there free within
  rw [List.take_length] at fewer
  omega

theorem id_ne_of_unnamed (few : unnamed requests ≤ 0x10000000000000000)
    (apart : ∀ request ∈ requests, ∀ counter, request.id ≠ some (Call.generatedId idPrefix counter))
    {number other : Nat} (different : other ≠ number) (there : requests[number]? = some request)
    (free : request.id = none) {issued held : Request}
    (at_number : (assign idPrefix counter requests)[number]? = some issued)
    (at_other : (assign idPrefix counter requests)[other]? = some held) : issued.id ≠ held.id := by
  rw [assign_getElem?] at at_number at_other
  obtain ⟨given, there_other, rfl⟩ := Option.map_eq_some_iff.mp at_other
  rw [there] at at_number
  cases at_number
  have taken : (numbered idPrefix (counter + UInt64.ofNat (unnamed (requests.take number)))
      request).id = some (Call.generatedId idPrefix
        (counter + UInt64.ofNat (unnamed (requests.take number)))) := by
    rw [numbered, free]
    rfl
  rw [taken]
  intro same
  cases pinned : given.id with
  | some id =>
    rw [numbered, pinned] at same
    exact apart given (List.mem_of_getElem? there_other) _ same.symm
  | none =>
    rw [numbered, pinned] at same
    have equal := offset_injective (unnamed_take_small few there free)
      (unnamed_take_small few there_other pinned) (Option.some.inj same)
    rcases Nat.lt_or_gt_of_ne different with earlier | later
    · exact absurd equal (unnamed_take_lt there_other pinned earlier).ne'
    · exact absurd equal (unnamed_take_lt there free later).ne

theorem identify_eq (client : Client) (request : Request) : client.identify request =
    (numbered client.idPrefix client.counter request,
      { client with counter := if request.id.isNone then client.counter + 1 else client.counter }) := by
  rw [identify, numbered]
  cases request.id <;> rfl

theorem perform_send (client : Client) (request : Request) :
    (client.perform (.send request)).1.idPrefix = client.idPrefix ∧
      (client.perform (.send request)).1.counter =
        if request.id.isNone then client.counter + 1 else client.counter := by
  have identified := congrArg Prod.snd (identify_eq client request)
  cases running : client.running with
  | true =>
    rw [perform, send_going running identified]
    exact ⟨rfl, rfl⟩
  | false =>
    rw [perform, send_stopped running identified]
    exact ⟨rfl, rfl⟩

theorem Quiet.keeps_counter {client after : Client} {move : Move} {outputs : List Output}
    (quiet : Quiet client move after outputs) (other : move.sent = []) :
    after.idPrefix = client.idPrefix ∧ after.counter = client.counter ∧
      client.issuing move = [] := by
  cases quiet with
  | sent request counter running => cases other
  | refused request counter stopped => cases other
  | nothing unissued => exact ⟨rfl, rfl, unissued⟩
  | asked unissued command running => exact ⟨rfl, rfl, unissued⟩
  | _ => exact ⟨rfl, rfl, rfl⟩

theorem perform_other (client : Client) {move : Move} (other : move.sent = []) :
    (client.perform move).1.idPrefix = client.idPrefix ∧
      (client.perform move).1.counter = client.counter ∧ client.issuing move = [] := by
  cases handled : client.stimulus? move with
  | some stimulus =>
    have kept : (client.taking move).idPrefix = client.idPrefix ∧
        (client.taking move).counter = client.counter := by
      cases move <;> exact ⟨rfl, rfl⟩
    rw [perform_handled handled]
    simp only [handle, foldl_apply]
    refine ⟨?_, ?_, issuing_handled handled⟩
    · split <;> exact kept.1
    · split <;> exact kept.2
  | none => exact (quiet_perform handled).keeps_counter other

theorem idPrefix_perform (client : Client) (move : Move) :
    (client.perform move).1.idPrefix = client.idPrefix := by
  by_cases other : move.sent = []
  · exact (perform_other client other).1
  · cases move with
    | send request => exact (perform_send client request).1
    | _ => exact absurd rfl other

theorem requests_eq_assign (client : Client) (moves : List Move) :
    client.requests moves = assign client.idPrefix client.counter (sent moves) := by
  induction moves generalizing client with
  | nil => rfl
  | cons move moves ih =>
    rw [requests, ih]
    by_cases other : move.sent = []
    · obtain ⟨idPrefix, counter, unissued⟩ := perform_other client other
      have same : sent (move :: moves) = sent moves := by
        rw [sent, List.flatMap_cons, other]
        rfl
      rw [idPrefix, counter, unissued, same]
      rfl
    · cases move with
      | send request =>
        obtain ⟨idPrefix, counter⟩ := perform_send client request
        rw [idPrefix, counter, issuing, identify_eq]
        rfl
      | _ => exact absurd rfl other

theorem generated_eq (client : Client) (moves : List Move) :
    client.generated moves = (List.range (unnamed (sent moves))).map fun count =>
      Call.generatedId client.idPrefix (client.counter + UInt64.ofNat count) := by
  rw [generated, requests_eq_assign]
  exact generated_assign

theorem length_generated (client : Client) (moves : List Move) :
    (client.generated moves).length = unnamed (sent moves) := by
  rw [generated_eq, List.length_map, List.length_range]

theorem nodup_generated {client : Client} {moves : List Move}
    (few : (client.generated moves).length ≤ 0x10000000000000000) :
    (client.generated moves).Nodup := by
  rw [length_generated] at few
  rw [generated_eq]
  apply List.Nodup.map_on _ List.nodup_range
  intro first first_in second second_in same
  have first_small := List.mem_range.mp first_in
  have second_small := List.mem_range.mp second_in
  exact offset_injective (by omega) (by omega) same

theorem not_duplicate {idPrefix : String} {kind : Link.Kind} {policy : Restart.Policy} {start : Nat}
    {moves : List Move} {number : Call.Number} {request : Request}
    (few : ((new idPrefix kind policy start).generated moves).length ≤ 0x10000000000000000)
    (apart : ∀ request ∈ sent moves, ∀ counter,
      request.id ≠ some (Call.generatedId idPrefix counter))
    (there : (sent moves)[number]? = some request) (free : request.id = none) (id : String) :
    .error (.duplicateId id) ∉ outcomes number ((new idPrefix kind policy start).shown moves) := by
  intro given
  obtain ⟨before, move, later, rfl, shows⟩ := exists_move_of_shown (shows_of_outcome given)
  have carried := carried_run idPrefix kind policy start before
  have halts := running_eq_false_iff idPrefix kind policy start before
  -- The refusal needs another call that is pending under the same id.
  obtain ⟨⟨attempt, writable, issued, at_number, named, -⟩, other, different, pending⟩ :=
    provenance_of_shows carried halts.mp shows
  obtain ⟨-, held, -, at_other, holds, -⟩ := carried.sent id other pending
  rw [requests_eq_assign] at at_number at_other
  rw [length_generated, sent_append] at few
  have fewer : unnamed (sent before) ≤ 0x10000000000000000 := by
    rw [unnamed, List.countP_append] at few
    exact (Nat.le_add_right _ _).trans few
  have still : (sent before)[number]? = some request := by
    obtain ⟨given, at_before, -⟩ :=
      Option.map_eq_some_iff.mp ((assign_getElem? number).symm.trans at_number)
    obtain ⟨within, -⟩ := List.getElem?_eq_some_iff.mp at_before
    rw [sent_append, List.getElem?_append_left within] at there
    exact there
  have distinct := id_ne_of_unnamed fewer
    (fun request present => apart request (by rw [sent_append]; exact List.mem_append_left _ present))
    different still free at_number at_other
  exact distinct (named.trans holds.symm)

/-- The ids that a client generates are its prefix with what its counter has counted, which can be read
off them again; so before the counter comes round no two of them are equal. And if no caller pins an id
of this form, then no call that is sent without an id is refused as a duplicate, whatever else the run
sends, loses and answers. -/
theorem generated_ids_never_collide (idPrefix : String) (kind : Link.Kind) (policy : Restart.Policy)
    (start : Nat) (moves : List Move)
    (few : ((new idPrefix kind policy start).generated moves).length ≤ 0x10000000000000000)
    (apart : ∀ request ∈ sent moves, ∀ counter,
      request.id ≠ some (Call.generatedId idPrefix counter)) :
    let fresh := new idPrefix kind policy start
    (fresh.generated moves).Nodup ∧
    fresh.generated moves = (List.range (fresh.generated moves).length).map (fun count =>
      Call.generatedId idPrefix (UInt64.ofNat count)) ∧
    (∀ value : UInt64,
      Numeral.value 36 ((Call.base36 value).toList.map Numeral.digitOf) = value.toNat) ∧
    (∀ (number : Call.Number) (request : Request), (sent moves)[number]? = some request →
      request.id = none →
      ∀ id, .error (.duplicateId id) ∉ outcomes number (fresh.shown moves)) := by
  intro fresh
  refine ⟨nodup_generated few, ?_, Call.value_base36, ?_⟩
  · have counted : (fun count => Call.generatedId fresh.idPrefix (fresh.counter + UInt64.ofNat count)) =
        fun count => Call.generatedId idPrefix (UInt64.ofNat count) := by
      funext count
      exact congrArg (Call.generatedId idPrefix) (UInt64.zero_add (UInt64.ofNat count))
    rw [length_generated, generated_eq, counted]
  · intro number request there free id
    exact not_duplicate few apart there free id

theorem generated_ids_never_collide_mixed :
    let moves : List Move := [.send (.directoryOpen "/"), .send ((Request.directoryOpen "/").withId "own"),
      .send ((Request.directoryOpen "/").withId "own"), .command (.ok .silent), .command (.ok .silent),
      .command (.ok .silent), .report 1 (.closed .disconnected), .signal, .send (.directoryOpen "/"),
      .command (.ok .silent)]
    let fresh := new "p" .socket Restart.Policy.socket 0
    (∀ request ∈ sent moves, ∀ counter, request.id ≠ some (Call.generatedId "p" counter)) ∧
      fresh.generated moves = ["p-0", "p-1"] ∧ (fresh.generated moves).Nodup ∧
      (outcomes 2 (fresh.shown moves)).map (Except.map fun _ => ()) = [.error (.duplicateId "own")] ∧
      (fresh.after moves).dispatcher.connection.generation = 2 ∧
      ∀ id, .error (.duplicateId id) ∉ outcomes 3 (fresh.shown moves) := by
  intro moves fresh
  have apart : ∀ request ∈ sent moves, ∀ counter,
      request.id ≠ some (Call.generatedId "p" counter) := by
    have own (counter : UInt64) : some "own" ≠ some (Call.generatedId "p" counter) := by
      intro same
      have texts := congrArg String.toList (Option.some.inj same)
      simp [Call.generatedId] at texts
    intro request present counter
    have ids : request.id = none ∨ request.id = some "own" := by
      revert request
      decide +kernel
    cases ids with
    | inl free =>
      rw [free]
      exact Option.some_ne_none _ |>.symm
    | inr pinned =>
      rw [pinned]
      exact own counter
  have ids : fresh.generated moves = ["p-0", "p-1"] := by decide +kernel
  have few : (fresh.generated moves).length ≤ 0x10000000000000000 := by
    rw [ids]
    decide
  obtain ⟨distinct, -, -, kept⟩ :=
    generated_ids_never_collide "p" .socket Restart.Policy.socket 0 moves few apart
  refine ⟨apart, ids, distinct, by decide +kernel, by decide +kernel, ?_⟩
  intro id
  exact kept 3 (.directoryOpen "/") rfl rfl id

end EngineClient.Client
