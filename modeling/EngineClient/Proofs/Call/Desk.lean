import EngineClient.Call.Desk
import EngineClient.Proofs.Call.Pending

/-!
Under any operations the pending calls are those that were accepted and not settled since. An operation
other than the rejection of all touches at most the call under its id.
-/

namespace EngineClient.Call

theorem Error.shared_alike {error : Error} (shareable : ∀ fault, error ≠ .encoding fault) :
    error.shared.kind = error.kind ∧ error.shared.message = error.message := by
  cases error with
  | encoding fault => exact absurd rfl (shareable fault)
  | _ => exact ⟨rfl, rfl⟩

namespace Desk

/-- An operation, what it answered and whom it settled. A call that it issued has the number. -/
structure Turn where
  operation : Operation
  number : Number
  answer : Answer
  settlements : List Settlement

def Turn.accepted? (turn : Turn) : Option (String × Number) :=
  match turn.operation, turn.answer with
  | .register id, .registered => some (id, turn.number)
  | _, _ => none

def accepted (turns : List Turn) : List (String × Number) := turns.filterMap Turn.accepted?

def settled (turns : List Turn) : List Number :=
  turns.flatMap fun turn => turn.settlements.map Settlement.call

/-- The calls that were accepted and are not settled yet, in the order in which they came. -/
def unsettled (turns : List Turn) : List (String × Number) :=
  (accepted turns).filter fun entry => !(settled turns).contains entry.2

def after (desk : Desk) : List Operation → Desk
  | [] => desk
  | operation :: operations => (desk.apply operation).2.2.after operations

def turn (desk : Desk) (operation : Operation) : Turn :=
  ⟨operation, desk.issued, (desk.apply operation).1, (desk.apply operation).2.1⟩

def turns (desk : Desk) : List Operation → List Turn
  | [] => []
  | operation :: operations => desk.turn operation :: (desk.apply operation).2.2.turns operations

def Operation.id? : Operation → Option String
  | .register id => some id
  | .resolve response => response.id
  | .reject id _ => some id
  | .rejectAll _ => none
  | .contains id => some id
  | .leave _ => none

variable {desk : Desk} {history : List Turn}

/-- All that an operation can do: its answer, the calls that it settles, and the desk after it. -/
inductive Handles (desk : Desk) : Operation → Answer → List Settlement → Desk → Prop
  | registered {id : String} (free : desk.pending.contains id = false) :
      Handles desk (.register id) .registered []
        { desk with pending := desk.pending.adding id desk.issued, issued := desk.issued + 1 }
  | refused {id : String} (taken : desk.pending.contains id = true) :
      Handles desk (.register id) (.refused (.duplicateId id))
        [⟨desk.issued, .error (.duplicateId id)⟩] { desk with issued := desk.issued + 1 }
  | resolved {response : Response} {id : String} {call : Number} (answers : response.id = some id)
      (found : desk.pending.find? id = some call) :
      Handles desk (.resolve response) .resolved [⟨call, outcomeOf response⟩]
        { desk with pending := desk.pending.erase id }
  | unclaimed {response : Response}
      (unknown : ∀ id, response.id = some id → desk.pending.contains id = false) :
      Handles desk (.resolve response) (.unclaimed response) [] desk
  | rejected {id : String} {call : Number} (error : Error)
      (found : desk.pending.find? id = some call) :
      Handles desk (.reject id error) (.found true) [⟨call, .error error⟩]
        { desk with pending := desk.pending.erase id }
  | absent {id : String} (error : Error) (free : desk.pending.contains id = false) :
      Handles desk (.reject id error) (.found false) [] desk
  | emptied (error : Error) :
      Handles desk (.rejectAll error) (.rejected desk.pending.size) (desk.pending.rejectAll error)
        { desk with pending := .empty }
  | asked (id : String) :
      Handles desk (.contains id) (.found (desk.pending.contains id)) [] desk
  | left (call : Number) :
      Handles desk (.leave call) .left [] { desk with gone := call :: desk.gone }

theorem handles_apply (desk : Desk) (operation : Operation) :
    Handles desk operation (desk.apply operation).1 (desk.apply operation).2.1
      (desk.apply operation).2.2 := by
  cases operation with
  | register id =>
    cases taken : desk.pending.contains id with
    | true =>
      rw [apply, Pending.register_taken taken]
      exact .refused taken
    | false =>
      rw [apply, Pending.register_free taken]
      exact .registered taken
  | resolve response =>
    cases resolved : desk.pending.resolve response with
    | none =>
      rw [apply, resolved]
      exact .unclaimed (Pending.resolve_eq_none_iff.mp resolved)
    | some result =>
      obtain ⟨settlement, rest⟩ := result
      obtain ⟨id, call, answers, found, rfl, rfl⟩ := Pending.resolve_eq_some_iff.mp resolved
      rw [apply, resolved]
      exact .resolved answers found
  | reject id error =>
    cases found : desk.pending.find? id with
    | none =>
      have free : desk.pending.contains id = false := by simp [Pending.contains, found]
      simp only [apply, Pending.reject, Pending.settle, found, Option.map_none]
      exact .absent error free
    | some call =>
      simp only [apply, Pending.reject, Pending.settle, found, Option.map_some]
      exact .rejected error found
  | rejectAll error => exact .emptied error
  | contains id => exact .asked id
  | leave call => exact .left call

theorem apply_gone (desk : Desk) (gone : List Number) (operation : Operation) :
    ({ desk with gone }.apply operation).1 = (desk.apply operation).1 ∧
      ({ desk with gone }.apply operation).2.1 = (desk.apply operation).2.1 ∧
      ({ desk with gone }.apply operation).2.2.pending = (desk.apply operation).2.2.pending := by
  cases operation with
  | register id =>
    simp only [apply]
    split <;> exact ⟨rfl, rfl, rfl⟩
  | resolve response =>
    simp only [apply]
    split <;> exact ⟨rfl, rfl, rfl⟩
  | reject id error =>
    simp only [apply]
    split <;> exact ⟨rfl, rfl, rfl⟩
  | _ => exact ⟨rfl, rfl, rfl⟩

section Handles

variable {operation : Operation} {answer : Answer} {settlements : List Settlement} {next : Desk}
  (handles : Handles desk operation answer settlements next)
include handles

theorem Handles.others (single : ∀ error, operation ≠ .rejectAll error) :
    next.pending.calls.filter (fun entry => operation.id? != some entry.1) =
      desk.pending.calls.filter fun entry => operation.id? != some entry.1 := by
  have erased (id : String) :
      (desk.pending.erase id).calls.filter (fun entry => some id != some entry.1) =
        desk.pending.calls.filter fun entry => some id != some entry.1 := by
    rw [Pending.erase, List.filter_filter]
    refine List.filter_congr fun entry _ => ?_
    by_cases same : entry.1 = id <;> simp [same]
  cases handles with
  | registered free => simp [Operation.id?, List.filter_append]
  | @resolved response id call answers found =>
    rw [Operation.id?, answers]
    exact erased id
  | @rejected id call error found => exact erased id
  | emptied error => exact absurd rfl (single error)
  | _ => rfl

theorem Handles.settles (single : ∀ error, operation ≠ .rejectAll error) :
    settlements.length ≤ 1 ∧ ∀ settlement ∈ settlements,
      (∃ id, operation = .register id ∧ settlement.call = desk.issued) ∨
      ∃ id, operation.id? = some id ∧ (id, settlement.call) ∈ desk.pending.calls := by
  cases handles with
  | @refused id taken =>
    refine ⟨Nat.le_refl 1, fun settlement present => .inl ⟨id, rfl, ?_⟩⟩
    rw [List.mem_singleton.mp present]
  | @resolved response id call answers found =>
    refine ⟨Nat.le_refl 1, fun settlement present => .inr ⟨id, answers, ?_⟩⟩
    rw [List.mem_singleton.mp present]
    exact Pending.mem_of_find found
  | @rejected id call error found =>
    refine ⟨Nat.le_refl 1, fun settlement present => .inr ⟨id, rfl, ?_⟩⟩
    rw [List.mem_singleton.mp present]
    exact Pending.mem_of_find found
  | emptied error => exact absurd rfl (single error)
  | _ => exact ⟨Nat.zero_le 1, fun settlement impossible => by cases impossible⟩

end Handles

/-- The desk knows what its history tells: which calls wait, and that no number was given out twice. -/
structure Keeps (desk : Desk) (history : List Turn) : Prop where
  waiting : desk.pending.calls = unsettled history
  distinct : desk.pending.Distinct
  once : (settled history).Nodup
  fresh : ((accepted history).map Prod.snd).Nodup
  issued : ∀ number ∈ (accepted history).map Prod.snd ++ settled history, number < desk.issued

theorem keeps_empty : empty.Keeps [] where
  waiting := rfl
  distinct := Pending.distinct_empty
  once := List.nodup_nil
  fresh := List.nodup_nil
  issued _ impossible := by cases impossible

namespace Keeps

variable (keeps : desk.Keeps history)
include keeps

theorem mem_pending {entry : String × Number} :
    entry ∈ desk.pending.calls ↔ entry ∈ accepted history ∧ entry.2 ∉ settled history := by
  rw [keeps.waiting, unsettled, List.mem_filter]
  simp

theorem nodup_numbers : desk.pending.numbers.Nodup := by
  rw [Pending.numbers, keeps.waiting]
  exact keeps.fresh.sublist (List.filter_sublist.map _)

theorem mem_numbers {number : Number} (waits : number ∈ desk.pending.numbers) :
    number ∈ (accepted history).map Prod.snd ∧ number ∉ settled history := by
  obtain ⟨entry, present, rfl⟩ := List.mem_map.mp waits
  obtain ⟨taken, open_⟩ := keeps.mem_pending.mp present
  exact ⟨List.mem_map_of_mem taken, open_⟩

theorem id_eq_iff {id : String} {call : Number} (found : desk.pending.find? id = some call)
    {entry : String × Number} (present : entry ∈ desk.pending.calls) :
    entry.1 = id ↔ entry.2 = call := by
  have registered := Pending.mem_of_find found
  constructor
  · intro same
    exact congrArg Prod.snd (List.inj_on_of_nodup_map keeps.distinct present registered same)
  · intro same
    exact congrArg Prod.fst (List.inj_on_of_nodup_map keeps.nodup_numbers present registered same)

theorem settling {turn : Turn} {next : Desk} (nothing : turn.accepted? = none)
    (apart : (turn.settlements.map Settlement.call).Nodup)
    (unsettled : ∀ settlement ∈ turn.settlements, settlement.call ∉ settled history)
    (given : ∀ settlement ∈ turn.settlements, settlement.call < next.issued)
    (grows : desk.issued ≤ next.issued) (distinct : next.pending.Distinct)
    (rest : next.pending.calls = desk.pending.calls.filter fun entry =>
      !(turn.settlements.map Settlement.call).contains entry.2) :
    next.Keeps (history ++ [turn]) := by
  have kept : accepted (history ++ [turn]) = accepted history := by
    simp [accepted, nothing]
  have more : settled (history ++ [turn]) =
      settled history ++ turn.settlements.map Settlement.call := by
    simp [settled]
  refine ⟨?_, distinct, ?_, kept ▸ keeps.fresh, ?_⟩
  · rw [rest, keeps.waiting, Desk.unsettled, Desk.unsettled, kept, more, List.filter_filter]
    refine List.filter_congr fun entry _ => ?_
    rw [List.contains_append, Bool.not_or, Bool.and_comm]
  · rw [more]
    refine List.nodup_append.mpr ⟨keeps.once, apart, ?_⟩
    rintro number before _ now rfl
    obtain ⟨settlement, present, rfl⟩ := List.mem_map.mp now
    exact unsettled settlement present before
  · rw [kept, more, ← List.append_assoc]
    intro number either
    rcases List.mem_append.mp either with before | now
    · exact Nat.lt_of_lt_of_le (keeps.issued number before) grows
    · obtain ⟨settlement, present, rfl⟩ := List.mem_map.mp now
      exact given settlement present

theorem settling_one {turn : Turn} {id : String} {settlement : Settlement}
    (found : desk.pending.find? id = some settlement.call) (nothing : turn.accepted? = none)
    (one : turn.settlements = [settlement]) :
    { desk with pending := desk.pending.erase id }.Keeps (history ++ [turn]) := by
  have waits : settlement.call ∈ desk.pending.numbers :=
    List.mem_map_of_mem (Pending.mem_of_find found)
  obtain ⟨taken, open_⟩ := keeps.mem_numbers waits
  refine keeps.settling nothing (by simp [one]) (by simpa [one] using open_) ?_ (Nat.le_refl _)
    (Pending.distinct_erase keeps.distinct) ?_
  · simpa [one] using keeps.issued settlement.call (List.mem_append_left _ taken)
  · refine List.filter_congr fun entry present => ?_
    rw [one, List.map_singleton, bne, Bool.not_inj_iff, Bool.eq_iff_iff]
    simpa using keeps.id_eq_iff found present

theorem unchanged {turn : Turn} {next : Desk} (nothing : turn.accepted? = none)
    (none_settled : turn.settlements = []) (pending : next.pending = desk.pending)
    (issued : next.issued = desk.issued) : next.Keeps (history ++ [turn]) := by
  refine keeps.settling nothing (by simp [none_settled]) (by simp [none_settled])
    (by simp [none_settled]) (Nat.le_of_eq issued.symm) (pending ▸ keeps.distinct) ?_
  simp [none_settled, pending]

theorem registering {turn : Turn} {id : String} (free : desk.pending.contains id = false)
    (taken : turn.accepted? = some (id, desk.issued)) (none_settled : turn.settlements = []) :
    { desk with pending := desk.pending.adding id desk.issued, issued := desk.issued + 1 }.Keeps
      (history ++ [turn]) := by
  have longer : accepted (history ++ [turn]) = accepted history ++ [(id, desk.issued)] := by
    simp [accepted, taken]
  have kept : settled (history ++ [turn]) = settled history := by
    simp [settled, none_settled]
  have unsettled : desk.issued ∉ settled history := fun before =>
    Nat.lt_irrefl _ (keeps.issued _ (List.mem_append_right _ before))
  have unused : desk.issued ∉ (accepted history).map Prod.snd := fun before =>
    Nat.lt_irrefl _ (keeps.issued _ (List.mem_append_left _ before))
  refine ⟨?_, Pending.distinct_adding keeps.distinct free, kept ▸ keeps.once, ?_, ?_⟩
  · rw [Pending.calls_adding, keeps.waiting, Desk.unsettled, Desk.unsettled, longer, kept,
      List.filter_append]
    simp [unsettled]
  · rw [longer, List.map_append, List.map_singleton, ← List.concat_eq_append]
    exact List.Nodup.concat unused keeps.fresh
  · rw [longer, kept]
    intro number present
    simp only [List.map_append, List.map_cons, List.map_nil, List.append_assoc, List.mem_append,
      List.mem_singleton] at present
    rcases present with before | rfl | before
    · exact Nat.lt_succ_of_lt (keeps.issued number (List.mem_append_left _ before))
    · exact Nat.lt_succ_self _
    · exact Nat.lt_succ_of_lt (keeps.issued number (List.mem_append_right _ before))

theorem handled {operation : Operation} {answer : Answer} {settlements : List Settlement}
    {next : Desk} (handles : Handles desk operation answer settlements next) :
    next.Keeps (history ++ [⟨operation, desk.issued, answer, settlements⟩]) := by
  cases handles with
  | registered free => exact keeps.registering free rfl rfl
  | @refused id taken =>
    have unsettled : desk.issued ∉ settled history := fun before =>
      Nat.lt_irrefl _ (keeps.issued _ (List.mem_append_right _ before))
    refine keeps.settling rfl (List.nodup_singleton _) (by simpa using unsettled) (by simp)
      (Nat.le_succ _) keeps.distinct (List.filter_eq_self.mpr fun entry present => ?_).symm
    have below : entry.2 < desk.issued := keeps.issued entry.2
      (List.mem_append_left _ (keeps.mem_numbers (List.mem_map_of_mem present)).1)
    simpa using Nat.ne_of_lt below
  | resolved answers found => exact keeps.settling_one found rfl rfl
  | unclaimed unknown => exact keeps.unchanged rfl rfl rfl rfl
  | rejected error found => exact keeps.settling_one found rfl rfl
  | absent error free => exact keeps.unchanged rfl rfl rfl rfl
  | emptied error =>
    have calls : (desk.pending.rejectAll error).map Settlement.call = desk.pending.numbers := by
      simp [Pending.rejectAll, Pending.numbers]
    have waits {settlement : Settlement} (present : settlement ∈ desk.pending.rejectAll error) :
        settlement.call ∈ desk.pending.numbers := calls ▸ List.mem_map_of_mem present
    refine keeps.settling rfl (calls ▸ keeps.nodup_numbers)
      (fun settlement present => (keeps.mem_numbers (waits present)).2)
      (fun settlement present => keeps.issued _
        (List.mem_append_left _ (keeps.mem_numbers (waits present)).1))
      (Nat.le_refl _) Pending.distinct_empty (List.filter_eq_nil_iff.mpr fun entry present => ?_).symm
    have waiting : entry.2 ∈ desk.pending.numbers := List.mem_map_of_mem present
    simpa [calls] using waiting
  | asked id => exact keeps.unchanged rfl rfl rfl rfl
  | left call => exact keeps.unchanged rfl rfl rfl rfl

theorem run (operations : List Operation) :
    (desk.after operations).Keeps (history ++ desk.turns operations) := by
  induction operations generalizing desk history with
  | nil => simpa [after, turns] using keeps
  | cons operation operations ih =>
    rw [after, turns, List.append_cons]
    exact ih (keeps.handled (handles_apply desk operation))

end Keeps

theorem apply_register (desk : Desk) (id : String) :
    ((∃ call, (id, call) ∈ desk.pending.calls) ∧ desk.apply (.register id) =
      (.refused (.duplicateId id), [⟨desk.issued, .error (.duplicateId id)⟩],
        { desk with issued := desk.issued + 1 })) ∨
    ((∀ call, (id, call) ∉ desk.pending.calls) ∧ desk.apply (.register id) =
      (.registered, [], { desk with
        pending := ⟨desk.pending.calls ++ [(id, desk.issued)]⟩, issued := desk.issued + 1 })) := by
  cases held : desk.pending.contains id with
  | true => exact .inl ⟨Pending.contains_iff.mp held, by rw [apply, Pending.register_taken held]⟩
  | false =>
    exact .inr ⟨Pending.free_iff.mp held, by rw [apply, Pending.register_free held]; rfl⟩

theorem apply_resolve (desk : Desk) (response : Response) :
    (∃ id call, response.id = some id ∧ (id, call) ∈ desk.pending.calls ∧
      desk.apply (.resolve response) =
        (.resolved, [⟨call, outcomeOf response⟩],
          { desk with pending := desk.pending.erase id })) ∨
    ((∀ id, response.id = some id → ∀ call, (id, call) ∉ desk.pending.calls) ∧
      desk.apply (.resolve response) = (.unclaimed response, [], desk)) := by
  cases resolved : desk.pending.resolve response with
  | none =>
    have free := Pending.resolve_eq_none_iff.mp resolved
    exact .inr ⟨fun id answers => Pending.free_iff.mp (free id answers), by rw [apply, resolved]⟩
  | some result =>
    obtain ⟨settlement, rest⟩ := result
    obtain ⟨id, call, answers, found, rfl, rfl⟩ := Pending.resolve_eq_some_iff.mp resolved
    exact .inl ⟨id, call, answers, Pending.mem_of_find found, by rw [apply, resolved]⟩

theorem apply_reject (desk : Desk) (id : String) (error : Error) :
    (∃ call, (id, call) ∈ desk.pending.calls ∧ desk.apply (.reject id error) =
      (.found true, [⟨call, .error error⟩], { desk with pending := desk.pending.erase id })) ∨
    ((∀ call, (id, call) ∉ desk.pending.calls) ∧
      desk.apply (.reject id error) = (.found false, [], desk)) := by
  cases found : desk.pending.find? id with
  | none =>
    refine .inr ⟨Pending.free_iff.mp ?_, ?_⟩
    · rw [Pending.contains, found]
      rfl
    · rw [apply, Pending.reject, Pending.settle, found]
      rfl
  | some call =>
    refine .inl ⟨call, Pending.mem_of_find found, ?_⟩
    rw [apply, Pending.reject, Pending.settle, found]
    rfl

/-- Over any operations, and whoever leaves in between: the pending calls are, under distinct ids, those that
were accepted and not settled since, and no call is settled twice. An operation touches at most the call
under its id, unless it rejects all. A call is refused exactly if its id is pending, which settles this call
alone. A response settles the call that it answers, or is handed back and leaves all as it was; a rejection
settles the call under its id by the error, or finds none. The rejection of all settles each pending call by
the shared error and leaves every id free. -/
theorem pending_refines_unsettled (operations : List Operation) :
    let desk := empty.after operations
    let history := empty.turns operations
    let waiting := unsettled history
    (desk.pending.calls = waiting ∧ (waiting.map Prod.fst).Nodup ∧ (settled history).Nodup ∧
      desk.pending.size = waiting.length ∧ (desk.pending.isEmpty = true ↔ waiting = []) ∧
      ∀ id, desk.pending.contains id = true ↔ ∃ call, (id, call) ∈ waiting) ∧
    (∀ operation, (∀ error, operation ≠ .rejectAll error) →
      let settlements := (desk.apply operation).2.1
      let next := (desk.apply operation).2.2
      next.pending.calls.filter (fun entry => operation.id? != some entry.1) =
        waiting.filter (fun entry => operation.id? != some entry.1) ∧
      settlements.length ≤ 1 ∧ ∀ settlement ∈ settlements,
        (∃ id, operation = .register id ∧ settlement.call = desk.issued) ∨
        ∃ id, operation.id? = some id ∧ (id, settlement.call) ∈ waiting) ∧
    (∀ id,
      ((∃ call, (id, call) ∈ waiting) ∧ desk.apply (.register id) =
        (.refused (.duplicateId id), [⟨desk.issued, .error (.duplicateId id)⟩],
          { desk with issued := desk.issued + 1 })) ∨
      ((∀ call, (id, call) ∉ waiting) ∧ desk.apply (.register id) =
        (.registered, [], { desk with
          pending := ⟨waiting ++ [(id, desk.issued)]⟩, issued := desk.issued + 1 }))) ∧
    (∀ response : Response,
      (∃ id call, response.id = some id ∧ (id, call) ∈ waiting ∧ desk.apply (.resolve response) =
        (.resolved, [⟨call, outcomeOf response⟩],
          { desk with pending := desk.pending.erase id })) ∨
      ((∀ id, response.id = some id → ∀ call, (id, call) ∉ waiting) ∧
        desk.apply (.resolve response) = (.unclaimed response, [], desk))) ∧
    (∀ id (error : Error),
      (∃ call, (id, call) ∈ waiting ∧ desk.apply (.reject id error) =
        (.found true, [⟨call, .error error⟩], { desk with pending := desk.pending.erase id })) ∨
      ((∀ call, (id, call) ∉ waiting) ∧
        desk.apply (.reject id error) = (.found false, [], desk))) ∧
    (∀ error : Error,
      desk.apply (.rejectAll error) =
        (.rejected waiting.length, waiting.map fun entry => ⟨entry.2, .error error.shared⟩,
          { desk with pending := .empty }) ∧
      (∀ fault, error = .encoding fault → error.shared = .protocol fault.message) ∧
      ((∀ fault, error ≠ .encoding fault) →
        error.shared.kind = error.kind ∧ error.shared.message = error.message) ∧
      ∀ id, ({ desk with pending := .empty }.apply (.register id)).1 = .registered) ∧
    ∀ gone operation,
      ({ desk with gone }.apply operation).1 = (desk.apply operation).1 ∧
      ({ desk with gone }.apply operation).2.1 = (desk.apply operation).2.1 ∧
      ({ desk with gone }.apply operation).2.2.pending = (desk.apply operation).2.2.pending := by
  intro desk history waiting
  have keeps : desk.Keeps history := by simpa using keeps_empty.run operations
  have calls : desk.pending.calls = waiting := keeps.waiting
  have present (id : String) :
      desk.pending.contains id = true ↔ ∃ call, (id, call) ∈ waiting := by
    rw [Pending.contains_iff, calls]
  refine ⟨⟨calls, calls ▸ keeps.distinct, keeps.once, ?_, ?_, present⟩, ?_, ?_, ?_, ?_, ?_,
    desk.apply_gone⟩
  · rw [Pending.size, calls]
  · rw [Pending.isEmpty, calls, List.isEmpty_iff]
  · intro operation single
    have handles := handles_apply desk operation
    rw [← calls]
    exact ⟨handles.others single, handles.settles single⟩
  · rw [← calls]
    exact desk.apply_register
  · rw [← calls]
    exact desk.apply_resolve
  · rw [← calls]
    exact desk.apply_reject
  · intro error
    refine ⟨?_, fun fault same => same ▸ rfl, Error.shared_alike, fun id => rfl⟩
    rw [apply, Pending.size, Pending.rejectAll, calls]

end Desk

end EngineClient.Call
