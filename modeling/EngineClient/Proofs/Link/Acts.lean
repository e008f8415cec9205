import EngineClient.Proofs.Link.Tasks

/-!
A link under anything that can happen to it: its owner writes, closes or drops it, its tasks make steps, and
something arrives, in any order. Left to itself it becomes idle.
-/

namespace EngineClient.Link

inductive Act where
  | write (chunk : Bytes)
  | close
  | drop
  | deafen
  | receive (arrival : Arrival)
  | read
  | pour (amount : Nat)
  deriving DecidableEq

inductive Output where
  | accepted (chunk : Bytes)
  | refused (error : Error)
  | read (generation : Generation) (signal : Signal)
  | poured (generation : Generation) (signal : Signal)

def act (link : Link) : Act → Link × List Output
  | .write chunk =>
    match link.write chunk with
    | .ok after => (after, [.accepted chunk])
    | .error error => (link, [.refused error])
  | .close => (link.close, [])
  | .drop => (link.drop, [])
  | .deafen => (link.deafen, [])
  | .receive arrival => (link.receive arrival, [])
  | .read =>
    match link.read? with
    | some (signal, after) => (after, signal.toList.map (.read link.generation))
    | none => (link, [])
  | .pour amount =>
    match link.pour? amount with
    | some (signal, after) => (after, signal.toList.map (.poured link.generation))
    | none => (link, [])

def after (link : Link) : List Act → Link
  | [] => link
  | act :: acts => (link.act act).1.after acts

def shown (link : Link) : List Act → List Output
  | [] => []
  | act :: acts => (link.act act).2 ++ (link.act act).1.shown acts

variable {link : Link}

def Output.accepted? : Output → Option Bytes
  | .accepted chunk => some chunk
  | _ => none

def Output.read? : Output → Option (Generation × Signal)
  | .read generation signal => some (generation, signal)
  | _ => none

def Output.poured? : Output → Option (Generation × Signal)
  | .poured generation signal => some (generation, signal)
  | _ => none

def acceptances (outputs : List Output) : List Bytes := outputs.filterMap Output.accepted?

def readings (outputs : List Output) : List (Generation × Signal) := outputs.filterMap Output.read?

def pourings (outputs : List Output) : List (Generation × Signal) := outputs.filterMap Output.poured?

theorem acceptances_append (first second : List Output) :
    acceptances (first ++ second) = acceptances first ++ acceptances second :=
  List.filterMap_append

theorem readings_append (first second : List Output) :
    readings (first ++ second) = readings first ++ readings second :=
  List.filterMap_append

theorem pourings_append (first second : List Output) :
    pourings (first ++ second) = pourings first ++ pourings second :=
  List.filterMap_append

theorem write_open (usable : link.isClosed = false) (chunk : Bytes) :
    link.write chunk =
      .ok { link with writer := { link.writer with queue := link.writer.queue ++ [chunk] } } := by
  obtain ⟨after, written⟩ := exists_write usable chunk
  rw [written, write_cases written]

theorem write_closed (closed : link.isClosed = true) (chunk : Bytes) :
    link.write chunk = .error .closed := by
  rw [Link.write]
  rcases Bool.or_eq_true_iff.mp closed with gone | refuses
  · rw [if_pos gone]
  · split
    · rfl
    · rw [Writer.write, if_pos refuses]
      rfl

theorem pour_eq_some {amount : Nat} {signal : Option Signal} {after : Link}
    (stepped : link.pour? amount = some (signal, after)) :
    link.dropped = false ∧ ∃ report writer, link.writer.step? amount = some (report, writer) ∧
      signal = (if link.listening then report else none) ∧ after = { link with writer } := by
  rw [pour?] at stepped
  split at stepped
  · cases stepped
  next kept =>
    obtain ⟨⟨report, writer⟩, step, same⟩ := Option.map_eq_some_iff.mp stepped
    cases same
    exact ⟨by simpa using kept, report, writer, step, rfl, rfl⟩

theorem read_eq_some {signal : Option Signal} {after : Link}
    (stepped : link.read? = some (signal, after)) :
    link.dropped = false ∧ ∃ report reader, link.reader.step? = some (report, reader) ∧
      ((link.listening = true ∧ signal = some report ∧ after = { link with reader }) ∨
        (link.listening = false ∧ signal = none ∧
          after = { link with reader := { reader with finished := true } })) := by
  rw [read?] at stepped
  split at stepped
  · cases stepped
  next kept =>
    obtain ⟨⟨report, reader⟩, step, same⟩ := Option.map_eq_some_iff.mp stepped
    refine ⟨by simpa using kept, report, reader, step, ?_⟩
    dsimp only at same
    split at same
    next heard =>
      cases same
      exact .inl ⟨heard, rfl, rfl⟩
    next unheard =>
      cases same
      exact .inr ⟨by simpa using unheard, rfl, rfl⟩

/-- What is heard of a report of the writer. -/
def telling (link : Link) (report : Option Signal) : List Output :=
  (if link.listening then report else none).toList.map (.poured link.generation)

theorem acceptances_telling (report : Option Signal) : acceptances (link.telling report) = [] := by
  rw [telling]
  cases (if link.listening then report else none) <;> rfl

theorem readings_telling (report : Option Signal) : readings (link.telling report) = [] := by
  rw [telling]
  cases (if link.listening then report else none) <;> rfl

theorem telling_none : link.telling none = [] := by
  rw [telling, ite_self]
  rfl

theorem pourings_telling (signal : Signal) : pourings (link.telling (some signal)) =
    if link.listening then [(link.generation, signal)] else [] := by
  rw [telling]
  cases link.listening <;> rfl

/-- What an act does to a link, and what it shows. -/
inductive Effect (link : Link) : Act → Link → List Output → Prop
  | accept (chunk : Bytes) (usable : link.isClosed = false) :
      Effect link (.write chunk)
        { link with writer := { link.writer with queue := link.writer.queue ++ [chunk] } }
        [.accepted chunk]
  | refuse (chunk : Bytes) (closed : link.isClosed = true) :
      Effect link (.write chunk) link [.refused .closed]
  | close : Effect link .close link.close []
  | drop : Effect link .drop link.drop []
  | deafen : Effect link .deafen link.deafen []
  | receive (arrival : Arrival) : Effect link (.receive arrival) (link.receive arrival) []
  | report {signal : Signal} {reader : Reader} (kept : link.dropped = false)
      (heard : link.listening = true) (step : link.reader.step? = some (signal, reader)) :
      Effect link .read { link with reader } [.read link.generation signal]
  /-- A reader that nobody hears stops. -/
  | unheard {signal : Signal} {reader : Reader} (kept : link.dropped = false)
      (deaf : link.listening = false) (step : link.reader.step? = some (signal, reader)) :
      Effect link .read { link with reader := { reader with finished := true } } []
  | unread (idle : link.read? = none) : Effect link .read link []
  | pour {amount : Nat} {report : Option Signal} {writer : Writer} (kept : link.dropped = false)
      (step : link.writer.step? amount = some (report, writer)) :
      Effect link (.pour amount) { link with writer } (link.telling report)
  | unpoured {amount : Nat} (idle : link.pour? amount = none) : Effect link (.pour amount) link []

theorem effect_act (link : Link) (act : Act) :
    link.Effect act (link.act act).1 (link.act act).2 := by
  cases act with
  | write chunk =>
    cases usable : link.isClosed with
    | false =>
      rw [Link.act, write_open usable]
      exact .accept chunk usable
    | true =>
      rw [Link.act, write_closed usable]
      exact .refuse chunk usable
  | close => exact .close
  | drop => exact .drop
  | deafen => exact .deafen
  | receive arrival => exact .receive arrival
  | read =>
    rw [Link.act]
    cases stepped : link.read? with
    | none => exact .unread stepped
    | some step =>
      obtain ⟨signal, after⟩ := step
      obtain ⟨kept, report, reader, step, ⟨heard, rfl, rfl⟩ | ⟨deaf, rfl, rfl⟩⟩ :=
        read_eq_some stepped
      · exact .report kept heard step
      · exact .unheard kept deaf step
  | pour amount =>
    rw [Link.act]
    cases stepped : link.pour? amount with
    | none => exact .unpoured stepped
    | some step =>
      obtain ⟨signal, after⟩ := step
      obtain ⟨kept, report, writer, step, rfl, rfl⟩ := pour_eq_some stepped
      exact .pour kept step

section Flags

variable {act : Act} {after : Link} {outputs : List Output} (effect : link.Effect act after outputs)
include effect

theorem Effect.closed : (!after.writer.accepting) = (!link.writer.accepting || act == .close) := by
  cases effect with
  | close => exact (Bool.or_true _).symm
  | pour _ step => exact (congrArg _ (Writer.accepting_step step)).trans (Bool.or_false _).symm
  | _ => exact (Bool.or_false _).symm

theorem Effect.dropped : after.dropped = (link.dropped || act == .drop) := by
  cases effect with
  | drop => exact (Bool.or_true _).symm
  | _ => exact (Bool.or_false _).symm

theorem Effect.deaf : (!after.listening) = (!link.listening || act == .deafen) := by
  cases effect with
  | deafen => exact (Bool.or_true _).symm
  | _ => exact (Bool.or_false _).symm

end Flags

theorem raised_after {flag : Link → Bool} {cause : Act}
    (raised : ∀ link act, flag (link.act act).1 = (flag link || act == cause)) (link : Link)
    (acts : List Act) : flag (link.after acts) = (flag link || acts.contains cause) := by
  induction acts generalizing link with
  | nil => exact (Bool.or_false _).symm
  | cons act acts ih => rw [after, ih, raised, List.contains_cons, Bool.or_assoc, Bool.beq_comm]

theorem closed_after (link : Link) (acts : List Act) :
    (!(link.after acts).writer.accepting) = (!link.writer.accepting || acts.contains .close) :=
  @raised_after (fun link => !link.writer.accepting) .close
    (fun link act => (link.effect_act act).closed) link acts

theorem dropped_after (link : Link) (acts : List Act) :
    (link.after acts).dropped = (link.dropped || acts.contains .drop) :=
  raised_after (fun link act => (link.effect_act act).dropped) link acts

theorem deaf_after (link : Link) (acts : List Act) :
    (!(link.after acts).listening) = (!link.listening || acts.contains .deafen) :=
  @raised_after (fun link => !link.listening) .deafen (fun link act => (link.effect_act act).deaf)
    link acts

structure Idle (link : Link) : Prop where
  reading : link.read? = none
  pouring : ∀ amount, link.pour? amount = none

def Act.ofTask : Act → Bool
  | .read => true
  | .pour _ => true
  | _ => false

def Reader.readsOf : List Arrival → Nat
  | [] => 0
  | .bytes chunk :: rest => chunk.length + 1 + readsOf rest
  | .ended _ :: rest => 1 + readsOf rest
  | .failure _ :: rest => 1 + readsOf rest

def Reader.work (reader : Reader) : Nat :=
  if reader.finished then 0 else readsOf reader.arrivals

/-- A chunk is taken up, written and flushed; besides, the room may run out once, and the writer stops
once. -/
def Writer.work (writer : Writer) : Nat :=
  if writer.status = .running then
    3 * writer.queue.length + (if writer.hand = [] then 0 else 1) +
      (if writer.unflushed then 1 else 0) + (if writer.room = some 0 then 0 else 1) + 1
  else 0

theorem Reader.readsOf_pos (arrival : Arrival) (rest : List Arrival) :
    0 < readsOf (arrival :: rest) := by
  cases arrival <;> simp only [readsOf] <;> omega

theorem Reader.readsOf_leaving (chunk : Bytes) (rest : List Arrival) :
    readsOf (leaving chunk rest) ≤ chunk.length + 1 + readsOf rest := by
  cases chunk with
  | nil => exact Nat.le_add_left _ _
  | cons octet chunk => exact Nat.le_refl _

theorem Reader.work_step {reader after : Reader} {signal : Signal}
    (stepped : reader.step? = some (signal, after)) : after.work < reader.work := by
  obtain ⟨reading, ⟨arrival, rest, next, -, rfl⟩ | ⟨octet, chunk, rest, next, -, rfl⟩⟩ :=
    step_cases stepped
  · simpa [work, reading, next] using readsOf_pos arrival rest
  · have left := readsOf_leaving (chunk.drop (chunkLimit - 1)) rest
    simp only [work, reading, next, readsOf, Bool.false_eq_true, if_false, List.length_drop,
      List.length_cons] at left ⊢
    omega

theorem Writer.work_step {writer after : Writer} {signal : Option Signal}
    (stepped : writer.step? writer.hand.length = some (signal, after)) :
    after.work < writer.work := by
  obtain ⟨running, advances⟩ := step_cases stepped
  cases advances with
  | @takeUp chunk queue empty flushed next =>
    have taken : (if chunk = [] then 0 else 1) ≤ 1 := by split <;> omega
    simp only [work, running, empty, flushed, next, if_true, Bool.false_eq_true, if_false,
      List.length_cons]
    omega
  | shut => simp [work, running]
  | fail => simp [work, running]
  | flush empty unflushed => simp [work, running, unflushed]
  | @pour count holding space _ _ enough =>
    simp only [work, running, holding, space, if_true, if_false]
    by_cases all : writer.hand.length ≤ count
    · rw [List.drop_eq_nil_of_le all, if_pos rfl]
      split <;> split <;> omega
    · -- There is room for fewer bytes than the chunk has, and it is used up.
      have scarce : writer.room = some count := enough.resolve_left all
      have used : (writer.hand.take count).length = count :=
        List.length_take_of_le (Nat.le_of_not_le all)
      rw [scarce, Option.map_some, used, Nat.sub_self, if_pos rfl]
      split <;> split <;> omega

theorem foldl_reads {cost : Arrival → Nat}
    (costs : ∀ arrival rest, Reader.readsOf (arrival :: rest) = cost arrival + Reader.readsOf rest)
    (arrivals : List Arrival) (start : Nat) :
    (arrivals.map cost).foldl (· + ·) start = start + Reader.readsOf arrivals := by
  induction arrivals generalizing start with
  | nil => rfl
  | cons arrival rest ih =>
    rw [List.map_cons, List.foldl_cons, ih, costs, Nat.add_assoc]

theorem work_le_workload (link : Link) : link.reader.work + link.writer.work ≤ link.workload := by
  have reads : link.reader.work ≤ Reader.readsOf link.reader.arrivals := by
    rw [Reader.work]
    split
    · exact Nat.zero_le _
    · exact Nat.le_refl _
  have pours : link.writer.work ≤ 3 * link.writer.queue.length + 4 := by
    rw [Writer.work]
    split
    · split <;> split <;> split <;> omega
    · exact Nat.zero_le _
  rw [workload, foldl_reads fun arrival rest => by cases arrival <;> rfl]
  omega

theorem work_read {signal : Option Signal} {after : Link}
    (stepped : link.read? = some (signal, after)) :
    after.reader.work + after.writer.work < link.reader.work + link.writer.work := by
  obtain ⟨-, report, reader, step, ⟨-, -, rfl⟩ | ⟨-, -, rfl⟩⟩ := read_eq_some stepped
  · exact Nat.add_lt_add_right (Reader.work_step step) _
  · have less := Reader.work_step step
    have stopped : ({ reader with finished := true } : Reader).work = 0 := rfl
    rw [stopped]
    exact Nat.add_lt_add_right (Nat.zero_lt_of_lt less) _

theorem work_pour {signal : Option Signal} {after : Link}
    (stepped : link.pour? link.writer.hand.length = some (signal, after)) :
    after.reader.work + after.writer.work < link.reader.work + link.writer.work := by
  obtain ⟨-, report, writer, step, -, rfl⟩ := pour_eq_some stepped
  exact Nat.add_lt_add_left (Writer.work_step step) _

theorem idle_of_steps (reading : link.read? = none)
    (pouring : link.pour? link.writer.hand.length = none) : link.Idle :=
  ⟨reading, pour_idle pouring⟩

theorem idle_settle {fuel : Nat} (enough : link.reader.work + link.writer.work ≤ fuel) :
    (settle fuel link).2.Idle := by
  induction fuel generalizing link with
  | zero =>
    change link.Idle
    refine idle_of_steps (Option.eq_none_iff_forall_ne_some.mpr ?_)
      (Option.eq_none_iff_forall_ne_some.mpr ?_)
    · intro step stepped
      have less := work_read stepped
      omega
    · intro step stepped
      have less := work_pour stepped
      omega
  | succ fuel ih =>
    rw [settle]
    cases stepped : link.read? with
    | some step => exact ih (by have less := work_read stepped; omega)
    | none =>
      cases poured : link.pour? link.writer.hand.length with
      | some step => exact ih (by have less := work_pour poured; omega)
      | none => exact idle_of_steps stepped poured

theorem idle_run (link : Link) : link.run.2.Idle := idle_settle link.work_le_workload

theorem settle_acts (fuel : Nat) (link : Link) : ∃ tasks : List Act,
    (∀ act ∈ tasks, act.ofTask = true) ∧ (settle fuel link).2 = link.after tasks := by
  induction fuel generalizing link with
  | zero => exact ⟨[], List.forall_mem_nil _, rfl⟩
  | succ fuel ih =>
    rw [settle]
    cases stepped : link.read? with
    | some step =>
      obtain ⟨tasks, only, reached⟩ := ih step.2
      refine ⟨.read :: tasks, List.forall_mem_cons.mpr ⟨rfl, only⟩, ?_⟩
      rw [after, act, stepped]
      exact reached
    | none =>
      cases poured : link.pour? link.writer.hand.length with
      | some step =>
        obtain ⟨tasks, only, reached⟩ := ih step.2
        refine ⟨.pour link.writer.hand.length :: tasks, List.forall_mem_cons.mpr ⟨rfl, only⟩, ?_⟩
        rw [after, act, poured]
        exact reached
      | none => exact ⟨[], List.forall_mem_nil _, rfl⟩

/-- The tasks of a link can make it idle. -/
theorem exists_idle (link : Link) :
    ∃ tasks : List Act, (∀ act ∈ tasks, act.ofTask = true) ∧ (link.after tasks).Idle := by
  obtain ⟨tasks, only, reached⟩ := settle_acts link.workload link
  exact ⟨tasks, only, reached ▸ idle_run link⟩

end EngineClient.Link
