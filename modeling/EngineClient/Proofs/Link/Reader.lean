import EngineClient.Link.Reader

/-!
The reader of a link reports every byte that arrives before the first end, in bounded chunks and in order, and
then this end.
-/

namespace EngineClient.Link

def Arrival.end? : Arrival → Option Signal
  | .bytes [] => some (.closed .disconnected)
  | .bytes (_ :: _) => none
  | .ended reason => some (.closed reason)
  | .failure detail => some (.failed detail)

/-- The bytes before the first end. -/
def readable : List Arrival → Bytes
  | .bytes (octet :: chunk) :: rest => octet :: chunk ++ readable rest
  | _ => []

def ending? (arrivals : List Arrival) : Option Signal := arrivals.findSome? Arrival.end?

theorem readable_ended {arrival : Arrival} {signal : Signal} (ends : arrival.end? = some signal)
    (rest : List Arrival) : readable (arrival :: rest) = [] := by
  cases arrival with
  | bytes chunk =>
    cases chunk with
    | nil => rfl
    | cons octet chunk => cases ends
  | ended reason => rfl
  | failure detail => rfl

theorem readable_append (arrivals more : List Arrival) :
    readable (arrivals ++ more) =
      readable arrivals ++ if (ending? arrivals).isSome then [] else readable more := by
  induction arrivals with
  | nil => rfl
  | cons arrival rest ih =>
    cases ends : arrival.end? with
    | some signal => simp [readable_ended ends, ending?, ends]
    | none =>
      cases arrival with
      | bytes chunk =>
        cases chunk with
        | nil => cases ends
        | cons octet chunk =>
          have same : ending? (.bytes (octet :: chunk) :: rest) = ending? rest := rfl
          rw [List.cons_append, readable, readable, ih, same, List.cons_append, List.append_assoc]
          rfl
      | ended reason => cases ends
      | failure detail => cases ends

theorem ending_append (arrivals more : List Arrival) :
    ending? (arrivals ++ more) = (ending? arrivals).or (ending? more) :=
  List.findSome?_append

theorem closed_of_ending {arrivals : List Arrival} {reason : CloseReason}
    (ending : ending? arrivals = some (.closed reason)) :
    reason = .disconnected ∨ .ended reason ∈ arrivals := by
  obtain ⟨arrival, present, ends⟩ := List.exists_of_findSome?_eq_some ending
  cases arrival with
  | bytes chunk =>
    cases chunk with
    | nil =>
      cases ends
      exact .inl rfl
    | cons octet chunk => cases ends
  | ended reason =>
    cases ends
    exact .inr present
  | failure detail => cases ends

/-- The arrivals with what is left of a chunk in front. -/
def leaving (chunk : Bytes) (rest : List Arrival) : List Arrival :=
  if chunk.isEmpty then rest else .bytes chunk :: rest

theorem readable_leaving (chunk : Bytes) (rest : List Arrival) :
    readable (leaving chunk rest) = chunk ++ readable rest := by
  cases chunk <;> rfl

theorem ending_leaving (chunk : Bytes) (rest : List Arrival) :
    ending? (leaving chunk rest) = ending? rest := by
  cases chunk <;> rfl

namespace Reader

variable {reader after : Reader} {signal : Signal}

theorem step_cases (stepped : reader.step? = some (signal, after)) :
    reader.finished = false ∧
    ((∃ arrival rest, reader.arrivals = arrival :: rest ∧ arrival.end? = some signal ∧
        after = { reader with finished := true }) ∨
      ∃ octet chunk rest, reader.arrivals = .bytes (octet :: chunk) :: rest ∧
        signal = .data ((octet :: chunk).take chunkLimit) ∧
        after = { reader with arrivals := leaving (chunk.drop (chunkLimit - 1)) rest }) := by
  cases finished : reader.finished with
  | true => simp [step?, finished] at stepped
  | false =>
    refine ⟨rfl, ?_⟩
    cases arrived : reader.arrivals with
    | nil => simp [step?, finished, arrived] at stepped
    | cons arrival rest =>
      simp only [step?, finished, arrived, Bool.false_eq_true, if_false] at stepped
      cases arrival with
      | failure detail =>
        cases stepped
        exact .inl ⟨_, rest, rfl, rfl, rfl⟩
      | ended reason =>
        cases stepped
        exact .inl ⟨_, rest, rfl, rfl, rfl⟩
      | bytes chunk =>
        cases chunk with
        | nil =>
          cases stepped
          exact .inl ⟨_, rest, rfl, rfl, rfl⟩
        | cons octet chunk =>
          cases stepped
          exact .inr ⟨octet, chunk, rest, rfl, rfl, rfl⟩

theorem arrivals_of_idle (idle : reader.step? = none) :
    reader.finished = true ∨ reader.arrivals = [] := by
  cases finished : reader.finished with
  | true => exact .inl rfl
  | false =>
    cases arrived : reader.arrivals with
    | nil => exact .inr rfl
    | cons arrival rest =>
      rw [step?, finished, if_neg Bool.false_ne_true, arrived] at idle
      cases arrival with
      | failure detail => cases idle
      | ended reason => cases idle
      | bytes chunk => cases chunk <;> cases idle

def Bounded (chunks : List Bytes) : Prop :=
  ∀ chunk ∈ chunks, chunk ≠ [] ∧ chunk.length ≤ chunkLimit

/-- What a reader has reported, given all that has arrived: the bytes up to those it has yet to read, and the
first end once it is finished. -/
inductive Tells (reader : Reader) (arrived : List Arrival) : List Signal → Prop
  | going {chunks : List Bytes} (reading : reader.finished = false) (bounded : Bounded chunks)
      (front : chunks.flatten ++ readable reader.arrivals = readable arrived)
      (ending : ending? reader.arrivals = ending? arrived) :
      Tells reader arrived (chunks.map .data)
  | ended {chunks : List Bytes} {last : Signal} (stopped : reader.finished = true)
      (bounded : Bounded chunks) (all : chunks.flatten = readable arrived)
      (ending : ending? arrived = some last) :
      Tells reader arrived (chunks.map .data ++ [last])

variable {arrived : List Arrival} {told : List Signal}

theorem Tells.form (tells : reader.Tells arrived told) : ∃ chunks, ∃ last : Option Signal,
    told = chunks.map .data ++ last.toList ∧ Bounded chunks ∧ chunks.flatten <+: readable arrived ∧
      (last.isSome = true ∨ reader.step? = none →
        chunks.flatten = readable arrived ∧ last = ending? arrived) := by
  cases tells with
  | @going chunks reading bounded front ending =>
    refine ⟨chunks, none, (List.append_nil _).symm, bounded, ⟨_, front⟩, fun ended => ?_⟩
    have idle : reader.step? = none := ended.resolve_left Bool.false_ne_true
    have nothing : reader.arrivals = [] :=
      (arrivals_of_idle idle).resolve_left (by rw [reading]; exact Bool.false_ne_true)
    rw [nothing] at front ending
    exact ⟨(List.append_nil _).symm.trans front, ending⟩
  | @ended chunks last stopped bounded all ending =>
    exact ⟨chunks, some last, rfl, bounded, all ▸ List.prefix_rfl, fun _ => ⟨all, ending.symm⟩⟩

theorem tells_start (arrivals : List Arrival) : (start arrivals).Tells arrivals [] :=
  @Tells.going (start arrivals) arrivals [] rfl (fun _ impossible => by cases impossible) rfl rfl

theorem Tells.receive (tells : reader.Tells arrived told) (arrival : Arrival) :
    (reader.receive arrival).Tells (arrived ++ [arrival]) told := by
  cases tells with
  | going reading bounded front ending =>
    refine .going reading bounded ?_ ?_
    · rw [Reader.receive, readable_append, readable_append, ending, ← front, List.append_assoc]
    · rw [Reader.receive, ending_append, ending_append, ending]
  | ended stopped bounded all ending =>
    refine .ended stopped bounded ?_ ?_
    · rw [readable_append, ending, all]
      simp
    · rw [ending_append, ending]
      rfl

theorem Tells.step (tells : reader.Tells arrived told)
    (stepped : reader.step? = some (signal, after)) : after.Tells arrived (told ++ [signal]) := by
  obtain ⟨reading, ⟨arrival, rest, next, ends, rfl⟩ | ⟨octet, chunk, rest, next, rfl, rfl⟩⟩ :=
    step_cases stepped
  · cases tells with
    | ended stopped => cases reading.symm.trans stopped
    | going _ bounded front ending =>
      rw [next] at front ending
      refine .ended rfl bounded ?_ ?_
      · rw [← front, readable_ended ends, List.append_nil]
      · rw [← ending, ending?, List.findSome?_cons, ends]
  · cases tells with
    | ended stopped => cases reading.symm.trans stopped
    | @going chunks _ bounded front ending =>
      have whole : (octet :: chunk).take chunkLimit ++ chunk.drop (chunkLimit - 1) =
          octet :: chunk := List.take_append_drop chunkLimit (octet :: chunk)
      have longer : (chunks ++ [(octet :: chunk).take chunkLimit]).map Signal.data =
          chunks.map .data ++ [.data ((octet :: chunk).take chunkLimit)] := by simp
      rw [next] at front ending
      rw [← longer]
      refine .going reading ?_ ?_ ?_
      · intro one present
        rcases List.mem_append.mp present with before | new
        · exact bounded one before
        · rw [List.mem_singleton.mp new]
          exact ⟨by simp [chunkLimit], List.length_take_le _ _⟩
      · rw [readable_leaving, List.flatten_append, List.flatten_singleton, List.append_assoc,
          ← List.append_assoc (List.take _ _), whole, ← front, readable]
      · rw [ending_leaving, ← ending]
        rfl

end Reader

end EngineClient.Link
