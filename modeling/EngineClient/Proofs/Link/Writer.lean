import EngineClient.Link.Writer

/-!
The writer of a link keeps every byte that it was given, in order: what the peer has taken, and what is
still to be written behind it.
-/

namespace EngineClient.Link.Writer

variable {writer after : Writer} {amount : Nat} {signal : Option Signal}

def unsent (writer : Writer) : Bytes := writer.hand ++ writer.queue.flatten

structure Unlimited (writer : Writer) : Prop where
  running : writer.status = .running
  accepting : writer.accepting = true
  room : writer.room = none
  flushes : writer.flushes = none

theorem unlimited_start (fault : String) : (start none none fault).Unlimited :=
  ⟨rfl, rfl, rfl, rfl⟩

theorem write_unlimited (unlimited : writer.Unlimited) (chunk : Bytes) :
    writer.write chunk = .ok { writer with queue := writer.queue ++ [chunk] } := by
  have taking : writer.isClosed = false := by
    simp [isClosed, unlimited.accepting, unlimited.running]
  rw [write, taking, if_neg Bool.false_ne_true]

theorem Unlimited.write (unlimited : writer.Unlimited) (chunk : Bytes) :
    { writer with queue := writer.queue ++ [chunk] }.Unlimited :=
  ⟨unlimited.running, unlimited.accepting, unlimited.room, unlimited.flushes⟩

theorem unsent_queued (writer : Writer) (chunk : Bytes) :
    { writer with queue := writer.queue ++ [chunk] }.unsent = writer.unsent ++ chunk := by
  simp [unsent]

/-- The peer takes no more of the chunk in hand, or does not flush behind it. -/
def Stuck (writer : Writer) : Prop :=
  (writer.hand ≠ [] ∧ writer.room = some 0) ∨
    (writer.hand = [] ∧ writer.unflushed = true ∧ writer.flushes = some 0)

/-- What one step of a writer that runs can do. -/
inductive Advances (writer : Writer) (amount : Nat) : Option Signal → Writer → Prop
  | takeUp {chunk : Bytes} {queue : List Bytes} (empty : writer.hand = [])
      (flushed : writer.unflushed = false) (next : writer.queue = chunk :: queue) :
      Advances writer amount none { writer with queue, hand := chunk, unflushed := true }
  | shut (empty : writer.hand = []) (flushed : writer.unflushed = false)
      (last : writer.queue = []) (closed : writer.accepting = false) :
      Advances writer amount none { writer with status := .shut }
  | fail (stuck : writer.Stuck) :
      Advances writer amount (some (.failed writer.fault)) { writer with status := .failed }
  | flush (empty : writer.hand = []) (unflushed : writer.unflushed = true)
      (well : writer.flushes ≠ some 0) :
      Advances writer amount none
        { writer with unflushed := false, flushes := writer.flushes.map (· - 1) }
  /-- As many bytes are written as may be, unless there is room for fewer. -/
  | pour {count : Nat} (holding : writer.hand ≠ []) (space : writer.room ≠ some 0)
      (some_bytes : 0 < count) (within : ∀ room, writer.room = some room → count ≤ room)
      (enough : amount ≤ count ∨ writer.room = some count) :
      Advances writer amount none { writer with
        hand := writer.hand.drop count
        taken := writer.taken ++ writer.hand.take count
        room := writer.room.map (· - (writer.hand.take count).length) }

theorem advances_between (running : writer.status = .running) (empty : writer.hand = [])
    (stepped : writer.step? amount = some (signal, after)) : writer.Advances amount signal after := by
  simp only [step?, running, empty] at stepped
  split at stepped
  next unflushed =>
    split at stepped
    next spent =>
      cases stepped
      rw [← empty]
      exact .fail (.inr ⟨empty, unflushed, spent⟩)
    next well =>
      cases stepped
      rw [← empty, ← running]
      exact .flush empty unflushed well
  next behind =>
    have flushed : writer.unflushed = false := by simpa using behind
    cases queue : writer.queue with
    | nil =>
      simp only [queue] at stepped
      split at stepped
      · cases stepped
      next closed =>
        cases stepped
        rw [← empty, ← queue]
        exact .shut empty flushed queue (by simpa using closed)
    | cons chunk rest =>
      simp only [queue] at stepped
      cases stepped
      rw [← running]
      exact .takeUp empty flushed queue

theorem advances_holding {octet : UInt8} {rest : Bytes} (running : writer.status = .running)
    (hand : writer.hand = octet :: rest) (stepped : writer.step? amount = some (signal, after)) :
    writer.Advances amount signal after := by
  have holding : writer.hand ≠ [] := by
    rw [hand]
    exact List.cons_ne_nil _ _
  simp only [step?, running, hand] at stepped
  split at stepped
  next full =>
    cases stepped
    rw [← hand]
    exact .fail (.inl ⟨holding, full⟩)
  next space =>
    cases stepped
    rw [← hand, ← running]
    refine .pour holding space ?_ ?_ ?_
    · cases limit : writer.room with
      | none => exact Nat.lt_of_lt_of_le Nat.zero_lt_one (Nat.le_max_left 1 amount)
      | some room =>
        have some_room : room ≠ 0 := fun none_left => space (none_left ▸ limit)
        change 0 < min room (max 1 amount)
        omega
    · intro room limit
      rw [limit]
      exact Nat.min_le_left room _
    · cases limit : writer.room with
      | none => exact .inl (Nat.le_max_right 1 amount)
      | some room =>
        change amount ≤ min room (max 1 amount) ∨ some room = some (min room (max 1 amount))
        rcases Nat.le_total room (max 1 amount) with scarce | ample
        · rw [Nat.min_eq_left scarce]
          exact .inr rfl
        · rw [Nat.min_eq_right ample]
          exact .inl (Nat.le_max_right 1 amount)

theorem step_cases (stepped : writer.step? amount = some (signal, after)) :
    writer.status = .running ∧ writer.Advances amount signal after := by
  cases status : writer.status with
  | failed => simp [step?, status] at stepped
  | shut => simp [step?, status] at stepped
  | running =>
    cases hand : writer.hand with
    | nil => exact ⟨rfl, advances_between status hand stepped⟩
    | cons octet rest => exact ⟨rfl, advances_holding status hand stepped⟩

theorem accepting_step (stepped : writer.step? amount = some (signal, after)) :
    after.accepting = writer.accepting := by
  obtain ⟨-, advances⟩ := step_cases stepped
  cases advances <;> rfl

theorem step_conserves (stepped : writer.step? amount = some (signal, after)) :
    ∃ poured, after.taken = writer.taken ++ poured ∧ writer.unsent = poured ++ after.unsent := by
  obtain ⟨-, advances⟩ := step_cases stepped
  cases advances with
  | takeUp empty flushed next => exact ⟨[], by simp, by simp [unsent, empty, next]⟩
  | @pour count _ _ _ _ _ =>
    refine ⟨writer.hand.take count, rfl, ?_⟩
    rw [unsent, unsent, ← List.append_assoc, List.take_append_drop]
  | _ => exact ⟨[], by simp, by simp [unsent]⟩

structure Waits (writer : Writer) : Prop where
  written : writer.hand = []
  flushed : writer.unflushed = false
  none_queued : writer.queue = []
  accepting : writer.accepting = true

theorem Waits.unsent (waits : writer.Waits) : writer.unsent = [] := by
  rw [Writer.unsent, waits.written, waits.none_queued]
  rfl

theorem idle_cases (idle : writer.step? amount = none) :
    writer.status ≠ .running ∨ writer.Waits := by
  cases status : writer.status with
  | failed => exact .inl (by decide)
  | shut => exact .inl (by decide)
  | running =>
    refine .inr ?_
    cases hand : writer.hand with
    | cons octet hand =>
      simp only [step?, status, hand] at idle
      split at idle <;> cases idle
    | nil =>
      simp only [step?, status, hand] at idle
      split at idle
      · split at idle <;> cases idle
      next flushed =>
        cases queue : writer.queue with
        | cons chunk queue =>
          simp only [queue] at idle
          cases idle
        | nil =>
          simp only [queue] at idle
          split at idle
          next accepting => exact ⟨hand, by simpa using flushed, queue, accepting⟩
          · cases idle

theorem Unlimited.not_stuck (unlimited : writer.Unlimited) : ¬ writer.Stuck := by
  rintro (⟨-, full⟩ | ⟨-, -, spent⟩)
  · cases unlimited.room.symm.trans full
  · cases unlimited.flushes.symm.trans spent

theorem unlimited_step (unlimited : writer.Unlimited)
    (stepped : writer.step? amount = some (signal, after)) :
    signal = none ∧ after.Unlimited := by
  obtain ⟨-, advances⟩ := step_cases stepped
  have clear := unlimited.not_stuck
  obtain ⟨running, accepting, room, flushes⟩ := unlimited
  cases advances with
  | takeUp => exact ⟨rfl, running, accepting, room, flushes⟩
  | shut _ _ _ closed => cases accepting.symm.trans closed
  | fail stuck => exact absurd stuck clear
  | flush => exact ⟨rfl, running, accepting, room, by simp [flushes]⟩
  | pour => exact ⟨rfl, running, accepting, by simp [room], flushes⟩

end EngineClient.Link.Writer
