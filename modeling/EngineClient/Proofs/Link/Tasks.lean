import EngineClient.Link.Tasks
import EngineClient.Proofs.Link.Reader
import EngineClient.Proofs.Link.Writer

/-!
The tasks of a link that is in use: as long as neither has ended the link is up, and the step that ends
one of them reports it.
-/

namespace EngineClient.Link

def Signal.ends : Signal → Bool
  | .data _ => false
  | .closed _ => true
  | .failed _ => true

/-- The reader has met neither the end of the stream nor a failure, and the writer has not failed. -/
structure Up (link : Link) : Prop where
  reading : link.reader.finished = false
  writing : link.writer.status = .running

/-- The link is neither dropped nor closed, and its signals are taken. -/
structure Attached (link : Link) : Prop where
  kept : link.dropped = false
  heard : link.listening = true
  accepting : link.writer.accepting = true

variable {link after : Link} {signal : Option Signal} {amount : Nat}

theorem ends_of_end? {arrival : Arrival} {report : Signal} (ends : arrival.end? = some report) :
    report.ends = true := by
  cases arrival with
  | bytes chunk =>
    cases chunk with
    | nil =>
      cases ends
      rfl
    | cons octet chunk => cases ends
  | ended reason =>
    cases ends
    rfl
  | failure detail =>
    cases ends
    rfl

theorem Writer.step_idle {writer : Writer} (idle : writer.step? amount = none) (other : Nat) :
    writer.step? other = none := by
  cases status : writer.status with
  | failed => simp [step?, status]
  | shut => simp [step?, status]
  | running =>
    have waits := (idle_cases idle).resolve_left fun stopped => stopped status
    simp [step?, status, waits.written, waits.flushed, waits.none_queued, waits.accepting]

theorem pour_idle (idle : link.pour? amount = none) (other : Nat) : link.pour? other = none := by
  cases gone : link.dropped with
  | true => rw [pour?, if_pos gone]
  | false =>
    rw [pour?, gone, if_neg Bool.false_ne_true, Option.map_eq_none_iff] at idle ⊢
    exact Writer.step_idle idle other

theorem attached_start (peer : Peer) (kind : Kind) (generation : Generation) :
    (start peer kind generation).Attached := ⟨rfl, rfl, rfl⟩

theorem up_start (peer : Peer) (kind : Kind) (generation : Generation) :
    (start peer kind generation).Up := ⟨rfl, rfl⟩

theorem Attached.receive (attached : link.Attached) (arrival : Arrival) :
    (link.receive arrival).Attached := ⟨attached.kept, attached.heard, attached.accepting⟩

theorem Up.receive (up : link.Up) (arrival : Arrival) : (link.receive arrival).Up :=
  ⟨up.reading, up.writing⟩

theorem write_cases {chunk : Bytes} (written : link.write chunk = .ok after) :
    after = { link with writer := { link.writer with queue := link.writer.queue ++ [chunk] } } := by
  rw [Link.write] at written
  split at written
  · cases written
  · cases closed : link.writer.isClosed with
    | true =>
      rw [Writer.write, if_pos closed] at written
      cases written
    | false =>
      rw [Writer.write, closed, if_neg Bool.false_ne_true] at written
      cases written
      rfl

theorem unsent_write {chunk : Bytes} (written : link.write chunk = .ok after) :
    after.writer.unsent = link.writer.unsent ++ chunk := by
  rw [write_cases written]
  exact link.writer.unsent_queued chunk

theorem exists_write (usable : link.isClosed = false) (chunk : Bytes) :
    ∃ after, link.write chunk = .ok after := by
  obtain ⟨kept, taking⟩ := Bool.or_eq_false_iff.mp usable
  simp [Link.write, kept, Writer.write, taking, Except.map]

theorem generation_write {chunk : Bytes} (written : link.write chunk = .ok after) :
    after.generation = link.generation := by
  rw [write_cases written]

theorem generation_read (stepped : link.read? = some (signal, after)) :
    after.generation = link.generation := by
  rw [read?] at stepped
  split at stepped
  · cases stepped
  · obtain ⟨step, -, same⟩ := Option.map_eq_some_iff.mp stepped
    dsimp only at same
    split at same
    · cases same
      rfl
    · cases same
      rfl

theorem generation_pour (stepped : link.pour? amount = some (signal, after)) :
    after.generation = link.generation := by
  rw [pour?] at stepped
  split at stepped
  · cases stepped
  · obtain ⟨step, -, same⟩ := Option.map_eq_some_iff.mp stepped
    cases same
    rfl

theorem generation_settle (fuel : Nat) (link : Link) :
    (settle fuel link).2.generation = link.generation := by
  induction fuel generalizing link with
  | zero => rfl
  | succ fuel ih =>
    simp only [settle]
    cases stepped : link.read? with
    | some step => exact (ih step.2).trans (generation_read stepped)
    | none =>
      cases poured : link.pour? link.writer.hand.length with
      | some step => exact (ih step.2).trans (generation_pour poured)
      | none => rfl

theorem generation_run (link : Link) : link.run.2.generation = link.generation :=
  generation_settle link.workload link

def Grown (link after : Link) : Prop := after = link ∨ ∃ chunk, link.write chunk = .ok after

theorem Grown.generation (grown : link.Grown after) : after.generation = link.generation := by
  rcases grown with rfl | ⟨chunk, written⟩
  · rfl
  · rw [write_cases written]

theorem Grown.attached (grown : link.Grown after) (attached : link.Attached) : after.Attached := by
  rcases grown with rfl | ⟨chunk, written⟩
  · exact attached
  · rw [write_cases written]
    exact ⟨attached.kept, attached.heard, attached.accepting⟩

theorem Grown.up (grown : link.Grown after) (up : link.Up) : after.Up := by
  rcases grown with rfl | ⟨chunk, written⟩
  · exact up
  · rw [write_cases written]
    exact ⟨up.reading, up.writing⟩

theorem pour_conserves (stepped : link.pour? amount = some (signal, after)) :
    ∃ poured, after.writer.taken = link.writer.taken ++ poured ∧
      link.writer.unsent = poured ++ after.writer.unsent := by
  rw [pour?] at stepped
  split at stepped
  · cases stepped
  · obtain ⟨⟨report, writer⟩, step, same⟩ := Option.map_eq_some_iff.mp stepped
    cases same
    exact Writer.step_conserves step

theorem writer_read (stepped : link.read? = some (signal, after)) : after.writer = link.writer := by
  rw [read?] at stepped
  split at stepped
  · cases stepped
  · obtain ⟨⟨report, reader⟩, -, same⟩ := Option.map_eq_some_iff.mp stepped
    dsimp only at same
    split at same
    · cases same
      rfl
    · cases same
      rfl

section Attached

variable (attached : link.Attached)
include attached

theorem read_attached : link.read? =
    link.reader.step?.map fun step => (some step.1, { link with reader := step.2 }) := by
  simp [read?, attached.kept, attached.heard]

theorem pour_attached : link.pour? amount =
    (link.writer.step? amount).map fun step => (step.1, { link with writer := step.2 }) := by
  simp [pour?, attached.kept, attached.heard]

theorem read_cases (stepped : link.read? = some (signal, after)) :
    ∃ report reader, link.reader.step? = some (report, reader) ∧ signal = some report ∧
      after = { link with reader } := by
  rw [read_attached attached] at stepped
  obtain ⟨⟨report, reader⟩, step, same⟩ := Option.map_eq_some_iff.mp stepped
  cases same
  exact ⟨report, reader, step, rfl, rfl⟩

theorem pour_cases (stepped : link.pour? amount = some (signal, after)) :
    ∃ writer, link.writer.step? amount = some (signal, writer) ∧ after = { link with writer } := by
  rw [pour_attached attached] at stepped
  obtain ⟨⟨report, writer⟩, step, same⟩ := Option.map_eq_some_iff.mp stepped
  cases same
  exact ⟨writer, step, rfl⟩

theorem attached_read (stepped : link.read? = some (signal, after)) : after.Attached := by
  obtain ⟨report, reader, -, -, rfl⟩ := read_cases attached stepped
  exact ⟨attached.kept, attached.heard, attached.accepting⟩

theorem attached_pour (stepped : link.pour? amount = some (signal, after)) : after.Attached := by
  obtain ⟨writer, step, rfl⟩ := pour_cases attached stepped
  exact ⟨attached.kept, attached.heard, (Writer.accepting_step step).trans attached.accepting⟩

theorem up_read (up : link.Up) (stepped : link.read? = some (signal, after)) :
    after.Up ∨ ∃ report, signal = some report ∧ report.ends = true := by
  obtain ⟨report, reader, step, told, rfl⟩ := read_cases attached stepped
  obtain ⟨reading, ⟨arrival, rest, -, ends, rfl⟩ | ⟨octet, chunk, rest, -, rfl, rfl⟩⟩ :=
    Reader.step_cases step
  · exact .inr ⟨report, told, ends_of_end? ends⟩
  · exact .inl ⟨reading, up.writing⟩

theorem up_pour (up : link.Up) (stepped : link.pour? amount = some (signal, after)) :
    after.Up ∨ ∃ report, signal = some report ∧ report.ends = true := by
  obtain ⟨writer, step, rfl⟩ := pour_cases attached stepped
  obtain ⟨running, advances⟩ := Writer.step_cases step
  cases advances with
  | shut _ _ _ closed => cases attached.accepting.symm.trans closed
  | fail stuck => exact .inr ⟨_, rfl, rfl⟩
  | _ => exact .inl ⟨up.reading, running⟩

theorem arrivals_of_idle (up : link.Up) (idle : link.read? = none) : link.reader.arrivals = [] := by
  rw [read_attached attached, Option.map_eq_none_iff] at idle
  refine (Reader.arrivals_of_idle idle).resolve_left ?_
  rw [up.reading]
  exact Bool.false_ne_true

theorem unsent_of_idle (up : link.Up) (idle : link.pour? amount = none) :
    link.writer.unsent = [] := by
  rw [pour_attached attached, Option.map_eq_none_iff] at idle
  exact ((Writer.idle_cases idle).resolve_left fun stopped => stopped up.writing).unsent

end Attached

end EngineClient.Link
