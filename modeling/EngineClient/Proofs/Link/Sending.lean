import EngineClient.Proofs.Link.Acts

/-!
Of what a link accepts its peer takes the front, byte for byte and in order, whatever happens to the link
meanwhile: all of it once the writer of a link that is not dropped is idle, or as much as the peer has room
for and as it flushes.
-/

namespace EngineClient.Link

/-- The chunks that a writer comes to: those in front of the first flush that fails, and the one that this
flush is for. -/
def Peer.reached (peer : Peer) (chunks : List Bytes) : List Bytes :=
  match peer.flushes with
  | none => chunks
  | some most => chunks.take (most + 1)

/-- What a peer takes of chunks that are written one after another. -/
def Peer.takes (peer : Peer) (chunks : List Bytes) : Bytes :=
  match peer.room with
  | none => (peer.reached chunks).flatten
  | some most => (peer.reached chunks).flatten.take most

/-- The room runs out on the way, or a flush fails. -/
def Peer.Fails (peer : Peer) (chunks : List Bytes) : Prop :=
  (∃ most, peer.room = some most ∧ most < (peer.reached chunks).flatten.length) ∨
    ∃ most, peer.flushes = some most ∧ most < chunks.length

section Peer

variable {peer : Peer} {chunks : List Bytes}

theorem Peer.not_fails_of_unlimited (room : peer.room = none) (flushes : peer.flushes = none) :
    ¬ peer.Fails chunks := by
  rintro (⟨most, limit, -⟩ | ⟨most, limit, -⟩)
  · cases room.symm.trans limit
  · cases flushes.symm.trans limit

theorem Peer.reached_limited {most : Nat} (limit : peer.flushes = some most) :
    peer.reached chunks = chunks.take (most + 1) := by
  rw [Peer.reached, limit]

theorem Peer.takes_limited {most : Nat} (limit : peer.room = some most) :
    peer.takes chunks = (peer.reached chunks).flatten.take most := by
  rw [Peer.takes, limit]

theorem Peer.reached_of_enough (enough : ∀ most, peer.flushes = some most → chunks.length ≤ most + 1) :
    peer.reached chunks = chunks := by
  cases limit : peer.flushes with
  | none => rw [Peer.reached, limit]
  | some most => rw [reached_limited limit, List.take_of_length_le (enough most limit)]

theorem Peer.takes_of_enough
    (enough : ∀ most, peer.room = some most → (peer.reached chunks).flatten.length ≤ most) :
    peer.takes chunks = (peer.reached chunks).flatten := by
  cases limit : peer.room with
  | none => rw [Peer.takes, limit]
  | some most => rw [takes_limited limit, List.take_of_length_le (enough most limit)]

end Peer

namespace Writer

variable {writer after : Writer} {amount : Nat} {signal : Option Signal}
variable {peer : Peer} {chunks flushed : List Bytes} {part : Bytes}

/-- What a writer has done with the chunks that it was given, for a peer with these limits: some are written
and flushed, and a part of the chunk in hand is taken. -/
structure Sent (writer : Writer) (peer : Peer) (chunks flushed : List Bytes) (part : Bytes) :
    Prop where
  split : chunks =
    flushed ++ (if writer.unflushed then [part ++ writer.hand] else []) ++ writer.queue
  taken : writer.taken = flushed.flatten ++ part
  between : writer.unflushed = false → part = [] ∧ writer.hand = []
  room : writer.room = peer.room.map (· - writer.taken.length)
  fits : ∀ most, peer.room = some most → writer.taken.length ≤ most
  flushes : writer.flushes = peer.flushes.map (· - flushed.length)
  within : ∀ most, peer.flushes = some most → flushed.length ≤ most
  named : writer.fault = peer.fault
  shut : writer.status = .shut →
    writer.unflushed = false ∧ writer.queue = [] ∧ writer.accepting = false
  failed : writer.status = .failed → writer.Stuck

theorem sent_start (peer : Peer) :
    (start peer.room peer.flushes peer.fault).Sent peer [] [] [] where
  split := rfl
  taken := rfl
  between _ := ⟨rfl, rfl⟩
  room := by cases limit : peer.room <;> simp [start]
  fits most _ := Nat.zero_le most
  flushes := by cases limit : peer.flushes <;> simp [start]
  within most _ := Nat.zero_le most
  named := rfl
  shut stopped := by cases stopped
  failed stopped := by cases stopped

theorem Sent.conserved (sent : writer.Sent peer chunks flushed part) :
    writer.taken ++ writer.unsent = chunks.flatten := by
  rw [sent.taken, sent.split, unsent]
  cases behind : writer.unflushed with
  | false =>
    obtain ⟨nothing, empty⟩ := sent.between behind
    simp [nothing, empty]
  | true => simp

theorem Sent.unflushed_of_hand (sent : writer.Sent peer chunks flushed part)
    (holding : writer.hand ≠ []) : writer.unflushed = true := by
  cases behind : writer.unflushed with
  | true => rfl
  | false => exact absurd (sent.between behind).2 holding

theorem Sent.queued (sent : writer.Sent peer chunks flushed part)
    (running : writer.status = .running) (chunk : Bytes) :
    { writer with queue := writer.queue ++ [chunk] }.Sent peer (chunks ++ [chunk]) flushed part :=
  { sent with
    split := by
      rw [sent.split, List.append_assoc]
    shut := fun stopped => by cases running.symm.trans stopped
    failed := fun stopped => by cases running.symm.trans stopped }

theorem Sent.close (sent : writer.Sent peer chunks flushed part) :
    writer.close.Sent peer chunks flushed part :=
  { sent with
    shut := fun stopped => ⟨(sent.shut stopped).1, (sent.shut stopped).2.1, rfl⟩ }

theorem Sent.flush (sent : writer.Sent peer chunks flushed part)
    (running : writer.status = .running) (empty : writer.hand = [])
    (behind : writer.unflushed = true) (well : writer.flushes ≠ some 0) :
    { writer with unflushed := false, flushes := writer.flushes.map (· - 1) }.Sent peer chunks
      (flushed ++ [part]) [] := by
  have not_shut : writer.status ≠ .shut := by rw [running]; decide
  have not_failed : writer.status ≠ .failed := by rw [running]; decide
  have count : (flushed ++ [part]).length = flushed.length + 1 := List.length_append
  refine ⟨?_, ?_, fun _ => ⟨rfl, empty⟩, sent.room, sent.fits, ?_, ?_, sent.named,
    fun stopped => absurd stopped not_shut, fun stopped => absurd stopped not_failed⟩
  · rw [sent.split, behind, empty]
    simp
  · rw [sent.taken]
    simp
  · change writer.flushes.map (· - 1) = _
    rw [sent.flushes, Option.map_map, count]
    exact Option.map_congr fun most _ => Nat.sub_sub _ _ _
  · intro most limit
    have before := sent.within most limit
    have some_left : most - flushed.length ≠ 0 := fun spent =>
      well (by rw [sent.flushes, limit, Option.map_some, spent])
    omega

theorem Sent.pour {count : Nat} (sent : writer.Sent peer chunks flushed part)
    (running : writer.status = .running) (holding : writer.hand ≠ [])
    (within : ∀ room, writer.room = some room → count ≤ room) :
    { writer with
      hand := writer.hand.drop count
      taken := writer.taken ++ writer.hand.take count
      room := writer.room.map (· - (writer.hand.take count).length) }.Sent peer chunks flushed
      (part ++ writer.hand.take count) := by
  have not_shut : writer.status ≠ .shut := by rw [running]; decide
  have not_failed : writer.status ≠ .failed := by rw [running]; decide
  have behind := sent.unflushed_of_hand holding
  refine ⟨?_, ?_, ?_, ?_, ?_, sent.flushes, sent.within, sent.named,
    fun stopped => absurd stopped not_shut, fun stopped => absurd stopped not_failed⟩
  · rw [sent.split, List.append_assoc part, List.take_append_drop]
  · rw [← List.append_assoc, ← sent.taken]
  · intro impossible
    cases behind.symm.trans impossible
  · change writer.room.map (· - (writer.hand.take count).length) =
      peer.room.map (· - (writer.taken ++ writer.hand.take count).length)
    rw [sent.room, Option.map_map, List.length_append]
    exact Option.map_congr fun most _ => Nat.sub_sub _ _ _
  · intro most limit
    have before := sent.fits most limit
    have left : count ≤ most - writer.taken.length :=
      within _ (by rw [sent.room, limit, Option.map_some])
    have poured : (writer.hand.take count).length ≤ count := List.length_take_le _ _
    change (writer.taken ++ writer.hand.take count).length ≤ most
    rw [List.length_append]
    omega

theorem Sent.step (sent : writer.Sent peer chunks flushed part)
    (stepped : writer.step? amount = some (signal, after)) :
    ∃ flushed part, after.Sent peer chunks flushed part := by
  obtain ⟨running, advances⟩ := step_cases stepped
  cases advances with
  | takeUp empty behind next =>
    obtain ⟨nothing, -⟩ := sent.between behind
    refine ⟨flushed, part, { sent with split := ?_, between := ?_, shut := ?_, failed := ?_ }⟩
    · rw [sent.split, behind, next, nothing]
      simp
    · intro impossible
      cases impossible
    · exact fun stopped => by cases running.symm.trans stopped
    · exact fun stopped => by cases running.symm.trans stopped
  | shut empty behind last closed =>
    refine ⟨flushed, part, { sent with shut := fun _ => ⟨behind, last, closed⟩, failed := ?_ }⟩
    intro impossible
    cases impossible
  | fail stuck =>
    refine ⟨flushed, part, { sent with shut := ?_, failed := fun _ => stuck }⟩
    intro impossible
    cases impossible
  | flush empty behind well => exact ⟨_, _, sent.flush running empty behind well⟩
  | pour holding space some_bytes within enough => exact ⟨_, _, sent.pour running holding within⟩

theorem Sent.reached (sent : writer.Sent peer chunks flushed part)
    (behind : writer.unflushed = true) :
    ∃ later, (peer.reached chunks).flatten = writer.taken ++ writer.hand ++ later := by
  have split := sent.split
  rw [behind, if_pos rfl, List.append_assoc, List.singleton_append] at split
  cases limit : peer.flushes with
  | none =>
    refine ⟨writer.queue.flatten, ?_⟩
    simp [Peer.reached, limit, split, sent.taken]
  | some most =>
    have before := sent.within most limit
    obtain ⟨more, rfl⟩ := Nat.exists_eq_add_of_le before
    refine ⟨(writer.queue.take more).flatten, ?_⟩
    rw [Peer.reached_limited limit, split, sent.taken, Nat.add_assoc, List.take_length_add_append]
    simp

theorem Sent.of_failed (sent : writer.Sent peer chunks flushed part)
    (failed : writer.status = .failed) :
    writer.taken = peer.takes chunks ∧ peer.Fails chunks := by
  rcases sent.failed failed with ⟨holding, full⟩ | ⟨empty, behind, spent⟩
  · -- The room was used up within the chunk in hand.
    obtain ⟨later, bytes⟩ := sent.reached (sent.unflushed_of_hand holding)
    obtain ⟨most, limit, used⟩ := Option.map_eq_some_iff.mp (sent.room.symm.trans full)
    have count : writer.taken.length = most := Nat.le_antisymm (sent.fits most limit) (by omega)
    have rest : 0 < writer.hand.length := List.length_pos_iff.mpr holding
    refine ⟨?_, .inl ⟨most, limit, ?_⟩⟩
    · rw [Peer.takes_limited limit, bytes, ← count, List.append_assoc, List.take_left]
    · rw [bytes, List.length_append, List.length_append]
      omega
  · -- The chunk was taken as a whole, and the flush behind it failed.
    obtain ⟨most, limit, used⟩ := Option.map_eq_some_iff.mp (sent.flushes.symm.trans spent)
    have count : flushed.length = most := Nat.le_antisymm (sent.within most limit) (by omega)
    have split := sent.split
    rw [behind, if_pos rfl, empty, List.append_nil] at split
    have all : (peer.reached chunks).flatten = writer.taken := by
      rw [Peer.reached_limited limit, split, ← count, sent.taken, List.append_assoc,
        List.take_length_add_append]
      simp
    refine ⟨?_, .inr ⟨most, limit, ?_⟩⟩
    · rw [Peer.takes_of_enough (all ▸ sent.fits), all]
    · rw [split, ← count]
      simp

theorem Sent.of_written (sent : writer.Sent peer chunks flushed part)
    (done : writer.unflushed = false) (last : writer.queue = []) :
    writer.taken = chunks.flatten ∧ writer.taken = peer.takes chunks ∧ ¬ peer.Fails chunks := by
  obtain ⟨nothing, -⟩ := sent.between done
  have split : chunks = flushed := by
    rw [sent.split, done, last]
    simp
  have taken : writer.taken = chunks.flatten := by
    rw [sent.taken, nothing, split, List.append_nil]
  have within : ∀ most, peer.flushes = some most → chunks.length ≤ most := split ▸ sent.within
  have reached : peer.reached chunks = chunks :=
    Peer.reached_of_enough fun most limit => Nat.le_succ_of_le (within most limit)
  refine ⟨taken, ?_, ?_⟩
  · rw [Peer.takes_of_enough (by rw [reached, ← taken]; exact sent.fits), reached, taken]
  · rintro (⟨most, limit, more⟩ | ⟨most, limit, more⟩)
    · rw [reached, ← taken] at more
      exact absurd (sent.fits most limit) (Nat.not_le.mpr more)
    · exact absurd (within most limit) (Nat.not_le.mpr more)

theorem Sent.of_idle (sent : writer.Sent peer chunks flushed part)
    (idle : writer.step? amount = none) :
    writer.status = .failed ∨
      (writer.unflushed = false ∧ writer.queue = [] ∧
        (writer.accepting = false → writer.status = .shut)) := by
  rcases idle_cases idle with stopped | waits
  · cases status : writer.status with
    | failed => exact .inl rfl
    | shut => exact .inr ⟨(sent.shut status).1, (sent.shut status).2.1, fun _ => rfl⟩
    | running => exact absurd status stopped
  · exact .inr ⟨waits.flushed, waits.none_queued, fun closed => by
      cases waits.accepting.symm.trans closed⟩

end Writer

variable {link after : Link} {act : Act} {outputs told : List Output}
variable {peer : Peer} {generation : Generation}

structure Sends (peer : Peer) (generation : Generation) (link : Link) (told : List Output) : Prop where
  sent : ∃ flushed part, link.writer.Sent peer (acceptances told) flushed part
  numbered : link.generation = generation
  silent : link.writer.status ≠ .failed → pourings told = []
  once : pourings told = [] ∨ pourings told = [(generation, .failed peer.fault)]
  heard : link.writer.status = .failed → link.listening = true → pourings told ≠ []

theorem sends_start (peer : Peer) (kind : Kind) (generation : Generation) :
    Sends peer generation (start peer kind generation) [] where
  sent := ⟨[], [], Writer.sent_start peer⟩
  numbered := rfl
  silent _ := rfl
  once := .inl rfl
  heard stopped := by cases stopped

theorem Sends.still (sends : Sends peer generation link told) (same : after.writer = link.writer)
    (numbered : after.generation = link.generation)
    (heard : after.listening = true → link.listening = true) (accepts : acceptances outputs = [])
    (silent : pourings outputs = []) : Sends peer generation after (told ++ outputs) := by
  have accepted : acceptances (told ++ outputs) = acceptances told := by
    rw [acceptances_append, accepts, List.append_nil]
  have poured : pourings (told ++ outputs) = pourings told := by
    rw [pourings_append, silent, List.append_nil]
  refine ⟨?_, numbered.trans sends.numbered, ?_, ?_, ?_⟩
  · rw [same, accepted]
    exact sends.sent
  · rw [same, poured]
    exact sends.silent
  · rw [poured]
    exact sends.once
  · rw [same, poured]
    exact fun failed listening => sends.heard failed (heard listening)

theorem Sends.pour {amount : Nat} {report : Option Signal} {writer : Writer}
    (sends : Sends peer generation link told)
    (step : link.writer.step? amount = some (report, writer)) :
    Sends peer generation { link with writer } (told ++ link.telling report) := by
  obtain ⟨running, advances⟩ := Writer.step_cases step
  obtain ⟨flushed, part, before⟩ := sends.sent
  have silent : pourings told = [] := sends.silent (by rw [running]; decide)
  have sent : ∃ flushed part,
      writer.Sent peer (acceptances (told ++ link.telling report)) flushed part := by
    rw [acceptances_append, acceptances_telling, List.append_nil]
    exact before.step step
  have going (quiet : report = none) (well : writer.status ≠ .failed) :
      Sends peer generation { link with writer } (told ++ link.telling report) := by
    have nothing : pourings (told ++ link.telling report) = [] := by
      rw [quiet, telling_none, List.append_nil, silent]
    exact ⟨sent, sends.numbered, fun _ => nothing, .inl nothing, fun failed => absurd failed well⟩
  cases advances with
  | shut => exact going rfl fun impossible => by cases impossible
  | fail stuck =>
    have shows : pourings (told ++ link.telling (some (.failed link.writer.fault))) =
        if link.listening then [(generation, .failed peer.fault)] else [] := by
      rw [pourings_append, silent, pourings_telling, sends.numbered, before.named]
      rfl
    refine ⟨sent, sends.numbered, fun well => absurd rfl well, ?_, fun _ listening => ?_⟩
    · rw [shows]
      split
      · exact .inr rfl
      · exact .inl rfl
    · rw [shows, if_pos listening]
      exact List.cons_ne_nil _ _
  | _ => exact going rfl (by rw [running]; decide)

theorem Sends.step (sends : Sends peer generation link told)
    (effect : link.Effect act after outputs) : Sends peer generation after (told ++ outputs) := by
  cases effect with
  | accept chunk usable =>
    have running : link.writer.status = .running := by
      simp_all [isClosed, Writer.isClosed]
    have accepted : acceptances (told ++ [.accepted chunk]) = acceptances told ++ [chunk] :=
      acceptances_append _ _
    have poured : pourings (told ++ [.accepted chunk]) = pourings told := by
      rw [pourings_append]
      exact List.append_nil _
    refine ⟨?_, sends.numbered, ?_, ?_, ?_⟩
    · obtain ⟨flushed, part, sent⟩ := sends.sent
      rw [accepted]
      exact ⟨flushed, part, sent.queued running chunk⟩
    · rw [poured]
      exact sends.silent
    · rw [poured]
      exact sends.once
    · rw [poured]
      exact sends.heard
  | refuse chunk closed => exact sends.still rfl rfl id rfl rfl
  | close =>
    obtain ⟨flushed, part, sent⟩ := sends.sent
    rw [List.append_nil]
    exact ⟨⟨flushed, part, sent.close⟩, sends.numbered, sends.silent, sends.once, sends.heard⟩
  | drop => exact sends.still rfl rfl id rfl rfl
  | deafen => exact sends.still rfl rfl (fun deaf => by cases deaf) rfl rfl
  | receive arrival => exact sends.still rfl rfl id rfl rfl
  | report kept heard step => exact sends.still rfl rfl id rfl rfl
  | unheard kept deaf step => exact sends.still rfl rfl id rfl rfl
  | unread idle => exact sends.still rfl rfl id rfl rfl
  | pour kept step => exact sends.pour step
  | unpoured idle => exact sends.still rfl rfl id rfl rfl

theorem Sends.run (sends : Sends peer generation link told) (acts : List Act) :
    Sends peer generation (link.after acts) (told ++ link.shown acts) := by
  induction acts generalizing link told with
  | nil => exact (List.append_nil told).symm ▸ sends
  | cons act acts ih =>
    have next := ih (sends.step (link.effect_act act))
    rw [List.append_assoc] at next
    exact next

theorem Effect.stopped (effect : link.Effect act after outputs)
    (stopped : link.writer.status ≠ .running) :
    after.writer.status = link.writer.status ∧ after.writer.taken = link.writer.taken ∧
      acceptances outputs = [] ∧ pourings outputs = [] := by
  cases effect with
  | accept chunk usable =>
    refine absurd ?_ stopped
    simp_all [isClosed, Writer.isClosed]
  | pour kept step => exact absurd (Writer.step_cases step).1 stopped
  | _ => exact ⟨rfl, rfl, rfl, rfl⟩

theorem after_stopped (stopped : link.writer.status ≠ .running) (acts : List Act) :
    (link.after acts).writer.status = link.writer.status ∧
      (link.after acts).writer.taken = link.writer.taken ∧
      acceptances (link.shown acts) = [] ∧ pourings (link.shown acts) = [] := by
  induction acts generalizing link with
  | nil => exact ⟨rfl, rfl, rfl, rfl⟩
  | cons act acts ih =>
    obtain ⟨status, taken, accepts, silent⟩ := (link.effect_act act).stopped stopped
    obtain ⟨status', taken', accepts', silent'⟩ := ih (status.symm ▸ stopped)
    refine ⟨status'.trans status, taken'.trans taken, ?_, ?_⟩
    · rw [shown, acceptances_append, accepts, accepts']
      rfl
    · rw [shown, pourings_append, silent, silent']
      rfl

theorem write_eq_closed_iff (link : Link) (chunk : Bytes) :
    link.write chunk = .error .closed ↔
      link.dropped = true ∨ link.writer.accepting = false ∨ link.writer.status ≠ .running := by
  have closed : link.isClosed = true ↔
      link.dropped = true ∨ link.writer.accepting = false ∨ link.writer.status ≠ .running := by
    rw [isClosed, Writer.isClosed, Bool.or_eq_true, Bool.or_eq_true, Bool.not_eq_true', bne_iff_ne]
  rw [← closed]
  refine ⟨fun refused => ?_, fun shut => write_closed shut chunk⟩
  cases usable : link.isClosed with
  | true => rfl
  | false =>
    rw [write_open usable] at refused
    cases refused

/-- What becomes of the chunks that a link accepts, given what was done with it and what it has shown. -/
structure Delivers (peer : Peer) (generation : Generation) (acts : List Act) (link : Link)
    (told : List Output) : Prop where
  front : link.writer.taken <+: (acceptances told).flatten
  /-- An idle writer has failed just if its peer fails on these chunks, or it has written all of them. -/
  settled : .drop ∉ acts → (∀ amount, link.pour? amount = none) →
    link.writer.taken = peer.takes (acceptances told) ∧
    (link.writer.status = .failed ↔ peer.Fails (acceptances told)) ∧
    (¬ peer.Fails (acceptances told) → link.writer.taken = (acceptances told).flatten ∧
      (.close ∈ acts → link.writer.status = .shut))
  shut : link.writer.status = .shut →
    .close ∈ acts ∧ link.writer.taken = (acceptances told).flatten ∧ ¬ peer.Fails (acceptances told)
  reported : link.writer.status = .failed → .deafen ∉ acts →
    pourings told = [(generation, .failed peer.fault)]
  stopped : link.writer.status = .failed → ∀ more, (link.after more).writer.status = .failed ∧
    (link.after more).writer.taken = link.writer.taken ∧
    acceptances (link.shown more) = [] ∧ pourings (link.shown more) = []
  silent : link.writer.status ≠ .failed → pourings told = []
  refused : ∀ chunk, link.write chunk = .error .closed ↔
    .drop ∈ acts ∨ .close ∈ acts ∨ link.writer.status ≠ .running
  idles : ∃ tasks : List Act, (∀ act ∈ tasks, act.ofTask = true) ∧ (link.after tasks).Idle

/-- Whatever is done with a link, and whenever its writer makes a step: its peer has taken the front of the
chunks that were accepted, in order. Once the writer is idle this is all of them, or as much as there was room
for and as was flushed; the writer shuts down behind the last flush, and fails with a single report. -/
theorem taken_front_of_accepted (peer : Peer) (kind : Kind) (generation : Generation)
    (acts : List Act) :
    Delivers peer generation acts ((start peer kind generation).after acts)
      ((start peer kind generation).shown acts) := by
  generalize reached : (start peer kind generation).after acts = link
  generalize shows : (start peer kind generation).shown acts = told
  have sends : Sends peer generation link told :=
    reached ▸ shows ▸ (sends_start peer kind generation).run acts
  obtain ⟨flushed, part, sent⟩ := sends.sent
  have accepting : link.writer.accepting = !acts.contains .close :=
    reached ▸ Bool.not_eq_eq_eq_not.mp (closed_after _ _)
  have dropped : link.dropped = acts.contains .drop := reached ▸ dropped_after _ _
  have listening : link.listening = !acts.contains .deafen :=
    reached ▸ Bool.not_eq_eq_eq_not.mp (deaf_after _ _)
  refine ⟨⟨_, sent.conserved⟩, fun kept idle => ?_, fun shut => ?_, fun failed heard => ?_,
    fun failed more => ?_, sends.silent, fun chunk => ?_, exists_idle link⟩
  · have present : link.dropped = false := by simpa [dropped] using kept
    have resting : link.writer.step? 0 = none := by
      have quiet := idle 0
      rwa [pour?, present, if_neg Bool.false_ne_true, Option.map_eq_none_iff] at quiet
    rcases sent.of_idle resting with failed | ⟨done, last, shuts⟩
    · obtain ⟨taken, fails⟩ := sent.of_failed failed
      exact ⟨taken, ⟨fun _ => fails, fun _ => failed⟩, fun well => absurd fails well⟩
    · obtain ⟨all, taken, well⟩ := sent.of_written done last
      have not_failed : link.writer.status ≠ .failed := by
        intro failed
        exact well (sent.of_failed failed).2
      refine ⟨taken, ⟨fun failed => absurd failed not_failed, fun fails => absurd fails well⟩,
        fun _ => ⟨all, fun closed => shuts (by simpa [accepting] using closed)⟩⟩
  · obtain ⟨done, last, closed⟩ := sent.shut shut
    obtain ⟨all, -, well⟩ := sent.of_written done last
    exact ⟨by simpa [accepting] using closed, all, well⟩
  · have listens : link.listening = true := by simpa [listening] using heard
    exact sends.once.resolve_left (sends.heard failed listens)
  · obtain ⟨status, same⟩ := after_stopped (by rw [failed]; decide) more
    exact ⟨status.trans failed, same⟩
  · rw [write_eq_closed_iff, accepting, dropped]
    simp

def farewell : List Act :=
  [.write [1, 2, 3], .write [4, 5], .pour 0, .pour 2, .close, .write [6], .pour 9, .pour 0, .pour 0,
    .pour 9, .pour 0, .pour 0]

theorem taken_front_of_accepted_farewell :
    ((start ⟨[], none, none, "broken pipe"⟩ .socket 7).after farewell).writer.taken =
      [1, 2, 3, 4, 5] ∧
    ((start ⟨[], none, none, "broken pipe"⟩ .socket 7).after farewell).writer.status = .shut ∧
    ((start ⟨[], some 4, none, "broken pipe"⟩ .socket 7).after farewell).writer.taken =
      [1, 2, 3, 4] ∧
    pourings ((start ⟨[], some 4, none, "broken pipe"⟩ .socket 7).shown farewell) =
      [(7, .failed "broken pipe")] ∧
    ((start ⟨[], none, some 1, "broken pipe"⟩ .socket 7).after farewell).writer.taken =
      [1, 2, 3, 4, 5] ∧
    pourings ((start ⟨[], none, some 1, "broken pipe"⟩ .socket 7).shown farewell) =
      [(7, .failed "broken pipe")] := by
  have ample := taken_front_of_accepted ⟨[], none, none, "broken pipe"⟩ .socket 7 farewell
  have narrow := taken_front_of_accepted ⟨[], some 4, none, "broken pipe"⟩ .socket 7 farewell
  have brittle := taken_front_of_accepted ⟨[], none, some 1, "broken pipe"⟩ .socket 7 farewell
  obtain ⟨-, -, whole⟩ := ample.settled (by decide) (@pour_idle _ 0 rfl)
  obtain ⟨all, shuts⟩ := whole (Peer.not_fails_of_unlimited rfl rfl)
  obtain ⟨front, full, -⟩ := narrow.settled (by decide) (@pour_idle _ 0 rfl)
  obtain ⟨bytes, spent, -⟩ := brittle.settled (by decide) (@pour_idle _ 0 rfl)
  have scarce := full.mpr (.inl ⟨4, rfl, by decide⟩)
  have unflushed := spent.mpr (.inr ⟨1, rfl, by decide⟩)
  exact ⟨all.trans (by decide), shuts (by decide), front.trans (by decide),
    narrow.reported scarce (by decide), bytes.trans (by decide),
    brittle.reported unflushed (by decide)⟩

end EngineClient.Link
