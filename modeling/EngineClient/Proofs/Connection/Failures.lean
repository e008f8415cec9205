import EngineClient.Proofs.Dispatcher.Steps
import EngineClient.Proofs.Link.Tasks
import EngineClient.Simulation.Bench
import Mathlib.Data.List.DropRight
import Mathlib.Data.List.Perm.Subperm

/-!
The books of a connection under any use: at most one link is live, its generation is the number of attempts
to open one, and the failures are the failed attempts and the losses since a live link last delivered.
What names a generation that is not live leaves all of this alone.
-/

namespace EngineClient

namespace Connection

variable {connection : Connection}

theorem ensureLive_opened (down : connection.live = none) :
    connection.ensureLive (.ok ()) = (.ok (connection.generation + 1), connection.opened) := by
  simp [ensureLive, down, opened]

theorem ensureLive_failed (down : connection.live = none) (error : Link.Error) :
    connection.ensureLive (.error error) = (.error error, connection.failed) := by
  simp [ensureLive, down, failed]

/-- What holds of a connection at any time, given the generations that have failed and how many of them did so
since a live link last delivered. -/
structure Accounted (connection : Connection) (failed : List Link.Generation) (recent : Nat) : Prop where
  newest : ∀ generation, connection.live = some generation →
    generation = connection.generation ∧ 0 < generation
  tallied : connection.failures = UInt32.ofNat recent
  once : failed.Nodup
  past : ∀ generation ∈ failed, 0 < generation ∧ generation ≤ connection.generation ∧
    connection.live ≠ some generation

variable {failed : List Link.Generation} {recent : Nat}

theorem accounted_new (policy : Restart.Policy) : (new policy).Accounted [] 0 where
  newest _ impossible := by cases impossible
  tallied := rfl
  once := List.nodup_nil
  past _ impossible := by cases impossible

theorem Accounted.tallied_succ (accounted : connection.Accounted failed recent) :
    connection.failures + 1 = UInt32.ofNat (recent + 1) := by
  rw [accounted.tallied, UInt32.ofNat_add]
  rfl

theorem Accounted.once_more (accounted : connection.Accounted failed recent)
    {generation : Link.Generation} (fresh : generation ∉ failed) :
    (failed ++ [generation]).Nodup := by
  refine List.nodup_append.mpr ⟨accounted.once, List.nodup_singleton _, ?_⟩
  rintro other present _ single rfl
  obtain rfl := List.mem_singleton.mp single
  exact fresh present

theorem accounted_opened (accounted : connection.Accounted failed recent) :
    connection.opened.Accounted failed recent where
  newest := by
    rintro generation ⟨⟩
    exact ⟨rfl, Nat.succ_pos _⟩
  tallied := accounted.tallied
  once := accounted.once
  past := by
    intro generation present
    obtain ⟨positive, earlier, -⟩ := accounted.past generation present
    refine ⟨positive, Nat.le_succ_of_le earlier, ?_⟩
    rintro ⟨⟩
    exact Nat.not_succ_le_self _ earlier

theorem accounted_failed (accounted : connection.Accounted failed recent)
    (down : connection.live = none) :
    connection.failed.Accounted (failed ++ [connection.generation + 1]) (recent + 1) where
  newest := by
    intro generation live
    cases down.symm.trans live
  tallied := accounted.tallied_succ
  once := accounted.once_more fun present =>
    Nat.not_succ_le_self _ (accounted.past _ present).2.1
  past := by
    have dead (generation : Link.Generation) : connection.failed.live ≠ some generation := by
      intro live
      cases down.symm.trans live
    intro generation present
    rcases List.mem_append.mp present with before | now
    · obtain ⟨positive, earlier, -⟩ := accounted.past generation before
      exact ⟨positive, Nat.le_succ_of_le earlier, dead generation⟩
    · obtain rfl := List.mem_singleton.mp now
      exact ⟨Nat.succ_pos _, Nat.le_refl _, dead _⟩

theorem accounted_lost (accounted : connection.Accounted failed recent)
    {generation : Link.Generation} (live : connection.live = some generation) :
    connection.lost.Accounted (failed ++ [generation]) (recent + 1) where
  newest := by rintro other ⟨⟩
  tallied := accounted.tallied_succ
  once := accounted.once_more fun present => (accounted.past generation present).2.2 live
  past := by
    intro other present
    rcases List.mem_append.mp present with before | now
    · obtain ⟨positive, earlier, -⟩ := accounted.past other before
      exact ⟨positive, earlier, by rintro ⟨⟩⟩
    · obtain rfl := List.mem_singleton.mp now
      obtain ⟨same, positive⟩ := accounted.newest other live
      exact ⟨positive, Nat.le_of_eq same, by rintro ⟨⟩⟩

theorem accounted_healed (accounted : connection.Accounted failed recent) :
    ({ connection with failures := 0 } : Connection).Accounted failed 0 :=
  ⟨accounted.newest, rfl, accounted.once, accounted.past⟩

theorem accounted_shutdown (accounted : connection.Accounted failed recent) :
    connection.shutdown.Accounted failed recent where
  newest := by rintro generation ⟨⟩
  tallied := accounted.tallied
  once := accounted.once
  past := by
    intro generation present
    obtain ⟨positive, earlier, -⟩ := accounted.past generation present
    exact ⟨positive, earlier, by rintro ⟨⟩⟩

theorem Accounted.length_failed (accounted : connection.Accounted failed recent) :
    failed.length + connection.live.toList.length ≤ connection.generation := by
  have distinct : (failed ++ connection.live.toList).Nodup := by
    refine List.nodup_append.mpr ⟨accounted.once, ?_, ?_⟩
    · cases connection.live <;> simp
    · rintro generation present _ live rfl
      exact (accounted.past generation present).2.2 (Option.mem_toList.mp live)
  have within : failed ++ connection.live.toList ⊆ List.range' 1 connection.generation := by
    intro generation present
    have bounds : 0 < generation ∧ generation ≤ connection.generation := by
      rcases List.mem_append.mp present with before | live
      · exact ⟨(accounted.past generation before).1, (accounted.past generation before).2.1⟩
      · obtain ⟨same, positive⟩ := accounted.newest generation (Option.mem_toList.mp live)
        exact ⟨positive, Nat.le_of_eq same⟩
    exact List.mem_range'_1.mpr ⟨bounds.1, Nat.lt_one_add_iff.mpr bounds.2⟩
  have short := (distinct.subperm within).length_le
  rwa [List.length_append, List.length_range'] at short

end Connection

namespace Simulation.Bench

/-- Something is asked of the connection, or the tasks of the live link run. -/
inductive Turn where
  | step (step : Step)
  | tasks

def turn (bench : Bench) : Turn → Bench
  | .step step => (bench.perform step).2
  | .tasks => bench.settle.2

def after (bench : Bench) (turns : List Turn) : Bench := turns.foldl turn bench

/-- What bears on the count of failures: an attempt failed, the live link was lost, or it delivered. -/
inductive Mark where
  | failed (generation : Link.Generation)
  | lost (generation : Link.Generation)
  | healed (generation : Link.Generation)

def Mark.failure? : Mark → Option Link.Generation
  | .failed generation => some generation
  | .lost generation => some generation
  | .healed _ => none

def Mark.fails (mark : Mark) : Bool := mark.failure?.isSome

/-- What a turn leaves in the books, going by the answers, the attempts made and the link that is there. -/
def mark? (bench : Bench) : Turn → Option Mark
  | .step .start =>
    match bench.perform .start with
    | (.failed _, after) => some (.failed after.attempts.length)
    | _ => none
  | .step (.lose generation) =>
    match bench.perform (.lose generation) with
    | (.decided _, _) => some (.lost generation)
    | _ => none
  | .step (.heal generation) =>
    if bench.link.map Link.generation = some generation then some (.healed generation) else none
  | _ => none

def marks (bench : Bench) : List Turn → List Mark
  | [] => []
  | turn :: turns => (bench.mark? turn).toList ++ (bench.turn turn).marks turns

def failures (marks : List Mark) : List Link.Generation := marks.filterMap Mark.failure?

def recent (marks : List Mark) : List Mark := marks.rtakeWhile Mark.fails

variable {bench : Bench} {marks : List Mark}

theorem after_cons (turn : Turn) (turns : List Turn) :
    bench.after (turn :: turns) = (bench.turn turn).after turns := rfl

@[simp] theorem failures_append (first second : List Mark) :
    failures (first ++ second) = failures first ++ failures second := List.filterMap_append

theorem recent_failing {mark : Mark} (fails : mark.fails = true) :
    recent (marks ++ [mark]) = recent marks ++ [mark] := List.rtakeWhile_concat_pos _ _ _ fails

theorem recent_healed (generation : Link.Generation) :
    recent (marks ++ [.healed generation]) = [] :=
  List.rtakeWhile_concat_neg _ _ _ (by simp [Mark.fails, Mark.failure?])

theorem failures_healed (generation : Link.Generation) :
    failures (marks ++ [.healed generation]) = failures marks := by
  rw [failures_append]
  exact List.append_nil _

theorem length_recent_le (marks : List Mark) : (recent marks).length ≤ (failures marks).length := by
  have all : (recent marks).length = (failures (recent marks)).length := by
    rw [failures, List.length_filterMap_eq_countP, eq_comm, List.countP_eq_length]
    intro mark present
    have fails : mark.fails = true := List.mem_rtakeWhile_imp present
    exact fails
  rw [all]
  exact ((List.rtakeWhile_suffix _ _).sublist.filterMap _).length_le

theorem start_found (linked : bench.link.map Link.generation = bench.connection.live) {link : Link}
    (there : bench.link = some link) : bench.perform .start = (.started link, bench) := by
  have live : bench.connection.live = some link.generation := by
    rw [← linked, there]
    rfl
  simp [perform, start, live, there]

theorem start_opened (down : bench.connection.live = none) {peer : Link.Peer}
    (attempt : (Outcome.next bench.script).attempt = .ok peer) :
    ∃ link, link.generation = bench.connection.generation + 1 ∧
      bench.perform .start = (.started link, { bench with
        connection := bench.connection.opened
        script := bench.script.tail
        attempts := bench.attempts ++ [Outcome.next bench.script]
        link := some link }) := by
  have opened := Connection.ensureLive_opened down
  refine ⟨Link.start peer bench.kind (bench.connection.generation + 1), rfl, ?_⟩
  simp [perform, start, down, attempt, Except.map, opened, Connection.opened]

theorem start_refused (down : bench.connection.live = none) (unlinked : bench.link = none)
    {error : Link.Error} (attempt : (Outcome.next bench.script).attempt = .error error) :
    bench.perform .start = (.failed error, { bench with
      connection := bench.connection.failed
      script := bench.script.tail
      attempts := bench.attempts ++ [Outcome.next bench.script] }) := by
  have failed := Connection.ensureLive_failed down error
  simp [perform, start, down, unlinked, attempt, Except.map, failed]

theorem start_cases (linked : bench.link.map Link.generation = bench.connection.live) :
    (∃ link, bench.link = some link ∧ bench.perform .start = (.started link, bench)) ∨
    (bench.link = none ∧ bench.connection.live = none ∧
      ((∃ link, link.generation = bench.connection.generation + 1 ∧
        bench.perform .start = (.started link,
          { bench with
            connection := bench.connection.opened
            script := bench.script.tail
            attempts := bench.attempts ++ [Outcome.next bench.script]
            link := some link })) ∨
      ∃ error, bench.perform .start = (.failed error,
        { bench with
          connection := bench.connection.failed
          script := bench.script.tail
          attempts := bench.attempts ++ [Outcome.next bench.script] }))) := by
  cases there : bench.link with
  | some link => exact .inl ⟨link, rfl, start_found linked there⟩
  | none =>
    have down : bench.connection.live = none := by
      rw [← linked, there]
      rfl
    refine .inr ⟨rfl, down, ?_⟩
    cases attempt : (Outcome.next bench.script).attempt with
    | ok peer => exact .inl (start_opened down attempt)
    | error error => exact .inr ⟨error, there ▸ start_refused down there attempt⟩

/-- What a turn does to the connection, its link and the attempts made, with the mark that it leaves. -/
inductive Booking (before after : Bench) : Option Mark → Prop where
  | kept (connection : after.connection = before.connection)
      (link : after.link.map Link.generation = before.link.map Link.generation)
      (attempts : after.attempts = before.attempts) : Booking before after none
  | opened (down : before.link = none) (connection : after.connection = before.connection.opened)
      (link : after.link.map Link.generation = some (before.connection.generation + 1))
      (outcome : Outcome) (attempts : after.attempts = before.attempts ++ [outcome]) :
      Booking before after none
  | failed (down : before.link = none) (connection : after.connection = before.connection.failed)
      (link : after.link = none) (outcome : Outcome)
      (attempts : after.attempts = before.attempts ++ [outcome]) :
      Booking before after (some (.failed after.attempts.length))
  | lost {generation : Link.Generation} (live : before.connection.live = some generation)
      (connection : after.connection = before.connection.lost) (link : after.link = none)
      (attempts : after.attempts = before.attempts) : Booking before after (some (.lost generation))
  | healed {generation : Link.Generation} (live : before.connection.live = some generation)
      (connection : after.connection = { before.connection with failures := 0 })
      (link : after.link = before.link) (attempts : after.attempts = before.attempts) :
      Booking before after (some (.healed generation))
  | closed (connection : after.connection = before.connection.shutdown) (link : after.link = none)
      (attempts : after.attempts = before.attempts) : Booking before after none

theorem lose_stale {generation : Link.Generation}
    (stale : bench.connection.live ≠ some generation) :
    bench.perform (.lose generation) = (.nothing, bench) := by
  simp [perform, Connection.lose_stale stale]

theorem lose_current {generation : Link.Generation}
    (current : bench.connection.live = some generation) :
    bench.perform (.lose generation) = (.decided bench.connection.lost.decision,
      { bench with connection := bench.connection.lost, link := none }) := by
  simp [perform, Connection.lose_current current]

theorem heal_stale {generation : Link.Generation}
    (stale : bench.connection.live ≠ some generation) :
    bench.perform (.heal generation) = (.nothing, bench) := by
  simp [perform, Connection.markHealthy, Connection.isCurrent, stale]

theorem heal_current {generation : Link.Generation}
    (current : bench.connection.live = some generation) :
    bench.perform (.heal generation) =
      (.nothing, { bench with connection := { bench.connection with failures := 0 } }) := by
  simp [perform, Connection.markHealthy, Connection.isCurrent, current]

theorem generation_hangUp (attempt : Nat) :
    (bench.hangUp attempt).link.map Link.generation = bench.link.map Link.generation := by
  rw [hangUp]
  split
  · rw [Option.map_map]
    congr 1
    funext link
    by_cases own : link.generation = attempt + 1
    · simp [own, Link.receive]
    · simp [own]
  · rfl

theorem hangUp_connection (attempt : Nat) :
    (bench.hangUp attempt).connection = bench.connection ∧
      (bench.hangUp attempt).attempts = bench.attempts := by
  rw [hangUp]
  split <;> exact ⟨rfl, rfl⟩

theorem booking_tasks (bench : Bench) : Booking bench bench.settle.2 none := by
  cases there : bench.link with
  | none =>
    rw [settle, there]
    exact .kept rfl rfl rfl
  | some link =>
    simp only [settle, there]
    exact .kept rfl (by simp [there, Link.generation_run]) rfl

theorem booking_turn (linked : bench.link.map Link.generation = bench.connection.live)
    (turn : Turn) : Booking bench (bench.turn turn) (bench.mark? turn) := by
  cases turn with
  | tasks => exact booking_tasks bench
  | step step =>
    cases step with
    | start =>
      rcases start_cases linked with ⟨link, there, found⟩ | ⟨down, -, ⟨link, own, opened⟩ | ⟨error, failed⟩⟩
      · simp only [Bench.turn, mark?, found]
        exact .kept rfl rfl rfl
      · simp only [Bench.turn, mark?, opened]
        exact .opened down rfl (congrArg some own) _ rfl
      · simp only [Bench.turn, mark?, failed]
        exact .failed down rfl down _ rfl
    | lose generation =>
      by_cases current : bench.connection.live = some generation
      · simp only [Bench.turn, mark?, lose_current current]
        exact .lost current rfl rfl rfl
      · simp only [Bench.turn, mark?, lose_stale current]
        exact .kept rfl rfl rfl
    | heal generation =>
      by_cases current : bench.connection.live = some generation
      · have there : bench.link.map Link.generation = some generation := linked.trans current
        simp only [Bench.turn, mark?, heal_current current, there, if_true]
        exact .healed current rfl rfl rfl
      · have gone : bench.link.map Link.generation ≠ some generation := linked ▸ current
        simp only [Bench.turn, mark?, heal_stale current, gone, if_false]
        exact .kept rfl rfl rfl
    | shutdown => exact .closed rfl rfl rfl
    | isCurrent generation => exact .kept rfl rfl rfl
    | hangUp attempt =>
      exact .kept (hangUp_connection attempt).1 (generation_hangUp attempt)
        (hangUp_connection attempt).2

theorem attempts_turn (linked : bench.link.map Link.generation = bench.connection.live) {turn : Turn}
    (other : turn = .step .start → bench.link ≠ none) :
    (bench.turn turn).attempts = bench.attempts := by
  cases turn with
  | tasks =>
    rw [Bench.turn, settle]
    split <;> rfl
  | step step =>
    cases step with
    | start =>
      rcases start_cases linked with ⟨link, -, found⟩ | ⟨down, -⟩
      · simp only [Bench.turn, found]
      · exact absurd down (other rfl)
    | lose generation =>
      by_cases current : bench.connection.live = some generation
      · simp only [Bench.turn, lose_current current]
      · simp only [Bench.turn, lose_stale current]
    | heal generation => rfl
    | shutdown => rfl
    | isCurrent generation => rfl
    | hangUp attempt => exact (hangUp_connection attempt).2

structure Booked (bench : Bench) (marks : List Mark) : Prop where
  linked : bench.link.map Link.generation = bench.connection.live
  counted : bench.connection.generation = bench.attempts.length
  accounted : bench.connection.Accounted (failures marks) (recent marks).length

theorem booked_new (kind : Link.Kind) (policy : Restart.Policy) (script : List Outcome) :
    Booked (new kind policy script) [] := ⟨rfl, rfl, Connection.accounted_new policy⟩

theorem length_recent_failing {mark : Mark} (fails : mark.fails = true) :
    (recent (marks ++ [mark])).length = (recent marks).length + 1 := by
  rw [recent_failing fails, List.length_append, List.length_singleton]

section Booking

variable {after : Bench} {mark : Option Mark} (booked : Booked bench marks)
include booked

theorem Booked.down_of_unlinked (down : bench.link = none) : bench.connection.live = none := by
  rw [← booked.linked, down]
  rfl

theorem Booking.linked (booking : Booking bench after mark) :
    after.link.map Link.generation = after.connection.live := by
  cases booking with
  | kept connection link attempts => rw [link, connection, booked.linked]
  | opened down connection link outcome attempts =>
    rw [link, connection]
    rfl
  | failed down connection link outcome attempts =>
    rw [link, connection]
    exact (booked.down_of_unlinked down).symm
  | lost live connection link attempts =>
    rw [link, connection]
    rfl
  | healed live connection link attempts =>
    rw [link, connection]
    exact booked.linked
  | closed connection link attempts =>
    rw [link, connection]
    rfl

theorem Booking.counted (booking : Booking bench after mark) :
    after.connection.generation = after.attempts.length := by
  cases booking with
  | kept connection link attempts => rw [connection, attempts, booked.counted]
  | opened down connection link outcome attempts =>
    rw [connection, attempts, List.length_append, ← booked.counted]
    rfl
  | failed down connection link outcome attempts =>
    rw [connection, attempts, List.length_append, ← booked.counted]
    rfl
  | lost live connection link attempts =>
    rw [connection, attempts]
    exact booked.counted
  | healed live connection link attempts =>
    rw [connection, attempts]
    exact booked.counted
  | closed connection link attempts =>
    rw [connection, attempts]
    exact booked.counted

theorem Booking.accounted (booking : Booking bench after mark) :
    after.connection.Accounted (failures (marks ++ mark.toList))
      (recent (marks ++ mark.toList)).length := by
  have counted := booking.counted booked
  cases booking with
  | kept connection link attempts =>
    rw [Option.toList_none, List.append_nil, connection]
    exact booked.accounted
  | opened down connection link outcome attempts =>
    rw [Option.toList_none, List.append_nil, connection]
    exact Connection.accounted_opened booked.accounted
  | failed down connection link outcome attempts =>
    -- The mark carries the number of attempts, which is the generation that has just failed.
    have number : after.attempts.length = bench.connection.generation + 1 := by
      rw [← counted, connection]
      rfl
    rw [Option.toList_some, number, connection, failures_append, length_recent_failing rfl]
    exact Connection.accounted_failed booked.accounted (booked.down_of_unlinked down)
  | lost live connection link attempts =>
    rw [Option.toList_some, connection, failures_append, length_recent_failing rfl]
    exact Connection.accounted_lost booked.accounted live
  | healed live connection link attempts =>
    rw [Option.toList_some, connection, failures_healed, recent_healed]
    exact Connection.accounted_healed booked.accounted
  | closed connection link attempts =>
    rw [Option.toList_none, List.append_nil, connection]
    exact Connection.accounted_shutdown booked.accounted

end Booking

theorem booked_turn (booked : Booked bench marks) (turn : Turn) :
    Booked (bench.turn turn) (marks ++ (bench.mark? turn).toList) := by
  have booking := booking_turn booked.linked turn
  exact ⟨booking.linked booked, booking.counted booked, booking.accounted booked⟩

theorem booked_after (booked : Booked bench marks) (turns : List Turn) :
    Booked (bench.after turns) (marks ++ bench.marks turns) := by
  induction turns generalizing bench marks with
  | nil => simpa [after, Bench.marks] using booked
  | cons turn turns ih =>
    rw [after_cons, Bench.marks, ← List.append_assoc]
    exact ih (booked_turn booked turn)

/-- What the books of a connection say after any use, given the marks that it has left: which link is live,
what an attempt and a loss do to the count of failures, and what that count is. -/
structure Books (bench : Bench) (marks : List Mark) : Prop where
  linked : bench.link.map Link.generation = bench.connection.live
  newest : ∀ generation, bench.connection.live = some generation →
    generation = bench.connection.generation
  numbered : bench.connection.generation = bench.attempts.length
  found : ∀ link, bench.link = some link → bench.perform .start = (.started link, bench)
  opened : bench.link = none → ∀ peer, (Outcome.next bench.script).attempt = .ok peer →
    ∃ link, link.generation = bench.connection.generation + 1 ∧
      bench.perform .start = (.started link, { bench with
        connection := { bench.connection with
          generation := bench.connection.generation + 1
          live := some (bench.connection.generation + 1) }
        script := bench.script.tail
        attempts := bench.attempts ++ [Outcome.next bench.script]
        link := some link })
  refused : bench.link = none → ∀ error, (Outcome.next bench.script).attempt = .error error →
    bench.perform .start = (.failed error, { bench with
      connection := { bench.connection with
        generation := bench.connection.generation + 1
        failures := bench.connection.failures + 1 }
      script := bench.script.tail
      attempts := bench.attempts ++ [Outcome.next bench.script] })
  /-- Only a start that finds no link makes an attempt. -/
  attempts : ∀ turn, (turn = .step .start → bench.link ≠ none) →
    (bench.turn turn).attempts = bench.attempts
  /-- A loss of the live link is accepted, drops the link and counts as a failure. -/
  lost : ∀ generation, bench.connection.live = some generation →
    bench.perform (.lose generation) =
      (.decided (bench.connection.policy.decision (bench.connection.failures + 1)), { bench with
        connection := { bench.connection with
          live := none
          failures := bench.connection.failures + 1 }
        link := none })
  healed : ∀ generation, bench.connection.live = some generation →
    bench.perform (.heal generation) =
      (.nothing, { bench with connection := { bench.connection with failures := 0 } })
  stale : ∀ generation, bench.connection.live ≠ some generation →
    bench.perform (.lose generation) = (.nothing, bench) ∧
    bench.perform (.heal generation) = (.nothing, bench)
  /-- A link that is shut down is dropped and counts for nothing. -/
  closed : bench.perform .shutdown = (.nothing, { bench with
    connection := { bench.connection with live := none }
    link := none })
  counted : (recent marks).length < UInt32.size →
    bench.connection.failures.toNat = (recent marks).length
  once : (failures marks).Nodup
  unfailed : ∀ generation, bench.connection.live = some generation → generation ∉ failures marks
  bounded : bench.connection.failures.toNat + bench.connection.live.toList.length ≤
    bench.connection.generation

theorem Booked.toNat_failures (booked : Booked bench marks) :
    bench.connection.failures.toNat = (recent marks).length % UInt32.size := by
  rw [booked.accounted.tallied]
  exact UInt32.toNat_ofNat

theorem Booked.bounded (booked : Booked bench marks) :
    bench.connection.failures.toNat + bench.connection.live.toList.length ≤
      bench.connection.generation := by
  have few : bench.connection.failures.toNat ≤ (failures marks).length := by
    rw [booked.toNat_failures]
    exact (Nat.mod_le _ _).trans (length_recent_le marks)
  calc
    _ ≤ (failures marks).length + bench.connection.live.toList.length :=
      Nat.add_le_add_right few _
    _ ≤ bench.connection.generation := booked.accounted.length_failed

/-- However a connection is used: one link at most is live, and it is of the newest generation. The
generation is the number of attempts made; an attempt is made by a start that finds no link, and by
nothing else. The failures are, in the count of 32 bits, the failed attempts and the losses since a live link
last delivered; no generation fails twice, and the live one has not failed, so that the failures and the live
link are no more than the attempts. The live generation is given up when it is lost, and what names any
other does nothing. -/
theorem failures_accounted (kind : Link.Kind) (policy : Restart.Policy) (script : List Outcome)
    (turns : List Turn) :
    Books ((new kind policy script).after turns) ((new kind policy script).marks turns) := by
  have booked : Booked ((new kind policy script).after turns)
      ((new kind policy script).marks turns) := by
    simpa using booked_after (booked_new kind policy script) turns
  generalize (new kind policy script).after turns = bench at booked ⊢
  generalize (new kind policy script).marks turns = marks at booked ⊢
  have accounted := booked.accounted
  exact {
    linked := booked.linked
    newest := fun generation live => (accounted.newest generation live).1
    numbered := booked.counted
    found := fun link there => start_found booked.linked there
    opened := fun down peer => start_opened (booked.down_of_unlinked down)
    refused := fun down error => start_refused (booked.down_of_unlinked down) down
    attempts := fun turn => attempts_turn booked.linked
    lost := fun generation => lose_current
    healed := fun generation => heal_current
    stale := fun generation stale => ⟨lose_stale stale, heal_stale stale⟩
    closed := rfl
    counted := fun few => by rw [booked.toNat_failures, Nat.mod_eq_of_lt few]
    once := accounted.once
    unfailed := fun generation live failed => (accounted.past generation failed).2.2 live
    bounded := booked.bounded }

end Simulation.Bench

end EngineClient
