import EngineClient.Proofs.Dispatcher.Causes
import EngineClient.Proofs.Dispatcher.Stops

/-!
The restart timer and the decisions of the policy: a decision for a delay sets the deadline, in place of
an older one; a refusal leaves the deadline as it is.
-/

namespace EngineClient

/-- The decision is against a restart that no call asks for. -/
def Restart.Decision.refuses : Restart.Decision → Bool
  | .suppressed => true
  | .after _ => false
  | .gaveUp => true

namespace Dispatcher

structure Ruling where
  time : Nat
  decision : Restart.Decision
  deriving DecidableEq

/-- The deadline once a decision is taken. -/
def rearm (deadline : Option Nat) (ruling : Ruling) : Option Nat :=
  match ruling.decision with
  | .suppressed => deadline
  | .after delay => some (ruling.time + delay.nanos)
  | .gaveUp => deadline

def Effect.decision? : Effect → Option Restart.Decision
  | .decided decision => some decision
  | _ => none

def rulings (now : Nat) (effects : List Effect) : List Ruling :=
  (effects.filterMap Effect.decision?).map (Ruling.mk now)

variable {dispatcher : Dispatcher} {now : Nat} {effects : List Effect}

theorem rulings_append (now : Nat) (first second : List Effect) :
    rulings now (first ++ second) = rulings now first ++ rulings now second := by
  simp [rulings]

theorem rulings_going (going : ∀ effect ∈ effects, effect.goesOn = true) :
    rulings now effects = [] := by
  refine List.map_eq_nil_iff.mpr (List.filterMap_eq_nil_iff.mpr ?_)
  intro effect present
  have goes := going effect present
  cases effect with
  | decided decision => cases goes
  | _ => rfl

theorem foldl_rearm_refused {rulings : List Ruling}
    (refused : ∀ ruling ∈ rulings, ruling.decision.refuses = true) (deadline : Option Nat) :
    rulings.foldl rearm deadline = deadline := by
  induction rulings with
  | nil => rfl
  | cons ruling rest ih =>
    obtain ⟨refuses, later⟩ := List.forall_mem_cons.mp refused
    have same : rearm deadline ruling = deadline := by
      cases decision : ruling.decision with
      | suppressed => simp [rearm, decision]
      | after delay => simp [decision, Restart.Decision.refuses] at refuses
      | gaveUp => simp [rearm, decision]
    rw [List.foldl_cons, same, ih later]

theorem foldl_rearm_none (rulings : List Ruling) (deadline : Option Nat) :
    rulings.foldl rearm none = none ∨
      rulings.foldl rearm none = rulings.foldl rearm deadline := by
  induction rulings with
  | nil => exact .inl rfl
  | cons ruling rest ih =>
    simp only [List.foldl_cons, rearm]
    cases ruling.decision with
    | suppressed => exact ih
    | after delay => exact .inr rfl
    | gaveUp => exact ih

theorem cases_of_foldl_rearm {rulings : List Ruling} {before : Option Nat} {deadline : Nat}
    (set : rulings.foldl rearm before = some deadline) :
    (before = some deadline ∧ ∀ ruling ∈ rulings, ruling.decision.refuses = true) ∨
    ∃ earlier time delay refusals, rulings = earlier ++ ⟨time, .after delay⟩ :: refusals ∧
      (∀ ruling ∈ refusals, ruling.decision.refuses = true) ∧ deadline = time + delay.nanos := by
  induction rulings generalizing before with
  | nil => exact .inl ⟨set, by simp⟩
  | cons ruling rest ih =>
    obtain ⟨time, decision⟩ := ruling
    rcases ih set with ⟨armed, refused⟩ | ⟨earlier, since, delay, refusals, rfl, refused, same⟩
    · cases decision with
      | suppressed => exact .inl ⟨armed, List.forall_mem_cons.mpr ⟨rfl, refused⟩⟩
      | after delay => exact .inr ⟨[], time, delay, rest, rfl, refused, (Option.some.inj armed).symm⟩
      | gaveUp => exact .inl ⟨armed, List.forall_mem_cons.mpr ⟨rfl, refused⟩⟩
    · exact .inr ⟨⟨time, decision⟩ :: earlier, since, delay, refusals, rfl, refused, same⟩

/-- A step leaves the timer off, or as its decisions have it. -/
def Timed (before : Dispatcher) (now : Nat) (result : Dispatcher × List Effect) : Prop :=
  result.1.restartAt = none ∨
    result.1.restartAt = (rulings now result.2).foldl rearm before.restartAt

theorem timed_schedule (dispatcher : Dispatcher) (now : Nat) (decision : Restart.Decision) :
    Timed dispatcher now (dispatcher.schedule now decision) := by
  cases decision with
  | suppressed => exact .inr rfl
  | gaveUp => exact .inr rfl
  | after delay =>
    by_cases late : clockEnd ≤ now + delay.nanos
    · rw [schedule_overrun late]
      exact .inl rfl
    · have early : now + delay.nanos < clockEnd := Nat.lt_of_not_le late
      rw [schedule, if_pos early]
      exact .inr rfl

theorem foldl_rearm_kept {before between : Dispatcher} (timer : KeepsTimer before between)
    (rulings : List Ruling) :
    rulings.foldl rearm between.restartAt = none ∨
      rulings.foldl rearm between.restartAt = rulings.foldl rearm before.restartAt := by
  rcases timer with same | off
  · exact .inr (by rw [same])
  · rw [off]
    exact foldl_rearm_none rulings before.restartAt

/-- Whatever is handled, the timer is off afterwards, or as the decisions have it that were taken. -/
theorem timed_handle (stimulus : Stimulus) :
    Timed dispatcher now (dispatcher.handle now stimulus) := by
  by_cases asked : stimulus = .shutdown
  · rw [asked]
    exact .inl rfl
  · have decides : Decides dispatcher now (dispatcher.handle now stimulus) := decides_handle asked
    generalize dispatcher.handle now stimulus = result at decides ⊢
    cases decides with
    | nothing timer going =>
      rw [Timed, rulings_going going]
      exact timer.symm
    | @scheduled between effects timer going decision =>
      rw [Timed, rulings_append, rulings_going going, List.nil_append]
      rcases timed_schedule between now decision with off | ruled
      · exact .inl off
      · rw [ruled]
        exact foldl_rearm_kept timer _

theorem cause_of_attempted {stimulus : Stimulus} {generation : Link.Generation} {opened : Bool}
    (shows : .attempted generation opened ∈ (dispatcher.handle now stimulus).2) :
    (∃ number request attempt writable, stimulus = .call number request attempt writable) ∨
    (∃ attempt deadline, stimulus = .timer attempt ∧ dispatcher.restartAt = some deadline ∧
      deadline ≤ now) := by
  cases stimulus with
  | call number request attempt writable => exact .inl ⟨number, request, attempt, writable, rfl⟩
  | signal generation signal => exact absurd (mem_signal shows) (by simp)
  | timer attempt =>
    cases due : dispatcher.isDue now with
    | false =>
      rw [handle, restart_early due] at shows
      cases shows
    | true =>
      rw [isDue, Option.any_eq_true] at due
      obtain ⟨deadline, set, passed⟩ := due
      exact .inr ⟨attempt, deadline, rfl, set, of_decide_eq_true passed⟩
  | stats => simp [handle] at shows
  | shutdown => exact absurd (mem_shutdown shows) (by simp)

end Dispatcher

end EngineClient
