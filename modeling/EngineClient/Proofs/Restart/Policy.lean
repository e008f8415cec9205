import EngineClient.Restart.Policy
import Mathlib.Tactic.SplitIfs
import Mathlib.Order.Lattice

/-!
The restart policy counts as one would in unbounded numbers: no step of it wraps. As failures go on, they
are tolerated first, then answered by delays that double up to the longest, and given up on last.
-/

namespace EngineClient.Restart

/-- The order in which the decisions come while failures go on. -/
def Decision.phase : Decision → Nat
  | .suppressed => 0
  | .after _ => 1
  | .gaveUp => 2

namespace Policy

variable {policy : Policy}

/-- The delay, counted without bounds. -/
def backoff (policy : Policy) (attempt : Nat) : Nat :=
  min (policy.base.nanos * Nat.pow 2 attempt) policy.longest.nanos

theorem toNat_factor (attempt : UInt32) :
    (factor attempt).toNat = min (Nat.pow 2 attempt.toNat) 0xFFFFFFFF := by
  by_cases small : attempt < 32
  · have places : attempt.toNat < 32 := UInt32.lt_iff_toNat_lt.mp small
    have narrow : Nat.pow 2 attempt.toNat ≤ Nat.pow 2 31 :=
      Nat.pow_le_pow_right (by decide) (Nat.le_of_lt_succ places)
    calc
      (factor attempt).toNat = 1 <<< (attempt.toNat % 32) % Nat.pow 2 32 := by
        rw [factor, if_pos small, UInt32.toNat_shiftLeft]
        rfl
      _ = Nat.pow 2 attempt.toNat % Nat.pow 2 32 := by
        rw [Nat.mod_eq_of_lt places, Nat.one_shiftLeft]
        rfl
      _ = Nat.pow 2 attempt.toNat := Nat.mod_eq_of_lt (Nat.lt_of_le_of_lt narrow (by decide))
      _ = min (Nat.pow 2 attempt.toNat) 0xFFFFFFFF :=
        (Nat.min_eq_left (Nat.le_trans narrow (by decide))).symm
  · have wide : Nat.pow 2 32 ≤ Nat.pow 2 attempt.toNat :=
      Nat.pow_le_pow_right (by decide) (UInt32.le_iff_toNat_le.mp (UInt32.not_lt.mp small))
    calc
      (factor attempt).toNat = 0xFFFFFFFF := by
        rw [factor, if_neg small]
        rfl
      _ = min (Nat.pow 2 attempt.toNat) 0xFFFFFFFF :=
        (Nat.min_eq_right (Nat.le_trans (by decide) wide)).symm

theorem nanos_delay (policy : Policy) (attempt : UInt32) :
    (policy.delay attempt).nanos =
      min (policy.base.nanos * (factor attempt).toNat) policy.longest.nanos := by
  rw [delay, Duration.times?, Duration.ofNanos?]
  split_ifs with fits
  · simp only [Duration.shorter]
    split_ifs with short
    · exact (Nat.min_eq_left short).symm
    · exact (Nat.min_eq_right (Nat.le_of_not_le short)).symm
  · have longer : policy.longest.nanos ≤ policy.base.nanos * (factor attempt).toNat :=
      Nat.le_of_lt (Nat.lt_of_lt_of_le policy.longest.bounded (Nat.le_of_not_lt fits))
    exact (Nat.min_eq_right longer).symm

theorem delay_le_longest (policy : Policy) (attempt : UInt32) :
    (policy.delay attempt).nanos ≤ policy.longest.nanos := by
  rw [nanos_delay]
  exact Nat.min_le_right _ _

theorem delay_mono (policy : Policy) {first second : UInt32} (later : first ≤ second) :
    (policy.delay first).nanos ≤ (policy.delay second).nanos := by
  have doubled : Nat.pow 2 first.toNat ≤ Nat.pow 2 second.toNat :=
    Nat.pow_le_pow_right (by decide) (UInt32.le_iff_toNat_le.mp later)
  have factors : (factor first).toNat ≤ (factor second).toNat := by
    rw [toNat_factor, toNat_factor]
    omega
  have products := Nat.mul_le_mul_left policy.base.nanos factors
  rw [nanos_delay, nanos_delay]
  omega

theorem delay_eq_backoff {attempt : UInt32}
    (exact : attempt < 32 ∨ policy.longest.nanos ≤ policy.base.nanos * 0xFFFFFFFF) :
    (policy.delay attempt).nanos = policy.backoff attempt.toNat := by
  rw [nanos_delay, toNat_factor, backoff]
  by_cases room : Nat.pow 2 attempt.toNat ≤ 0xFFFFFFFF
  · rw [Nat.min_eq_left room]
  · have full := Nat.le_of_not_le room
    have reached : policy.longest.nanos ≤ policy.base.nanos * 0xFFFFFFFF := by
      rcases exact with small | reached
      · have narrow : Nat.pow 2 attempt.toNat ≤ Nat.pow 2 31 :=
          Nat.pow_le_pow_right (by decide) (Nat.le_of_lt_succ (UInt32.lt_iff_toNat_lt.mp small))
        exact absurd (Nat.le_trans narrow (by decide)) room
      · exact reached
    have further := Nat.le_trans reached (Nat.mul_le_mul_left policy.base.nanos full)
    rw [Nat.min_eq_right full, Nat.min_eq_right reached, Nat.min_eq_right further]

def minus? (count taken : UInt32) : Option UInt32 :=
  if taken ≤ count then some (count - taken) else none

/-- The decision with both subtractions checked; the product of a delay is checked in itself. -/
def checkedDecision (policy : Policy) (failures : UInt32) : Option Decision :=
  if failures ≤ policy.threshold then some .suppressed
  else if policy.giveUpAfter.any (· < failures) then some .gaveUp
  else do
    let excess ← minus? failures policy.threshold
    let attempt ← minus? excess 1
    return .after (policy.delay attempt)

/-- What is to be decided after so many failures, counted without bounds. -/
inductive Decides (policy : Policy) (failures : Nat) : Decision → Prop where
  | suppressed (tolerated : failures ≤ policy.threshold.toNat) : Decides policy failures .suppressed
  | after {attempt : UInt32} (counted : failures = policy.threshold.toNat + 1 + attempt.toNat)
      (within : ∀ limit, policy.giveUpAfter = some limit → failures ≤ limit.toNat) :
      Decides policy failures (.after (policy.delay attempt))
  | gaveUp {limit : UInt32} (beyond : policy.threshold.toNat < failures)
      (limited : policy.giveUpAfter = some limit) (many : limit.toNat < failures) :
      Decides policy failures .gaveUp

theorem minus_beyond {threshold failures : UInt32} (beyond : threshold < failures) :
    ∃ excess, minus? failures threshold = some excess ∧
      minus? excess 1 = some (failures - threshold - 1) ∧
      failures.toNat = threshold.toNat + 1 + (failures - threshold - 1).toNat := by
  have counted := UInt32.lt_iff_toNat_lt.mp beyond
  have below : threshold ≤ failures := UInt32.le_iff_toNat_le.mpr (Nat.le_of_lt counted)
  have excess : (failures - threshold).toNat = failures.toNat - threshold.toNat :=
    UInt32.toNat_sub_of_le _ _ below
  have first : (1 : UInt32) ≤ failures - threshold := by
    rw [UInt32.le_iff_toNat_le, excess]
    exact Nat.sub_pos_of_lt counted
  have attempt : (failures - threshold - 1).toNat = failures.toNat - threshold.toNat - 1 := by
    rw [UInt32.toNat_sub_of_le _ _ first, excess]
    rfl
  exact ⟨failures - threshold, if_pos below, if_pos first, by omega⟩

theorem decision_cases (policy : Policy) (failures : UInt32) :
    (failures ≤ policy.threshold ∧ policy.decision failures = .suppressed) ∨
    (policy.threshold < failures ∧ (∃ limit, policy.giveUpAfter = some limit ∧ limit < failures) ∧
      policy.decision failures = .gaveUp) ∨
    (policy.threshold < failures ∧ (∀ limit, policy.giveUpAfter = some limit → failures ≤ limit) ∧
      policy.decision failures = .after (policy.delay (failures - policy.threshold - 1))) := by
  unfold decision
  by_cases tolerated : failures ≤ policy.threshold
  · exact .inl ⟨tolerated, if_pos tolerated⟩
  · have beyond := UInt32.not_le.mp tolerated
    rw [if_neg tolerated]
    by_cases many : policy.giveUpAfter.any (· < failures) = true
    · obtain ⟨limit, limited, less⟩ := (Option.any_eq_true _ _).mp many
      exact .inr (.inl ⟨beyond, ⟨limit, limited, of_decide_eq_true less⟩, if_pos many⟩)
    · refine .inr (.inr ⟨beyond, ?_, if_neg many⟩)
      intro limit limited
      apply UInt32.not_lt.mp
      intro less
      exact many ((Option.any_eq_true _ _).mpr ⟨limit, limited, decide_eq_true less⟩)

theorem decides_decision (policy : Policy) (failures : UInt32) :
    policy.Decides failures.toNat (policy.decision failures) := by
  rcases policy.decision_cases failures with
    ⟨tolerated, suppressed⟩ | ⟨beyond, ⟨limit, limited, many⟩, gaveUp⟩ | ⟨beyond, within, after⟩
  · rw [suppressed]
    exact .suppressed (UInt32.le_iff_toNat_le.mp tolerated)
  · rw [gaveUp]
    exact .gaveUp (UInt32.lt_iff_toNat_lt.mp beyond) limited (UInt32.lt_iff_toNat_lt.mp many)
  · obtain ⟨excess, -, -, counted⟩ := minus_beyond beyond
    rw [after]
    apply Decides.after counted
    intro limit limited
    exact UInt32.le_iff_toNat_le.mp (within limit limited)

theorem checkedDecision_eq (policy : Policy) (failures : UInt32) :
    policy.checkedDecision failures = some (policy.decision failures) := by
  unfold checkedDecision decision
  by_cases tolerated : failures ≤ policy.threshold
  · rw [if_pos tolerated, if_pos tolerated]
  · obtain ⟨excess, first, second, -⟩ := minus_beyond (UInt32.not_le.mp tolerated)
    rw [if_neg tolerated, if_neg tolerated, first]
    split
    · rfl
    · show (minus? excess 1).bind _ = _
      rw [second]
      rfl

variable {early late : Nat} {first second : Decision}

theorem Decides.phase_le (before : policy.Decides early first) (behind : policy.Decides late second)
    (later : early ≤ late) : first.phase ≤ second.phase := by
  cases before with
  | suppressed tolerated => exact Nat.zero_le _
  | after counted within =>
    cases behind with
    | suppressed tolerated => omega
    | after counted' within' => exact Nat.le_refl 1
    | gaveUp beyond limited many => exact Nat.le_succ 1
  | gaveUp beyond limited many =>
    cases behind with
    | suppressed tolerated => omega
    | after counted within =>
      have bounded := within _ limited
      omega
    | gaveUp beyond' limited' many' => exact Nat.le_refl 2

theorem Decides.delay_le {before behind : Duration} (one : policy.Decides early (.after before))
    (other : policy.Decides late (.after behind)) (later : early ≤ late) :
    before.nanos ≤ behind.nanos := by
  cases one with
  | @after attempt counted within =>
    cases other with
    | @after attempt' counted' within' =>
      apply policy.delay_mono
      rw [UInt32.le_iff_toNat_le]
      omega

/-- The policy decides as in unbounded numbers, and no subtraction on its way wraps. While failures go on,
they are tolerated, then answered by delays, then given up on, and never go back; no delay exceeds the
longest, and none is followed by a shorter one. Each delay is the shorter of the longest and the base
doubled once an attempt: always for the first 32 attempts, and for all of them if the greatest factor
reaches the longest. -/
theorem delays_double_up_to_longest (policy : Policy) :
    (∀ failures, policy.checkedDecision failures = some (policy.decision failures) ∧
      policy.Decides failures.toNat (policy.decision failures)) ∧
    (∀ early late, early ≤ late →
      (policy.decision early).phase ≤ (policy.decision late).phase ∧
      ∀ before behind, policy.decision early = .after before →
        policy.decision late = .after behind → before.nanos ≤ behind.nanos) ∧
    (∀ failures delay, policy.decision failures = .after delay →
      delay.nanos ≤ policy.longest.nanos) ∧
    (∀ attempt, (policy.delay attempt).nanos =
      min (policy.base.nanos * min (Nat.pow 2 attempt.toNat) 0xFFFFFFFF) policy.longest.nanos) ∧
    (∀ attempt, attempt < 32 ∨ policy.longest.nanos ≤ policy.base.nanos * 0xFFFFFFFF →
      (policy.delay attempt).nanos = policy.backoff attempt.toNat) := by
  refine ⟨?_, ?_, ?_, ?_, ?_⟩
  · intro failures
    exact ⟨policy.checkedDecision_eq failures, policy.decides_decision failures⟩
  · intro early late later
    have counted := UInt32.le_iff_toNat_le.mp later
    have one := policy.decides_decision early
    have other := policy.decides_decision late
    constructor
    · exact one.phase_le other counted
    · intro before behind waits waits'
      rw [waits] at one
      rw [waits'] at other
      exact one.delay_le other counted
  · intro failures delay waits
    have decided := policy.decides_decision failures
    rw [waits] at decided
    cases decided with
    | after counted within => exact policy.delay_le_longest _
  · intro attempt
    rw [nanos_delay, toNat_factor]
  · intro attempt exact
    exact delay_eq_backoff exact

/-- Past 32 attempts the factor stays at its greatest value, which need not reach the longest delay. -/
example : let policy : Policy := ⟨0, .millis 1, .seconds 0xFFFFFFFF, none⟩
    (policy.delay 34).nanos = 4294967295 * 1000000 ∧ policy.decision 6 = .after (.millis 32) := by
  decide

end Policy

end EngineClient.Restart
