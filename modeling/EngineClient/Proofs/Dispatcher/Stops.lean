import EngineClient.Proofs.Dispatcher.Decisions

/-!
How a dispatcher stops: by a shutdown, or by a restart that would lie beyond the end of the clock.
Nothing is left to do then.
-/

namespace EngineClient.Dispatcher

/-- Nothing waits, nothing is held back, no link is live and no restart is due. -/
structure AtRest (dispatcher : Dispatcher) : Prop where
  pending : dispatcher.pending = .empty
  decoder : dispatcher.decoder = .empty
  live : dispatcher.connection.live = none
  restartAt : dispatcher.restartAt = none

def Overruns (now : Nat) (effects : List Effect) : Prop :=
  ∃ delay, .decided (.after delay) ∈ effects ∧ clockEnd ≤ now + delay.nanos

/-- A step stops the dispatcher just when its restart overran the clock, and leaves it at rest then. -/
structure StopsByOverrun (now : Nat) (result : Dispatcher × List Effect) : Prop where
  rests : .stopped ∈ result.2 → result.1.AtRest
  overruns : .stopped ∈ result.2 ↔ Overruns now result.2

variable {dispatcher : Dispatcher} {now : Nat}

theorem shutdown_atRest : dispatcher.shutdown.1.AtRest := ⟨rfl, rfl, rfl, rfl⟩

theorem shutdown_stops : .stopped ∈ dispatcher.shutdown.2 := by simp [shutdown]

theorem stops_schedule (dispatcher : Dispatcher) (now : Nat) (decision : Restart.Decision) :
    StopsByOverrun now (dispatcher.schedule now decision) := by
  have in_time {effects : List Effect} (only : effects = [.decided decision])
      (early : ∀ delay, decision = .after delay → now + delay.nanos < clockEnd) :
      .stopped ∉ effects ∧ ¬ Overruns now effects := by
    subst only
    refine ⟨by simp, ?_⟩
    rintro ⟨delay, decided, late⟩
    have same : decision = .after delay := by simpa [eq_comm] using decided
    exact absurd (early delay same) (Nat.not_lt.mpr late)
  cases decision with
  | suppressed =>
    obtain ⟨goes, punctual⟩ := in_time rfl (fun _ same => by cases same)
    exact ⟨fun stopped => absurd stopped goes, iff_of_false goes punctual⟩
  | gaveUp =>
    obtain ⟨goes, punctual⟩ := in_time rfl (fun _ same => by cases same)
    exact ⟨fun stopped => absurd stopped goes, iff_of_false goes punctual⟩
  | after delay =>
    by_cases late : clockEnd ≤ now + delay.nanos
    · rw [schedule_overrun late]
      refine ⟨fun _ => shutdown_atRest, iff_of_true ?_ ⟨delay, List.mem_cons_self, late⟩⟩
      exact List.mem_cons_of_mem _ shutdown_stops
    · have early : now + delay.nanos < clockEnd := Nat.lt_of_not_le late
      have scheduled : (dispatcher.schedule now (.after delay)).2 = [.decided (.after delay)] := by
        simp [schedule, early]
      obtain ⟨goes, punctual⟩ := in_time scheduled fun other same => by
        cases same
        exact early
      exact ⟨fun stopped => absurd stopped goes, iff_of_false goes punctual⟩

theorem stops_after {after : Dispatcher} {first second : List Effect}
    (going : ∀ effect ∈ first, effect.goesOn = true)
    (stops : StopsByOverrun now (after, second)) : StopsByOverrun now (after, first ++ second) := by
  have only_later {effect : Effect} (halts : effect.goesOn = false) :
      effect ∈ first ++ second ↔ effect ∈ second := by
    refine ⟨fun shows => (List.mem_append.mp shows).resolve_left ?_, List.mem_append_right first⟩
    intro early
    rw [going effect early] at halts
    cases halts
  have same : Overruns now (first ++ second) ↔ Overruns now second := by
    simp only [Overruns, only_later (show (Effect.decided _).goesOn = false from rfl)]
  constructor
  · intro stopped
    exact stops.rests ((only_later rfl).mp stopped)
  · rw [only_later rfl, same]
    exact stops.overruns

theorem stops_none {after : Dispatcher} {effects : List Effect}
    (going : ∀ effect ∈ effects, effect.goesOn = true) : StopsByOverrun now (after, effects) := by
  have nothing : StopsByOverrun now (after, []) :=
    ⟨fun stopped => absurd stopped List.not_mem_nil, iff_of_false (by simp) (by simp [Overruns])⟩
  simpa using stops_after going nothing

theorem stops_handle {stimulus : Stimulus} (other : stimulus ≠ .shutdown) :
    StopsByOverrun now (dispatcher.handle now stimulus) := by
  have decides : Decides dispatcher now (dispatcher.handle now stimulus) := decides_handle other
  generalize dispatcher.handle now stimulus = result at decides ⊢
  cases decides with
  | nothing timer going => exact stops_none going
  | scheduled timer going decision => exact stops_after going (stops_schedule _ now decision)

theorem atRest_of_stopped {stimulus : Stimulus}
    (stopped : .stopped ∈ (dispatcher.handle now stimulus).2) :
    (dispatcher.handle now stimulus).1.AtRest := by
  by_cases asked : stimulus = .shutdown
  · rw [asked]
    exact shutdown_atRest
  · exact (stops_handle asked).rests stopped

end EngineClient.Dispatcher
