import EngineClient.Proofs.Client.Identifiers

/-!
When two clients generate the same ids: if, and only if, their prefixes are equal. This needs digits that
move from the number of the one client into the clock reading of the other, so it does not happen as long
as the clock is not set back between their creations.
-/

namespace EngineClient.Client

variable {kind : Link.Kind} {policy : Restart.Policy} {start : Nat} {moves : List Move}

theorem mem_generated_new {idPrefix id : String} :
    id ∈ (new idPrefix kind policy start).generated moves ↔
      ∃ count < unnamed (sent moves), Call.generatedId idPrefix (UInt64.ofNat count) = id := by
  have fresh : (new idPrefix kind policy start).counter = 0 := rfl
  rw [generated_eq, List.mem_map]
  simp only [List.mem_range, fresh, UInt64.zero_add]
  rfl

theorem first_mem_generated {idPrefix : String}
    (some_id : (new idPrefix kind policy start).generated moves ≠ []) :
    Call.generatedId idPrefix 0 ∈ (new idPrefix kind policy start).generated moves := by
  apply mem_generated_new.mpr
  refine ⟨0, ?_, rfl⟩
  rw [← length_generated (new idPrefix kind policy start)]
  exact List.length_pos_of_ne_nil some_id

theorem exists_common_iff {first second : String} {kind' : Link.Kind} {policy' : Restart.Policy}
    {start' : Nat} {moves' : List Move} :
    (∃ id ∈ (new first kind policy start).generated moves,
        id ∈ (new second kind' policy' start').generated moves') ↔
      first = second ∧ (new first kind policy start).generated moves ≠ [] ∧
        (new second kind' policy' start').generated moves' ≠ [] := by
  constructor
  · rintro ⟨id, here, there⟩
    obtain ⟨count, -, rfl⟩ := mem_generated_new.mp here
    obtain ⟨other, -, same⟩ := mem_generated_new.mp there
    exact ⟨(Call.generatedId_eq_iff.mp same).1.symm, List.ne_nil_of_mem here,
      List.ne_nil_of_mem there⟩
  · rintro ⟨rfl, here, there⟩
    exact ⟨Call.generatedId first 0, first_mem_generated here, first_mem_generated there⟩

/-- The prefixes of two clients are equal exactly if they are made of the same numbers, or if digits have
moved from the number of the one client to the end of the clock reading of the other; and then, but only
then, the clients generate ids in common. It does not happen if the clock reading of the later client is
no earlier, nor if both readings have the same number of digits, as within one millisecond. -/
theorem ids_shared_iff_regrouped (millis sequence millis' sequence' : UInt64) :
    let first := Call.clientPrefix millis sequence
    let second := Call.clientPrefix millis' sequence'
    (first = second ↔ (millis = millis' ∧ sequence = sequence') ∨
      Numeral.Regrouped 36 millis.toNat sequence.toNat millis'.toNat sequence'.toNat ∨
      Numeral.Regrouped 36 millis'.toNat sequence'.toNat millis.toNat sequence.toNat) ∧
    (sequence < sequence' → millis ≤ millis' → first ≠ second) ∧
    (sequence ≠ sequence' → Nat.log 36 millis.toNat = Nat.log 36 millis'.toNat → first ≠ second) ∧
    ∀ (kind kind' : Link.Kind) (policy policy' : Restart.Policy) (start start' : Nat)
      (moves moves' : List Move),
      let ids := (new first kind policy start).generated moves
      let ids' := (new second kind' policy' start').generated moves'
      (∃ id ∈ ids, id ∈ ids') ↔ first = second ∧ ids ≠ [] ∧ ids' ≠ [] := by
  intro first second
  have exactly := Call.clientPrefix_eq_iff millis sequence millis' sequence'
  refine ⟨exactly, ?_, ?_, ?_⟩
  · intro later unturned same
    rcases exactly.mp same with ⟨-, equal⟩ | regrouped | regrouped
    · exact absurd (equal ▸ later) (UInt64.lt_irrefl _)
    · have less := regrouped.low_lt (by decide)
      have more := UInt64.lt_iff_toNat_lt.mp later
      omega
    · have less := regrouped.high_lt (by decide)
      have more := UInt64.le_iff_toNat_le.mp unturned
      omega
  · intro different equal same
    rcases exactly.mp same with ⟨-, identical⟩ | regrouped | regrouped
    · exact different identical
    · exact (regrouped.log_lt (by decide)).ne equal
    · exact (regrouped.log_lt (by decide)).ne' equal
  · intro kind kind' policy policy' start start' moves moves'
    exact exists_common_iff

/-- The first client of a process, and the thirty-seventh one after the clock was set back: they have
one prefix, and their first calls one id. -/
theorem prefix_shared_after_clock_set_back :
    (0 : UInt64) ≠ 36 ∧ Call.clientPrefix 37 0 = "110" ∧ Call.clientPrefix 1 36 = "110" ∧
      (new (Call.clientPrefix 37 0) .socket .socket 0).generated [.send (.directoryOpen "/")] =
        ["110-0"] ∧
      (new (Call.clientPrefix 1 36) .socket .socket 0).generated [.send (.directoryOpen "/")] =
        ["110-0"] := by
  have first : Call.clientPrefix 37 0 = "110" := by decide +kernel
  have second : Call.clientPrefix 1 36 = "110" := by decide +kernel
  rw [first, second]
  exact ⟨by decide, rfl, rfl, by decide +kernel, by decide +kernel⟩

end EngineClient.Client
