import EngineClient.Proofs.Link.Sending

/-!
Of what arrives on a link its reader reports the bytes before the first end, in bounded chunks, and then this
end, whatever the writer does meanwhile. The writer adds a single failure at most.
-/

namespace EngineClient.Link

variable {link after : Link} {act : Act} {outputs told : List Output}
variable {generation : Generation} {arrived : List Arrival}

def Act.received? : Act → Option Arrival
  | .receive arrival => some arrival
  | _ => none

def received (acts : List Act) : List Arrival := acts.filterMap Act.received?

/-- What a link that is kept and heard has said of all that has arrived on it. -/
structure Receives (generation : Generation) (link : Link) (arrived : List Arrival)
    (told : List Output) : Prop where
  numbered : link.generation = generation
  kept : link.dropped = false
  heard : link.listening = true
  reads : ∃ signals, readings told = signals.map (fun signal => (generation, signal)) ∧
    link.reader.Tells arrived signals

theorem receives_start (peer : Peer) (kind : Kind) (generation : Generation) :
    Receives generation (start peer kind generation) peer.arrivals [] :=
  ⟨rfl, rfl, rfl, [], rfl, Reader.tells_start peer.arrivals⟩

theorem Receives.still (receives : Receives generation link arrived told)
    (same : after.reader = link.reader) (numbered : after.generation = link.generation)
    (kept : after.dropped = link.dropped) (heard : after.listening = link.listening)
    (silent : readings outputs = []) : Receives generation after arrived (told ++ outputs) := by
  obtain ⟨signals, said, tells⟩ := receives.reads
  refine ⟨numbered.trans receives.numbered, kept.trans receives.kept, heard.trans receives.heard,
    signals, ?_, same ▸ tells⟩
  rw [readings_append, silent, List.append_nil, said]

theorem Receives.step (receives : Receives generation link arrived told)
    (effect : link.Effect act after outputs) (kept : act ≠ .drop) (heard : act ≠ .deafen) :
    Receives generation after (arrived ++ act.received?.toList) (told ++ outputs) := by
  cases effect with
  | receive arrival =>
    obtain ⟨signals, said, tells⟩ := receives.reads
    refine ⟨receives.numbered, receives.kept, receives.heard, signals, ?_, tells.receive arrival⟩
    rw [List.append_nil, said]
  | @report signal reader _ _ step =>
    obtain ⟨signals, said, tells⟩ := receives.reads
    refine ⟨receives.numbered, receives.kept, receives.heard, signals ++ [signal], ?_, ?_⟩
    · rw [readings_append, said, List.map_append, ← receives.numbered]
      rfl
    · exact (List.append_nil arrived).symm ▸ tells.step step
  | unheard _ deaf step => cases receives.heard.symm.trans deaf
  | drop => exact absurd rfl kept
  | deafen => exact absurd rfl heard
  | pour _ step =>
    exact (List.append_nil arrived).symm ▸ receives.still rfl rfl rfl rfl (readings_telling _)
  | _ => exact (List.append_nil arrived).symm ▸ receives.still rfl rfl rfl rfl rfl

theorem Receives.run (receives : Receives generation link arrived told) (acts : List Act)
    (kept : .drop ∉ acts) (heard : .deafen ∉ acts) :
    Receives generation (link.after acts) (arrived ++ received acts) (told ++ link.shown acts) := by
  induction acts generalizing link arrived told with
  | nil => exact (List.append_nil arrived).symm ▸ (List.append_nil told).symm ▸ receives
  | cons act acts ih =>
    have next := ih
      (receives.step (link.effect_act act) (fun same => kept (same ▸ List.mem_cons_self))
        fun same => heard (same ▸ List.mem_cons_self))
      (fun present => kept (List.mem_cons_of_mem act present))
      fun present => heard (List.mem_cons_of_mem act present)
    have whole : received (act :: acts) = act.received?.toList ++ received acts := by
      rw [received, List.filterMap_cons]
      cases act.received? <;> rfl
    rw [List.append_assoc, List.append_assoc, ← whole] at next
    exact next

/-- Whatever is done with a link that is kept and heard, and whenever its tasks make steps: its reader reports
the bytes that arrive before the first end, in chunks that are not empty and no larger than one read, then
this end, and nothing behind it; nothing is missing once the end is reported or the reader is idle. All
events carry the generation of the link, and the writer adds its failure at most once. -/
theorem readings_of_arrivals (peer : Peer) (kind : Kind) (generation : Generation)
    (acts : List Act) (kept : .drop ∉ acts) (heard : .deafen ∉ acts) :
    let link := (start peer kind generation).after acts
    let told := (start peer kind generation).shown acts
    let arrived := peer.arrivals ++ received acts
    (∃ chunks, ∃ last : Option Signal,
      readings told = (chunks.map .data ++ last.toList).map (fun signal => (generation, signal)) ∧
      Reader.Bounded chunks ∧ chunks.flatten <+: readable arrived ∧
      (last.isSome = true ∨ link.read? = none →
        chunks.flatten = readable arrived ∧ last = ending? arrived)) ∧
    ((∀ reason, .ended reason ∈ arrived → reason = .disconnected) →
      ∀ reason, ending? arrived = some (.closed reason) → reason = .disconnected) ∧
    (pourings told = [] ∨ pourings told = [(generation, .failed peer.fault)]) ∧
    ∃ tasks : List Act, (∀ act ∈ tasks, act.ofTask = true) ∧ (link.after tasks).Idle := by
  intro link told arrived
  have receives : Receives generation link arrived told :=
    (receives_start peer kind generation).run acts kept heard
  have sends : Sends peer generation link told := (sends_start peer kind generation).run acts
  refine ⟨?_, fun childless reason ending => ?_, sends.once, exists_idle link⟩
  · obtain ⟨signals, said, tells⟩ := receives.reads
    obtain ⟨chunks, last, rfl, bounded, front, complete⟩ := tells.form
    refine ⟨chunks, last, said, bounded, front, fun ended => complete (ended.imp_right fun idle => ?_)⟩
    rw [read?, receives.kept, if_neg Bool.false_ne_true] at idle
    exact Option.map_eq_none_iff.mp idle
  · exact (closed_of_ending ending).elim id (childless reason)

theorem readings_of_arrivals_interleaved :
    let peer : Peer := ⟨[.bytes [1, 2], .bytes [3]], some 0, none, "broken pipe"⟩
    let acts : List Act := [.read, .write [9], .receive (.ended .disconnected), .pour 1, .read,
      .pour 1, .receive (.bytes [4]), .read, .read]
    .drop ∉ acts ∧ .deafen ∉ acts ∧
    (∃ chunks, readings ((start peer .socket 3).shown acts) =
        (chunks.map .data ++ [.closed .disconnected]).map (fun signal => (3, signal)) ∧
      Reader.Bounded chunks ∧ chunks.flatten = [1, 2, 3]) ∧
    pourings ((start peer .socket 3).shown acts) = [(3, .failed "broken pipe")] := by
  refine ⟨by decide, by decide, ?_, ?_⟩
  · obtain ⟨⟨chunks, last, said, bounded, -, complete⟩, -⟩ := readings_of_arrivals
      ⟨[.bytes [1, 2], .bytes [3]], some 0, none, "broken pipe"⟩ .socket 3
      [.read, .write [9], .receive (.ended .disconnected), .pour 1, .read,
        .pour 1, .receive (.bytes [4]), .read, .read] (by decide) (by decide)
    obtain ⟨all, ending⟩ := complete (.inr rfl)
    exact ⟨chunks, said.trans (by rw [ending]; rfl), bounded, all⟩
  · rfl

end EngineClient.Link
