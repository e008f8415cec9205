import EngineClient.Proofs.Frame.Stream

/-!
A decoder under any schedule of feeds and pulls. Pulls may stop early and leave whole frames behind for
a later feed; what was fed is always what was pulled and what is held, up to the first fault, and what
is pulled depends on the bytes alone.
-/

namespace EngineClient.Frame

namespace Decoder

theorem splits_unique {bytes : Bytes} {first second : List Frame} {tail other : Bytes}
    (split : Splits bytes first tail) (again : Splits bytes second other) :
    first = second ∧ tail = other := by
  rcases encodeAll_front split.fits again.fits (split.bytes_eq.symm.trans again.bytes_eq) with
    ⟨later, rfl, rfl⟩ | ⟨later, rfl, rfl⟩
  · have fits : ∀ frame ∈ later, frame.Fits := fun frame present =>
      again.fits frame (List.mem_append_right first present)
    obtain rfl := eq_nil_of_last fits split.last
    simp
  · have fits : ∀ frame ∈ later, frame.Fits := fun frame present =>
      split.fits frame (List.mem_append_right second present)
    obtain rfl := eq_nil_of_last fits again.last
    simp

theorem pull_cases (decoder : Decoder) :
    (Incomplete decoder.buffer ∧ decoder.pull = (none, decoder)) ∨
    (∃ frame rest, frame.Fits ∧ decoder.buffer = frame.encode ++ rest ∧
      decoder.pull = (some (.ok frame), ⟨rest⟩)) ∨
    (∃ fault, decode? decoder.buffer = .error fault ∧
      decoder.pull = (some (.error fault), empty)) := by
  cases decoded : decode? decoder.buffer with
  | error fault => exact .inr (.inr ⟨fault, rfl, by simp [pull, decoded]⟩)
  | ok found =>
    cases found with
    | none => exact .inl ⟨decoded, by simp [pull, decoded]⟩
    | some pair =>
      obtain ⟨frame, taken⟩ := pair
      obtain ⟨fits, rfl, rest, split⟩ := encode_of_decode? decoded
      have left : decoder.buffer.drop frame.encode.length = rest := by
        rw [split, List.drop_left]
      exact .inr (.inl ⟨frame, rest, fits, split, by simp [pull, decoded, left]⟩)

/-- Pulls take frames off the front of what is held. They leave the rest, which holds no further frame
if fewer items came than were asked for, or they end with the fault that the rest is. -/
theorem pullUpTo_cases (count : Nat) (decoder : Decoder) :
    ∃ frames, (∀ frame ∈ frames, frame.Fits) ∧
      ((∃ rest, decoder.buffer = encodeAll frames ++ rest ∧
        (frames.length < count → Incomplete rest) ∧
        decoder.pullUpTo count = (frames.map .ok, ⟨rest⟩)) ∨
      (∃ rest fault, decoder.buffer = encodeAll frames ++ rest ∧ decode? rest = .error fault ∧
        decoder.pullUpTo count = (frames.map .ok ++ [.error fault], empty))) := by
  induction count generalizing decoder with
  | zero => exact ⟨[], by simp, .inl ⟨decoder.buffer, rfl, by simp, rfl⟩⟩
  | succ count ih =>
    rcases pull_cases decoder with
      ⟨incomplete, pulled⟩ | ⟨frame, rest, fits, split, pulled⟩ | ⟨fault, faulty, pulled⟩
    · exact ⟨[], by simp, .inl ⟨decoder.buffer, rfl, fun _ => incomplete, by simp [pullUpTo, pulled]⟩⟩
    · obtain ⟨frames, later_fits, cases⟩ := ih ⟨rest⟩
      have whole {tail : Bytes} (rest_eq : rest = encodeAll frames ++ tail) :
          decoder.buffer = encodeAll (frame :: frames) ++ tail := by
        rw [split, rest_eq, encodeAll_cons, List.append_assoc]
      refine ⟨frame :: frames, List.forall_mem_cons.mpr ⟨fits, later_fits⟩, ?_⟩
      rcases cases with ⟨tail, rest_eq, dry, rest_pulled⟩ |
        ⟨tail, fault, rest_eq, faulty, rest_pulled⟩
      · refine .inl ⟨tail, whole rest_eq, ?_, by simp [pullUpTo, pulled, rest_pulled]⟩
        intro fewer
        exact dry (by simpa using fewer)
      · exact .inr ⟨tail, fault, whole rest_eq, faulty, by simp [pullUpTo, pulled, rest_pulled]⟩
    · exact ⟨[], by simp, .inr ⟨decoder.buffer, fault, rfl, faulty, by simp [pullUpTo, pulled]⟩⟩

theorem length_pullUpTo_le (count : Nat) (decoder : Decoder) :
    (decoder.pullUpTo count).1.length ≤ decoder.buffer.length := by
  obtain ⟨frames, -, ⟨rest, split, -, pulled⟩ | ⟨rest, fault, split, faulty, pulled⟩⟩ :=
    pullUpTo_cases count decoder
  · have fewer := length_le_encodeAll frames
    simp only [pulled, split, List.length_map, List.length_append]
    omega
  · have fewer := length_le_encodeAll frames
    have positive : 0 < rest.length := by
      refine List.length_pos_iff.mpr ?_
      rintro rfl
      cases faulty
    simp only [pulled, split, List.length_append, List.length_map, List.length_singleton]
    omega

theorem incomplete_of_dry {count : Nat} {decoder : Decoder}
    (dry : (decoder.pullUpTo count).1.length < count) :
    Incomplete (decoder.pullUpTo count).2.buffer := by
  obtain ⟨frames, -, ⟨rest, -, incomplete, pulled⟩ | ⟨rest, fault, -, -, pulled⟩⟩ :=
    pullUpTo_cases count decoder
  · rw [pulled] at dry ⊢
    exact incomplete (by simpa using dry)
  · rw [pulled]
    exact incomplete_nil

/-- A chunk that is fed, and how often the next item is asked for behind it. -/
structure Round where
  chunk : Bytes
  pulls : Nat

def playRound (decoder : Decoder) (round : Round) : List (Except Error Frame) × Decoder :=
  (decoder.feed round.chunk).pullUpTo round.pulls

def play (decoder : Decoder) : List Round → List (Except Error Frame) × Decoder
  | [] => ([], decoder)
  | round :: rounds =>
    let (items, next) := decoder.playRound round
    let (later, last) := next.play rounds
    (items ++ later, last)

def fed (rounds : List Round) : Bytes := rounds.flatMap Round.chunk

/-- The last round of a schedule asks until no item is there. -/
def RunsDry (decoder : Decoder) (rounds : List Round) : Prop :=
  ∃ earlier last, rounds = earlier ++ [last] ∧
    ((decoder.play earlier).2.playRound last).1.length < last.pulls

/-- The items up to the first fault, and the fault. -/
def untilFault : List (Except Error Frame) → List (Except Error Frame)
  | [] => []
  | .error fault :: _ => [.error fault]
  | .ok frame :: items => .ok frame :: untilFault items

theorem untilFault_frames (frames : List Frame) (items : List (Except Error Frame)) :
    untilFault (frames.map .ok ++ items) = frames.map .ok ++ untilFault items := by
  induction frames with
  | nil => rfl
  | cons frame frames ih => simp [untilFault, ih]

theorem play_append (decoder : Decoder) (first second : List Round) :
    decoder.play (first ++ second) =
      ((decoder.play first).1 ++ ((decoder.play first).2.play second).1,
        ((decoder.play first).2.play second).2) := by
  induction first generalizing decoder with
  | nil => rfl
  | cons round rounds ih => simp only [List.cons_append, play, ih, List.append_assoc]

theorem play_concat (decoder : Decoder) (rounds : List Round) (last : Round) :
    decoder.play (rounds ++ [last]) =
      ((decoder.play rounds).1 ++ ((decoder.play rounds).2.playRound last).1,
        ((decoder.play rounds).2.playRound last).2) := by
  simp [play_append, play]

/-- What the items of a schedule and its decoder are to the bytes that were fed: frames with what is
held behind them; or, once a fault was pulled, the frames and the fault at the front of the bytes, and
whatever came later. -/
inductive Played (bytes : Bytes) : List (Except Error Frame) → Decoder → Prop where
  | clean {frames : List Frame} {held : Bytes} (fits : ∀ frame ∈ frames, frame.Fits)
      (split : bytes = encodeAll frames ++ held) : Played bytes (frames.map .ok) ⟨held⟩
  | faulty {frames : List Frame} {rest : Bytes} {fault : Error}
      (fits : ∀ frame ∈ frames, frame.Fits) (split : bytes = encodeAll frames ++ rest)
      (decoded : decode? rest = .error fault) (later : List (Except Error Frame))
      (decoder : Decoder) : Played bytes (frames.map .ok ++ .error fault :: later) decoder

variable {bytes : Bytes} {items : List (Except Error Frame)} {decoder : Decoder}

theorem played_empty : Played [] [] empty := by
  have none_fits : ∀ frame ∈ ([] : List Frame), frame.Fits := by simp
  exact .clean none_fits rfl

theorem played_playRound (played : Played bytes items decoder) (round : Round) :
    Played (bytes ++ round.chunk) (items ++ (decoder.playRound round).1) (decoder.playRound round).2 := by
  cases played with
  | faulty fits split decoded later =>
    rw [List.append_assoc, List.cons_append]
    refine .faulty fits ?_ (decode?_append_fault decoded round.chunk) _ _
    rw [split, List.append_assoc]
  | @clean frames held fits split =>
    have both {more : List Frame} (later_fits : ∀ frame ∈ more, frame.Fits) :
        ∀ frame ∈ frames ++ more, frame.Fits := fun frame present =>
      (List.mem_append.mp present).elim (fits frame) (later_fits frame)
    have whole {more : List Frame} {rest : Bytes}
        (held_eq : held ++ round.chunk = encodeAll more ++ rest) :
        bytes ++ round.chunk = encodeAll (frames ++ more) ++ rest := by
      rw [split, List.append_assoc, held_eq, encodeAll_append, List.append_assoc]
    obtain ⟨more, later_fits, ⟨rest, held_eq, -, pulled⟩ | ⟨rest, fault, held_eq, decoded, pulled⟩⟩ :=
      pullUpTo_cases round.pulls (feed ⟨held⟩ round.chunk)
    · rw [playRound, pulled, ← List.map_append]
      exact .clean (both later_fits) (whole held_eq)
    · rw [playRound, pulled, ← List.append_assoc, ← List.map_append]
      exact .faulty (both later_fits) (whole held_eq) decoded [] empty

theorem played_play (played : Played bytes items decoder) (rounds : List Round) :
    Played (bytes ++ fed rounds) (items ++ (decoder.play rounds).1) (decoder.play rounds).2 := by
  induction rounds generalizing bytes items decoder with
  | nil => simpa [fed, play] using played
  | cons round rounds ih =>
    have later := ih (played_playRound played round)
    simpa only [fed, List.flatMap_cons, play, List.append_assoc] using later

theorem played_schedule (rounds : List Round) :
    Played (fed rounds) (empty.play rounds).1 (empty.play rounds).2 := by
  simpa using played_play played_empty rounds

theorem incomplete_of_runsDry {rounds : List Round} (dry : decoder.RunsDry rounds) :
    Incomplete (decoder.play rounds).2.buffer := by
  obtain ⟨earlier, last, rfl, fewer⟩ := dry
  rw [play_concat]
  exact incomplete_of_dry fewer

theorem faulty_of_fault {frames : List Frame} {fault : Error} {later : List (Except Error Frame)} :
    ¬ ∀ other, .error other ∉ frames.map Except.ok ++ .error fault :: later := by
  intro clean
  exact clean fault (List.mem_append_right _ List.mem_cons_self)

theorem Played.conserves (played : Played bytes items decoder)
    (clean : ∀ fault, .error fault ∉ items) :
    bytes = encodeAll (framesOf items) ++ decoder.buffer := by
  cases played with
  | clean fits split => rw [framesOf_ok, split]
  | faulty fits split decoded later => exact absurd clean faulty_of_fault

theorem Played.agrees {others : List (Except Error Frame)} {other : Decoder}
    (first : Played bytes items decoder) (dry : Incomplete decoder.buffer)
    (second : Played bytes others other) (also_dry : Incomplete other.buffer) :
    untilFault items = untilFault others ∧
      ((∀ fault, .error fault ∉ items) → decoder = other) := by
  -- The same bytes split in one way only, and their tail is either incomplete or a fault.
  cases first with
  | clean fits split =>
    have front := splits_of_incomplete fits dry
    rw [← split] at front
    cases second with
    | clean later_fits again =>
      have back := splits_of_incomplete later_fits also_dry
      rw [← again] at back
      obtain ⟨rfl, rfl⟩ := splits_unique front back
      exact ⟨rfl, fun _ => rfl⟩
    | faulty later_fits again decoded later =>
      have back := splits_of_fault later_fits decoded
      rw [← again] at back
      obtain ⟨-, rfl⟩ := splits_unique front back
      rw [show decode? _ = .ok none from dry] at decoded
      cases decoded
  | faulty fits split decoded later =>
    have front := splits_of_fault fits decoded
    rw [← split] at front
    refine ⟨?_, fun clean => absurd clean faulty_of_fault⟩
    cases second with
    | clean later_fits again =>
      have back := splits_of_incomplete later_fits also_dry
      rw [← again] at back
      obtain ⟨-, rfl⟩ := splits_unique front back
      rw [show decode? _ = .ok none from also_dry] at decoded
      cases decoded
    | faulty later_fits again also_decoded later =>
      have back := splits_of_fault later_fits also_decoded
      rw [← again] at back
      obtain ⟨rfl, rfl⟩ := splits_unique front back
      rw [decoded] at also_decoded
      cases also_decoded
      simp only [untilFault_frames, untilFault]

/-- Under any schedule, what was fed is what was pulled and what is held, as long as no fault was pulled.
A schedule that runs dry holds an incomplete frame, shorter than the longest frame; and all that feed the
same bytes and run dry yield the same items up to the first fault, and hold the same bytes if there is
none. Running dry is a matter of asking often enough: there are never more items than bytes held. -/
theorem schedules_conserve_and_agree (rounds : List Round) :
    ((∀ fault, .error fault ∉ (empty.play rounds).1) →
      fed rounds = encodeAll (framesOf (empty.play rounds).1) ++ (empty.play rounds).2.buffer) ∧
    (empty.RunsDry rounds →
      decode? (empty.play rounds).2.buffer = .ok none ∧
      (empty.play rounds).2.buffer.length < headerLength + longestBody) ∧
    (∀ others, empty.RunsDry rounds → empty.RunsDry others → fed rounds = fed others →
      untilFault (empty.play rounds).1 = untilFault (empty.play others).1 ∧
      ((∀ fault, .error fault ∉ (empty.play rounds).1) →
        (empty.play rounds).2.buffer = (empty.play others).2.buffer)) ∧
    (∀ (decoder : Decoder) (count : Nat),
      (decoder.pullUpTo count).1.length ≤ decoder.buffer.length) := by
  have played := played_schedule rounds
  refine ⟨played.conserves, ?_, ?_, fun decoder count => length_pullUpTo_le count decoder⟩
  · intro dry
    have incomplete := incomplete_of_runsDry dry
    exact ⟨incomplete, incomplete.length_lt⟩
  · intro others dry also_dry same
    have again := played_schedule others
    rw [← same] at again
    obtain ⟨items, held⟩ :=
      played.agrees (incomplete_of_runsDry dry) again (incomplete_of_runsDry also_dry)
    exact ⟨items, fun clean => congrArg buffer (held clean)⟩

end Decoder

end EngineClient.Frame
