import EngineClient.Frame.Decoder
import EngineClient.Proofs.Frame.Codec

/-!
A stream of bytes is the encodings of its frames followed by a tail that holds no further frame. Pulling
everything out of a decoder yields these frames, and keeps the tail unless it is a fault.
-/

namespace EngineClient.Frame

/-- The bytes of frames one after another. -/
def encodeAll (frames : List Frame) : Bytes := frames.flatMap encode

/-- No further frame starts here yet. -/
def Incomplete (bytes : Bytes) : Prop := decode? bytes = .ok none

@[simp] theorem encodeAll_nil : encodeAll [] = [] := rfl

@[simp] theorem encodeAll_cons (frame : Frame) (frames : List Frame) :
    encodeAll (frame :: frames) = frame.encode ++ encodeAll frames := rfl

@[simp] theorem encodeAll_append (first second : List Frame) :
    encodeAll (first ++ second) = encodeAll first ++ encodeAll second := List.flatMap_append

theorem incomplete_nil : Incomplete [] := rfl

theorem Incomplete.length_lt {bytes : Bytes} (incomplete : Incomplete bytes) :
    bytes.length < headerLength + longestBody := by
  cases bytes with
  | nil => simp [headerLength]
  | cons octet rest =>
    cases known : Tag.ofOctet? octet with
    | none => simp [Incomplete, decode?, known] at incomplete
    | some tag =>
      by_cases whole : 8 ≤ rest.length
      · obtain ⟨size, body, eight, split, parts⟩ := header_parts known whole
        rw [Incomplete, parts, decode?_parts eight] at incomplete
        split_ifs at incomplete with beyond short
        · simp only [split, List.length_cons, List.length_append, headerLength]
          omega
        · cases incomplete
      · simp only [List.length_cons, headerLength]
        omega

theorem encode_ne_nil (frame : Frame) : frame.encode ≠ [] := by simp [encode]

theorem length_encode_pos (frame : Frame) : 0 < frame.encode.length :=
  List.length_pos_iff.mpr frame.encode_ne_nil

namespace Decoder

/-- Frames in front of a tail. -/
structure Splits (bytes : Bytes) (frames : List Frame) (tail : Bytes) : Prop where
  bytes_eq : bytes = encodeAll frames ++ tail
  fits : ∀ frame ∈ frames, frame.Fits
  /-- No frame starts the tail. -/
  last : ∀ frame taken, decode? tail ≠ .ok (some (frame, taken))

theorem exists_splits (bytes : Bytes) : ∃ frames tail, Splits bytes frames tail := by
  induction length : bytes.length using Nat.strong_induction_on generalizing bytes with
  | _ size ih =>
    by_cases more : ∃ frame taken, decode? bytes = .ok (some (frame, taken))
    · obtain ⟨frame, taken, decoded⟩ := more
      obtain ⟨fits, -, rest, rfl⟩ := encode_of_decode? decoded
      have shorter : rest.length < size := by
        have positive := frame.length_encode_pos
        simp only [List.length_append] at length
        omega
      obtain ⟨frames, tail, split⟩ := ih rest.length shorter rest rfl
      refine ⟨frame :: frames, tail, ?_, ?_, split.last⟩
      · rw [encodeAll_cons, List.append_assoc, ← split.bytes_eq]
      · intro other member
        rcases List.mem_cons.mp member with rfl | later
        · exact fits
        · exact split.fits other later
    · exact ⟨[], bytes, rfl, by simp, fun frame taken decoded => more ⟨frame, taken, decoded⟩⟩

theorem splits_of_incomplete {frames : List Frame} {tail : Bytes}
    (fits : ∀ frame ∈ frames, frame.Fits) (incomplete : Incomplete tail) :
    Splits (encodeAll frames ++ tail) frames tail := by
  refine ⟨rfl, fits, ?_⟩
  intro frame taken decoded
  rw [show decode? tail = .ok none from incomplete] at decoded
  cases decoded

theorem splits_nil {tail : Bytes} (incomplete : Incomplete tail) : Splits tail [] tail :=
  splits_of_incomplete (List.forall_mem_nil Fits) incomplete

theorem Splits.extend {bytes more tail rest : Bytes} {frames later : List Frame}
    (split : Splits bytes frames tail) (next : Splits (tail ++ more) later rest) :
    Splits (bytes ++ more) (frames ++ later) rest := by
  refine ⟨?_, ?_, next.last⟩
  · calc
      bytes ++ more = encodeAll frames ++ (tail ++ more) := by
        rw [split.bytes_eq, List.append_assoc]
      _ = encodeAll frames ++ (encodeAll later ++ rest) := by rw [next.bytes_eq]
      _ = encodeAll (frames ++ later) ++ rest := by rw [encodeAll_append, List.append_assoc]
  · intro frame present
    exact (List.mem_append.mp present).elim (split.fits frame) (next.fits frame)

theorem splits_of_fault {frames : List Frame} {tail : Bytes} {fault : Error}
    (fits : ∀ frame ∈ frames, frame.Fits) (faulty : decode? tail = .error fault) :
    Splits (encodeAll frames ++ tail) frames tail := by
  refine ⟨rfl, fits, ?_⟩
  intro frame taken decoded
  rw [faulty] at decoded
  cases decoded

/-- What is pulled after the last frame: nothing, or the fault that the tail is. -/
def ending (tail : Bytes) : List (Except Error Frame) × Decoder :=
  match decode? tail with
  | .error fault => ([.error fault], empty)
  | .ok _ => ([], ⟨tail⟩)

theorem ending_incomplete {tail : Bytes} (incomplete : Incomplete tail) :
    ending tail = ([], ⟨tail⟩) := by
  simp [ending, show decode? tail = .ok none from incomplete]

theorem ending_fault {tail : Bytes} {fault : Error} (decoded : decode? tail = .error fault) :
    ending tail = ([.error fault], empty) := by
  simp [ending, decoded]

theorem pullUpTo_splits {bytes : Bytes} {frames : List Frame} {tail : Bytes}
    (split : Splits bytes frames tail) {count : Nat} (enough : frames.length < count) :
    pullUpTo count ⟨bytes⟩ = (frames.map .ok ++ (ending tail).1, (ending tail).2) := by
  obtain ⟨rfl, fits, last⟩ := split
  induction frames generalizing count with
  | nil =>
    obtain ⟨count, rfl⟩ : ∃ fuel, count = fuel + 1 := ⟨count - 1, by simp at enough; omega⟩
    cases decoded : decode? tail with
    | error fault => simp [pullUpTo, pull, decoded, ending]
    | ok found =>
      cases found with
      | none => simp [pullUpTo, pull, decoded, ending]
      | some pair => exact absurd decoded (last pair.1 pair.2)
  | cons frame frames ih =>
    obtain ⟨count, rfl⟩ : ∃ fuel, count = fuel + 1 := ⟨count - 1, by omega⟩
    have decoded := decode?_encode_append (fits frame List.mem_cons_self) (encodeAll frames ++ tail)
    have fewer : frames.length < count := by simpa using enough
    have rest := ih fewer fun other later => fits other (List.mem_cons_of_mem frame later)
    simp only [encodeAll_cons, List.append_assoc, pullUpTo, pull, decoded, List.drop_left, rest,
      List.map_cons, List.cons_append]

theorem length_le_encodeAll (frames : List Frame) : frames.length ≤ (encodeAll frames).length := by
  induction frames with
  | nil => rfl
  | cons frame frames ih =>
    have positive := frame.length_encode_pos
    simp only [encodeAll_cons, List.length_append, List.length_cons]
    omega

theorem pullAll_splits {bytes : Bytes} {frames : List Frame} {tail : Bytes}
    (split : Splits bytes frames tail) :
    pullAll ⟨bytes⟩ = (frames.map .ok ++ (ending tail).1, (ending tail).2) := by
  apply pullUpTo_splits split
  have fewer := length_le_encodeAll frames
  simp only [split.bytes_eq, List.length_append]
  omega

theorem step_splits {decoder : Decoder} {chunk : Bytes} {frames : List Frame} {tail : Bytes}
    (split : Splits (decoder.buffer ++ chunk) frames tail) :
    decoder.step chunk = (frames.map .ok ++ (ending tail).1, (ending tail).2) :=
  pullAll_splits split

theorem step_cases (decoder : Decoder) (chunk : Bytes) :
    ∃ frames, (∀ frame ∈ frames, frame.Fits) ∧
      ((∃ tail, decoder.buffer ++ chunk = encodeAll frames ++ tail ∧ Incomplete tail ∧
        decoder.step chunk = (frames.map .ok, ⟨tail⟩)) ∨
      (∃ tail fault, decoder.buffer ++ chunk = encodeAll frames ++ tail ∧
        decode? tail = .error fault ∧
        decoder.step chunk = (frames.map .ok ++ [.error fault], empty))) := by
  obtain ⟨frames, tail, split⟩ := exists_splits (decoder.buffer ++ chunk)
  refine ⟨frames, split.fits, ?_⟩
  have stepped := step_splits split
  cases decoded : decode? tail with
  | error fault =>
    rw [ending_fault decoded] at stepped
    exact .inr ⟨tail, fault, split.bytes_eq, decoded, stepped⟩
  | ok found =>
    cases found with
    | some pair => exact absurd decoded (split.last pair.1 pair.2)
    | none =>
      rw [ending_incomplete decoded, List.append_nil] at stepped
      exact .inl ⟨tail, split.bytes_eq, decoded, stepped⟩

theorem step_incomplete (decoder : Decoder) (chunk : Bytes) :
    Incomplete (decoder.step chunk).2.buffer := by
  obtain ⟨frames, -, clean | faulty⟩ := step_cases decoder chunk
  · obtain ⟨tail, -, incomplete, stepped⟩ := clean
    simpa [stepped] using incomplete
  · obtain ⟨tail, fault, -, -, stepped⟩ := faulty
    rw [stepped]
    exact incomplete_nil

/-- A chunk can be fed in two pieces, unless the first piece ends the stream; then the second adds
nothing. -/
theorem step_append (decoder : Decoder) (first second : Bytes) :
    (∃ (frames : List Frame) (tail : Bytes), decoder.step first = (frames.map .ok, ⟨tail⟩) ∧
      decoder.step (first ++ second) =
        (frames.map .ok ++ (step ⟨tail⟩ second).1, (step ⟨tail⟩ second).2)) ∨
    (∃ (frames : List Frame) (fault : Error), decoder.step first = (frames.map .ok ++ [.error fault], empty) ∧
      decoder.step (first ++ second) = (frames.map .ok ++ [.error fault], empty)) := by
  obtain ⟨frames, fits, ⟨tail, split, incomplete, stepped⟩ | ⟨tail, fault, split, faulty, stepped⟩⟩ :=
    step_cases decoder first
  · obtain ⟨later, rest, again⟩ := exists_splits (tail ++ second)
    have front : Splits (decoder.buffer ++ first) frames tail :=
      split ▸ splits_of_incomplete fits incomplete
    have whole : Splits (decoder.buffer ++ (first ++ second)) (frames ++ later) rest := by
      rw [← List.append_assoc]
      exact front.extend again
    have behind : Splits (buffer ⟨tail⟩ ++ second) later rest := again
    refine .inl ⟨frames, tail, stepped, ?_⟩
    rw [step_splits whole, step_splits behind, List.map_append, List.append_assoc]
  · have later := decode?_append_fault faulty second
    have whole : Splits (decoder.buffer ++ (first ++ second)) frames (tail ++ second) := by
      rw [← List.append_assoc, split, List.append_assoc]
      exact splits_of_fault fits later
    refine .inr ⟨frames, fault, stepped, ?_⟩
    rw [step_splits whole, ending_fault later]

theorem step_nil {decoder : Decoder} (incomplete : Incomplete decoder.buffer) :
    decoder.step [] = ([], decoder) := by
  have split : Splits (decoder.buffer ++ []) [] decoder.buffer := by
    rw [List.append_nil]
    exact splits_nil incomplete
  rw [step_splits split, ending_incomplete incomplete]
  rfl

theorem step_empty {frames : List Frame} {tail : Bytes} (fits : ∀ frame ∈ frames, frame.Fits)
    (incomplete : Incomplete tail) :
    empty.step (encodeAll frames ++ tail) = (frames.map .ok, ⟨tail⟩) := by
  have split : Splits (empty.buffer ++ (encodeAll frames ++ tail)) frames tail :=
    splits_of_incomplete fits incomplete
  rw [step_splits split, ending_incomplete incomplete, List.append_nil]

/-- The frames among items, without the fault that may end them. -/
def framesOf (items : List (Except Error Frame)) : List Frame := items.filterMap Except.toOption

@[simp] theorem framesOf_ok (frames : List Frame) : framesOf (frames.map .ok) = frames := by
  simp [framesOf, List.filterMap_map, Function.comp_def, Except.toOption]

@[simp] theorem framesOf_append (first second : List (Except Error Frame)) :
    framesOf (first ++ second) = framesOf first ++ framesOf second := List.filterMap_append

@[simp] theorem framesOf_cons (frame : Frame) (items : List (Except Error Frame)) :
    framesOf (.ok frame :: items) = frame :: framesOf items := rfl

theorem splits_framesOf (decoder : Decoder) (chunk : Bytes) :
    ∃ rest, Splits (decoder.buffer ++ chunk) (framesOf (decoder.step chunk).1) rest := by
  obtain ⟨frames, rest, split⟩ := exists_splits (decoder.buffer ++ chunk)
  have only : framesOf (ending rest).1 = [] := by
    rw [ending]
    split <;> rfl
  rw [step_splits split, framesOf_append, framesOf_ok, only, List.append_nil]
  exact ⟨rest, split⟩

theorem length_lt_of_incomplete {buffer chunk rest : Bytes} {frames : List Frame}
    (incomplete : Incomplete buffer) (fits : ∀ frame ∈ frames, frame.Fits) (some_frame : frames ≠ [])
    (split : buffer ++ chunk = encodeAll frames ++ rest) :
    buffer.length < (encodeAll frames).length := by
  by_contra longer
  have inside : encodeAll frames <+: buffer := by
    have whole : encodeAll frames <+: buffer ++ chunk := split ▸ List.prefix_append _ rest
    exact List.prefix_of_prefix_length_le whole (List.prefix_append buffer chunk) (by omega)
  obtain ⟨left, rfl⟩ := inside
  obtain ⟨frame, others, rfl⟩ := List.exists_cons_of_ne_nil some_frame
  rw [encodeAll_cons, List.append_assoc, Incomplete,
    decode?_encode_append (fits frame List.mem_cons_self)] at incomplete
  cases incomplete

theorem encodeAll_front {first second : List Frame} {tail other : Bytes}
    (fits : ∀ frame ∈ first, frame.Fits) (later_fits : ∀ frame ∈ second, frame.Fits)
    (same : encodeAll first ++ tail = encodeAll second ++ other) :
    (∃ later, second = first ++ later ∧ tail = encodeAll later ++ other) ∨
      ∃ later, first = second ++ later ∧ other = encodeAll later ++ tail := by
  induction first generalizing second with
  | nil => exact .inl ⟨second, rfl, same⟩
  | cons frame first ih =>
    cases second with
    | nil => exact .inr ⟨frame :: first, rfl, same.symm⟩
    | cons head second =>
      rw [encodeAll_cons, encodeAll_cons, List.append_assoc, List.append_assoc] at same
      have decoded := decode?_encode_append (fits frame List.mem_cons_self) (encodeAll first ++ tail)
      have read := decode?_encode_append (later_fits head List.mem_cons_self)
        (encodeAll second ++ other)
      rw [same, read] at decoded
      obtain ⟨rfl, -⟩ := Prod.mk.inj (Option.some.inj (Except.ok.inj decoded))
      have rest := ih (fun next present => fits next (List.mem_cons_of_mem head present))
        (fun next present => later_fits next (List.mem_cons_of_mem head present))
        (List.append_cancel_left same)
      rcases rest with ⟨later, rfl, rest⟩ | ⟨later, rfl, rest⟩
      · exact .inl ⟨later, rfl, rest⟩
      · exact .inr ⟨later, rfl, rest⟩

theorem eq_nil_of_last {frames : List Frame} {rest : Bytes} (fits : ∀ frame ∈ frames, frame.Fits)
    (last : ∀ frame taken, decode? (encodeAll frames ++ rest) ≠ .ok (some (frame, taken))) :
    frames = [] := by
  cases frames with
  | nil => rfl
  | cons frame frames =>
    have decoded := decode?_encode_append (fits frame List.mem_cons_self) (encodeAll frames ++ rest)
    rw [← List.append_assoc, ← encodeAll_cons] at decoded
    exact absurd decoded (last _ _)

theorem encodeAll_cancel {first second : List Frame} {tail : Bytes}
    (fits : ∀ frame ∈ first, frame.Fits) (later_fits : ∀ frame ∈ second, frame.Fits)
    (same : encodeAll first ++ tail = encodeAll second) :
    ∃ later, second = first ++ later ∧ tail = encodeAll later := by
  have whole : encodeAll first ++ tail = encodeAll second ++ [] := by rw [same, List.append_nil]
  rcases encodeAll_front fits later_fits whole with ⟨later, more, rest⟩ | ⟨later, more, rest⟩
  · exact ⟨later, more, by rw [rest, List.append_nil]⟩
  · obtain ⟨nothing, rfl⟩ := List.append_eq_nil_iff.mp rest.symm
    cases later with
    | nil => exact ⟨[], by rw [more, List.append_nil, List.append_nil], rfl⟩
    | cons frame later => simp [encode_ne_nil] at nothing

theorem step_stream {decoder : Decoder} {chunk rest : Bytes} {frames : List Frame}
    (fits : ∀ frame ∈ frames, frame.Fits)
    (stream : decoder.buffer ++ chunk ++ rest = encodeAll frames) :
    ∃ early late tail, frames = early ++ late ∧ decoder.step chunk = (early.map .ok, ⟨tail⟩) ∧
      Incomplete tail ∧ tail ++ rest = encodeAll late := by
  obtain ⟨early, early_fits, ⟨tail, split, incomplete, stepped⟩ | ⟨tail, fault, split, decoded, -⟩⟩ :=
    step_cases decoder chunk
  · rw [split, List.append_assoc] at stream
    obtain ⟨late, frames_eq, tail_eq⟩ := encodeAll_cancel early_fits fits stream
    exact ⟨early, late, tail, frames_eq, stepped, incomplete, tail_eq⟩
  · rw [split, List.append_assoc] at stream
    obtain ⟨late, rfl, tail_eq⟩ := encodeAll_cancel early_fits fits stream
    have faulty := decode?_append_fault decoded rest
    rw [tail_eq] at faulty
    cases late with
    | nil => cases faulty
    | cons frame late =>
      rw [encodeAll_cons, decode?_encode_append
        (fits frame (List.mem_append_right early List.mem_cons_self))] at faulty
      cases faulty

theorem eq_nil_of_incomplete {frames : List Frame} (fits : ∀ frame ∈ frames, frame.Fits)
    (incomplete : Incomplete (encodeAll frames)) : frames = [] := by
  have last : ∀ frame taken, decode? (encodeAll frames ++ []) ≠ .ok (some (frame, taken)) := by
    intro frame taken decoded
    rw [List.append_nil, show decode? (encodeAll frames) = .ok none from incomplete] at decoded
    cases decoded
  exact eq_nil_of_last fits last

end Decoder

end EngineClient.Frame
