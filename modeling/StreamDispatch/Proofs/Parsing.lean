import StreamDispatch.Proofs.Cutting

/-! Decoding is parsing. What a well-formed frame is, and what a header out of range is, is said
here part by part and without the decoder; a byte string then has exactly one parse that goes as far
as possible, and `decode` finds it. -/
namespace StreamDispatch.Framing

variable {framing : Framing} {bytes frame rest : Bytes} {frames : List Bytes} {length : Nat}

/-- Every framing is one that was accepted when it was set up. -/
theorem accepted (framing : Framing) :
    (∃ size, ofSize size = .ok framing) ∨
      ∃ offset width, ofLengthField offset width = .ok framing := by
  cases framing with
  | fixed size positive => exact .inl ⟨size, dif_pos positive⟩
  | lengthField offset width fits =>
    have known : LengthWidth.ofNat? width.size = some width := LengthWidth.ofNat?_eq_some.mpr rfl
    refine .inr ⟨offset, width.size, ?_⟩
    simp [ofLengthField, known, fits]

/-! ### The grammar -/

/-- A frame: bytes of the one size; or some bytes up to the length, the length, and as many bytes as
it counts. -/
inductive WellFormed : Framing → Bytes → Prop where
  | fixed {size : Nat} {positive : 0 < size} {frame : Bytes} (sized : frame.length = size) :
      WellFormed (.fixed size positive) frame
  | lengthField {offset : Nat} {width : LengthWidth} {fits : offset + width.size < Word.bound}
      {leading field payload : Bytes} (placed : leading.length = offset)
      (sized : field.length = width.size) (counted : Bytes.toNat field = payload.length)
      (legal : payload.length ≤ maxLength) :
      WellFormed (.lengthField offset width fits) (leading ++ field ++ payload)

/-- A complete header that announces more than any frame may carry, whatever comes after it. -/
inductive OutOfRange : Framing → Bytes → Nat → Prop where
  | lengthField {offset : Nat} {width : LengthWidth} {fits : offset + width.size < Word.bound}
      {leading field later : Bytes} (placed : leading.length = offset)
      (sized : field.length = width.size) (large : maxLength < Bytes.toNat field) :
      OutOfRange (.lengthField offset width fits) (leading ++ field ++ later) (Bytes.toNat field)

/-- Frames in a row and a rest that begins with no further one. -/
structure Parses (framing : Framing) (bytes : Bytes) (frames : List Bytes) (rest : Bytes) :
    Prop where
  whole : frames.flatten ++ rest = bytes
  formed : ∀ frame ∈ frames, framing.WellFormed frame
  maximal : ∀ frame, frame <+: rest → ¬ framing.WellFormed frame

/-! ### The grammar and what stands at the front -/

theorem announced_parts {offset : Nat} {width : LengthWidth}
    {fits : offset + width.size < Word.bound} {leading field : Bytes}
    (placed : leading.length = offset) (sized : field.length = width.size) (later : Bytes) :
    (lengthField offset width fits).announced (leading ++ field ++ later) = Bytes.toNat field := by
  subst placed
  rw [announced, List.append_assoc, List.drop_left, List.take_left' sized]

theorem header_parts {offset : Nat} {width : LengthWidth}
    (complete : offset + width.size ≤ bytes.length) :
    ∃ leading field later, bytes = leading ++ field ++ later ∧ leading.length = offset ∧
      field.length = width.size := by
  refine ⟨bytes.take offset, (bytes.drop offset).take width.size,
    (bytes.drop offset).drop width.size, ?_, ?_, ?_⟩
  · rw [List.append_assoc, List.take_append_drop, List.take_append_drop]
  · exact List.length_take_of_le (by omega)
  · exact List.length_take_of_le (by rw [List.length_drop]; omega)

theorem wellFormed_iff : framing.WellFormed frame ↔ framing.IsFrame frame := by
  constructor
  · intro formed
    cases formed with
    | fixed sized => exact ⟨Nat.le_of_eq sized.symm, Nat.zero_le _, sized⟩
    | @lengthField offset width _ leading field payload placed sized counted legal =>
      rw [IsFrame, announced_parts placed sized, counted]
      have length :
          (leading ++ field ++ payload).length = offset + width.size + payload.length := by
        rw [List.length_append, List.length_append, placed, sized]
      exact ⟨length ▸ Nat.le_add_right .., legal, length⟩
  · rintro ⟨complete, legal, length⟩
    cases framing with
    | fixed size positive => exact .fixed length
    | lengthField offset width fits =>
      obtain ⟨leading, field, payload, rfl, placed, sized⟩ := header_parts complete
      rw [announced_parts placed sized] at legal length
      simp only [minLength, List.length_append, placed, sized] at length
      have counted : Bytes.toNat field = payload.length := by omega
      exact .lengthField placed sized counted (counted ▸ legal)

theorem outOfRange_iff :
    framing.OutOfRange bytes length ↔ framing.front bytes = .tooLong length := by
  constructor
  · rintro ⟨placed, sized, large⟩
    rw [front_eq, announced_parts placed sized]
    simp only [minLength, List.length_append, placed, sized]
    rw [if_neg (by omega), if_pos large]
  · intro found
    rw [front_eq] at found
    split at found
    · simp at found
    · rename_i complete
      split at found
      · rename_i large
        obtain rfl := Front.tooLong.inj found
        cases framing with
        | fixed size positive => simp [announced] at large
        | lengthField offset width fits =>
          obtain ⟨leading, field, later, rfl, placed, sized⟩ :=
            header_parts (Nat.le_of_not_lt complete)
          rw [announced_parts placed sized] at large ⊢
          exact .lengthField placed sized large
      · split at found <;> simp at found

/-- No frame can be cut off exactly if no frame begins there. -/
theorem stops_iff :
    framing.Stops rest ↔ ∀ frame, frame <+: rest → ¬ framing.WellFormed frame := by
  constructor
  · rintro stops frame ⟨later, rfl⟩ formed
    exact stops _ ((wellFormed_iff.mp formed).front_append later)
  · intro none size found
    exact none _ (List.take_prefix size rest) (wellFormed_iff.mpr (isFrame_take found))

/-! ### One parse -/

/-- The cut is the parse, and there is no other. -/
theorem parses_iff :
    framing.Parses bytes frames rest ↔
      frames = (framing.cut bytes).frames ∧ rest = (framing.cut bytes).rest := by
  constructor
  · rintro ⟨rfl, formed, maximal⟩
    rw [cut_row (fun frame member => wellFormed_iff.mp (formed frame member))
      (stops_iff.mpr maximal)]
    exact ⟨rfl, rfl⟩
  · rintro ⟨rfl, rfl⟩
    exact ⟨framing.cut_flatten bytes,
      fun frame member => wellFormed_iff.mpr (framing.cut_isFrame bytes frame member),
      stops_iff.mp (framing.stops_rest bytes)⟩

theorem Parses.again (parsed : framing.Parses bytes frames rest) : framing.Parses rest [] rest :=
  ⟨rfl, by simp, parsed.maximal⟩

namespace Parses

variable (parsed : framing.Parses bytes frames rest)
include parsed

theorem stop_eq : (framing.cut bytes).stop = framing.front rest := by
  obtain ⟨rfl, rfl⟩ := parses_iff.mp parsed
  exact (framing.front_rest bytes).1.symm

/-- A length out of range in front of everything fails the call and stays where it is. -/
theorem decode_error (none : frames = []) (large : framing.OutOfRange rest length) :
    framing.decode bytes = (.error (.tooLong length), bytes) := by
  have whole := parsed.whole
  obtain ⟨same, rfl⟩ := parses_iff.mp parsed
  subst none
  have failed : (framing.decode bytes).1 = .error (.tooLong length) :=
    decode_error_iff.mpr ⟨same.symm, length, parsed.stop_eq.trans (outOfRange_iff.mp large), rfl⟩
  refine Prod.ext failed ?_
  rw [decode_rest]
  exact whole

/-- Otherwise the frames of the parse are handed out and its rest is left. -/
theorem decode_ok (some : frames ≠ [] ∨ ∀ length, ¬ framing.OutOfRange rest length) :
    framing.decode bytes = (.ok frames, rest) := by
  have stop := parsed.stop_eq
  obtain ⟨rfl, rfl⟩ := parses_iff.mp parsed
  refine Prod.ext ?_ (framing.decode_rest bytes)
  cases decoded : (framing.decode bytes).1 with
  | ok handed => rw [Framing.decode_ok decoded]
  | error fault =>
    obtain ⟨nothing, length, large, _⟩ := decode_error_iff.mp decoded
    rcases some with cut | legal
    · exact absurd nothing cut
    · exact absurd (outOfRange_iff.mpr (stop.symm.trans large)) (legal length)

end Parses

/-- Every byte string has exactly one parse that goes as far as possible, and a call finds it. It
fails exactly if a length out of range stands in front of everything, which it names, and leaves
the bytes as they are; otherwise it hands out the frames and leaves the rest. A second call cuts
nothing more: it leaves the rest again, and it fails exactly if the rest begins with such a length,
which is the failure that the first call put off. -/
theorem decode_finds_the_parse (framing : Framing) (bytes : Bytes) :
    ∃ frames rest,
      (∀ others left, framing.Parses bytes others left ↔ others = frames ∧ left = rest) ∧
      (∀ length, frames = [] → framing.OutOfRange rest length →
        framing.decode bytes = (.error (.tooLong length), bytes)) ∧
      ((frames ≠ [] ∨ ∀ length, ¬ framing.OutOfRange rest length) →
        framing.decode bytes = (.ok frames, rest)) ∧
      (framing.decode bytes).2 = rest ∧
      (∀ length, framing.OutOfRange rest length →
        framing.decode rest = (.error (.tooLong length), rest)) ∧
      ((∀ length, ¬ framing.OutOfRange rest length) → framing.decode rest = (.ok [], rest)) := by
  have parsed : framing.Parses bytes (framing.cut bytes).frames (framing.cut bytes).rest :=
    parses_iff.mpr ⟨rfl, rfl⟩
  exact ⟨_, _, fun _ _ => parses_iff, fun _ => parsed.decode_error, parsed.decode_ok,
    framing.decode_rest bytes, fun _ => parsed.again.decode_error rfl,
    fun legal => parsed.again.decode_ok (.inr legal)⟩

/-- Two frames, and a length that is out of range behind them: the first call puts the failure
off. -/
example :
    let framing : Framing := .lengthField 0 .four (by decide)
    let bytes : Bytes := [0, 0, 0, 1, 7, 0, 0, 0, 0, 128, 0, 0, 0, 5]
    framing.decode bytes = (.ok [[0, 0, 0, 1, 7], [0, 0, 0, 0]], [128, 0, 0, 0, 5]) ∧
      framing.decode [128, 0, 0, 0, 5] = (.error (.tooLong 2147483648), [128, 0, 0, 0, 5]) := by
  exact ⟨by cbv, by cbv⟩

end StreamDispatch.Framing
