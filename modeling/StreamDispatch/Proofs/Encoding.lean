import StreamDispatch.Proofs.RoundTrip

/-! What a payload is encoded to. A width that no length field has and a payload too long for its
width are refused with an error, but only if a buffer for the whole frame could be had: room is
asked for first, so a width beyond every buffer unwinds although it was to be refused. -/
namespace StreamDispatch.Framing

variable {width size : Nat} {payload frame : Bytes}

/-- A length field has this width, and it can announce so many bytes. -/
def Carries (width size : Nat) : Prop :=
  width = 1 ∧ size ≤ 255 ∨ width = 2 ∧ size ≤ 65535 ∨ width = 4 ∧ size ≤ 2147483647

theorem carries_iff :
    Carries width size ↔ ∃ known : LengthWidth, width = known.size ∧ size ≤ known.maxPayload := by
  constructor
  · rintro (⟨rfl, short⟩ | ⟨rfl, short⟩ | ⟨rfl, short⟩)
    · exact ⟨.one, rfl, short⟩
    · exact ⟨.two, rfl, short⟩
    · exact ⟨.four, rfl, short⟩
  · rintro ⟨known, rfl, short⟩
    cases known with
    | one => exact .inl ⟨rfl, short⟩
    | two => exact .inr (.inl ⟨rfl, short⟩)
    | four => exact .inr (.inr ⟨rfl, short⟩)

/-! ### The room for a frame -/

/-- What asking for a buffer of so many bytes unwinds with: their number is no word, or it is more
than any buffer holds. -/
def unwinding (width size : Nat) : Panic :=
  if Word.bound ≤ width + size then .text "attempt to add with overflow"
  else .text "capacity overflow"

theorem reserve_within (room : width + size ≤ Word.maxCapacity) : reserve width size = .ok () := by
  have word : Word.maxCapacity < Word.bound := by decide
  rw [reserve, if_neg (by omega), if_neg (by omega)]

theorem reserve_beyond (much : Word.maxCapacity < width + size) :
    reserve width size = .error (unwinding width size) := by
  unfold reserve unwinding
  by_cases word : Word.bound ≤ width + size
  · rw [if_pos word, if_pos word]
  · rw [if_neg word, if_neg word, if_pos much]

/-- There is always room for a frame that a length field can announce. -/
theorem Carries.room (carries : Carries width size) : width + size ≤ Word.maxCapacity := by
  have large : 4 + 2147483647 ≤ Word.maxCapacity := by decide
  rcases carries with ⟨rfl, short⟩ | ⟨rfl, short⟩ | ⟨rfl, short⟩ <;> omega

/-! ### The three answers -/

theorem encode_carried (carries : Carries width payload.length) :
    encode width payload = .ok (.ok (Bytes.ofNat width payload.length ++ payload)) := by
  obtain ⟨known, rfl, short⟩ := carries_iff.mp carries
  exact encode_ok_iff.mpr ⟨short, rfl⟩

theorem encode_refused (room : width + payload.length ≤ Word.maxCapacity)
    (refused : ¬ Carries width payload.length) :
    encode width payload = .ok (.error (.payload payload.length width)) := by
  cases found : LengthWidth.ofNat? width with
  | none => simp [encode, reserve_within room, found, bind, Except.bind, pure, Except.pure]
  | some known =>
    have sized : width = known.size := LengthWidth.ofNat?_eq_some.mp found
    have long : ¬ payload.length ≤ known.maxPayload :=
      fun short => refused (carries_iff.mpr ⟨known, sized, short⟩)
    simp [encode, reserve_within room, found, long, bind, Except.bind, pure, Except.pure]

theorem encode_unwinds (much : Word.maxCapacity < width + payload.length) :
    encode width payload = .error (unwinding width payload.length) := by
  rw [encode, reserve_beyond much]
  rfl

/-- The length in front of a payload is the only row of so many bytes with its value. -/
theorem Carries.frame_iff (carries : Carries width payload.length) :
    frame = Bytes.ofNat width payload.length ++ payload ↔
      ∃ length : Bytes, length.length = width ∧ Bytes.toNat length = payload.length ∧
        frame = length ++ payload := by
  constructor
  · rintro rfl
    obtain ⟨known, rfl, short⟩ := carries_iff.mp carries
    have fits := (LengthWidth.le_maxPayload_iff.mp short).1
    exact ⟨_, Bytes.length_ofNat .., Bytes.toNat_ofNat fits, rfl⟩
  · rintro ⟨length, rfl, value, rfl⟩
    rw [← value, Bytes.ofNat_toNat]

/-- What encoding answers, for every width and every payload. It succeeds exactly if a length field
has the width and can announce the payload; the frame is then the length in so many bytes, the most
significant first, and the payload. Everything else is refused with both numbers as long as the
frame would fit in a buffer, and unwinds if it would not. -/
theorem encode_answers_within_capacity (width : Nat) (payload : Bytes) :
    (∀ frame, encode width payload = .ok (.ok frame) ↔ Carries width payload.length ∧
      ∃ length : Bytes, length.length = width ∧ Bytes.toNat length = payload.length ∧
        frame = length ++ payload) ∧
    (∀ fault, encode width payload = .ok (.error fault) ↔ ¬ Carries width payload.length ∧
      width + payload.length ≤ Word.maxCapacity ∧ fault = .payload payload.length width) ∧
    (∀ unwound, encode width payload = .error unwound ↔
      Word.maxCapacity < width + payload.length ∧ unwound = unwinding width payload.length) ∧
    (IoError.payload payload.length width).kind = .invalidInput ∧
    (IoError.payload payload.length width).message =
      toString payload.length ++ " bytes do not fit a " ++ toString width ++ "-byte length" := by
  by_cases carries : Carries width payload.length
  · have room := carries.room
    rw [encode_carried carries]
    refine ⟨fun frame => ?_, fun fault => ?_, fun unwound => ?_, rfl, rfl⟩
    · rw [← carries.frame_iff]
      simp [carries, eq_comm]
    · simp [carries]
    · simp [Nat.not_lt_of_le room]
  · by_cases room : width + payload.length ≤ Word.maxCapacity
    · rw [encode_refused room carries]
      refine ⟨fun frame => ?_, fun fault => ?_, fun unwound => ?_, rfl, rfl⟩
      · simp [carries]
      · simp [carries, room, eq_comm]
      · simp [Nat.not_lt_of_le room]
    · rw [encode_unwinds (Nat.lt_of_not_le room)]
      refine ⟨fun frame => ?_, fun fault => ?_, fun unwound => ?_, rfl, rfl⟩
      · simp [carries]
      · simp [room]
      · simp [Nat.lt_of_not_le room, eq_comm]

/-- Two widths that a word can hold and no length field has. A payload of one byte is not refused
with an error at either of them: the first frame is longer than any buffer, and the length of the
second is no word any more. -/
theorem wide_width_unwinds :
    9223372036854775808 < Word.bound ∧ 18446744073709551615 < Word.bound ∧
      encode 9223372036854775808 [120] = .error (.text "capacity overflow") ∧
      encode 18446744073709551615 [120] = .error (.text "attempt to add with overflow") ∧
      ¬ ∀ (width : Nat) (payload : Bytes), width < Word.bound →
        ∃ answer, encode width payload = .ok answer := by
  refine ⟨by decide, by decide, rfl, rfl, fun total => ?_⟩
  obtain ⟨answer, answered⟩ := total 9223372036854775808 [120] (by decide)
  have unwound : encode 9223372036854775808 [120] = .error (.text "capacity overflow") := rfl
  exact absurd (unwound.symm.trans answered) (by simp)

end StreamDispatch.Framing
