import StreamDispatch.Framing.Checked
import StreamDispatch.Framing.Encode
import StreamDispatch.Proofs.Cutting

/-! Decoding stays within its words and its buffer. No check that a machine makes on the way ever
fails, whatever framing was accepted and whatever bytes a buffer holds: a header is only read once
the buffer has it, so its end is at most the length of a buffer, and the length in it is at most
`maxLength`; their sum is far from the end of the words. -/
namespace StreamDispatch.Framing

variable {framing : Framing} {bytes rest : Bytes} {frames : List Bytes}

namespace Checked

variable {buffer field : Bytes} {taken : List Bytes}

/-! ### Checks that succeed -/

theorem add_within {first second : Nat} (fits : first + second < Word.bound) :
    add first second = .ok (first + second) := if_pos fits

theorem slice_within {start stop : Nat} (ordered : start ≤ stop) (inside : stop ≤ bytes.length) :
    slice bytes start stop = .ok ((bytes.drop start).take (stop - start)) := by
  rw [slice, if_neg (Nat.not_lt_of_le ordered), if_neg (Nat.not_lt_of_le inside)]

theorem splitTo_within {count : Nat} (inside : count ≤ bytes.length) :
    splitTo bytes count = .ok (bytes.take count, bytes.drop count) :=
  if_neg (Nat.not_lt_of_le inside)

/-- A field of one of the three widths is read whole. -/
theorem readField_sized {width : LengthWidth} (sized : field.length = width.size) :
    readField field = .ok (Bytes.toNat field) := by
  have whole {count : Nat} (all : field.length = count) : slice field 0 count = .ok field := by
    rw [slice_within (Nat.zero_le _) (Nat.le_of_eq all.symm), List.drop_zero, Nat.sub_zero,
      List.take_of_length_le (Nat.le_of_eq all)]
  cases width with
  | one | two | four =>
    rw [LengthWidth.size] at sized
    simp only [readField, sized, whole sized, Except.map]

/-- The header of a framing that was accepted ends within the words. -/
theorem minLength_eq (framing : Framing) : minLength framing = .ok framing.minLength := by
  cases framing with
  | fixed size positive => rfl
  | lengthField offset width fits => exact add_within fits

/-- The end of a header in a buffer and a length that is in range have a sum. -/
theorem judge_eq {header length : Nat} (held : header ≤ Word.maxCapacity) :
    judge buffer header length = .ok (
      if maxLength < length then .tooLong length
      else if buffer.length < header + length then .incomplete else .frame (header + length)) := by
  unfold judge
  by_cases large : maxLength < length
  · rw [if_pos large, if_pos large]
  · have far : Word.maxCapacity + maxLength < Word.bound := by decide
    rw [if_neg large, if_neg large, add_within (by omega)]
    rfl

/-- All checks at the front of a buffer succeed. -/
theorem front_eq (held : buffer.length ≤ Word.maxCapacity) :
    front framing buffer = .ok (framing.front buffer) := by
  rw [Framing.front_eq]
  cases framing with
  | fixed size positive =>
    refine congrArg Except.ok ?_
    by_cases short : buffer.length < size
    · exact (if_pos short).trans (if_pos short).symm
    · exact (if_neg short).trans ((if_neg short).trans (if_neg short)).symm
  | lengthField offset width fits =>
    have header : add offset width.size = .ok (offset + width.size) := add_within fits
    rw [front, header]
    by_cases short : buffer.length < offset + width.size
    · exact (if_pos short).trans (congrArg Except.ok (if_pos short).symm)
    · have complete : offset + width.size ≤ buffer.length := Nat.le_of_not_lt short
      have sized : ((buffer.drop offset).take width.size).length = width.size :=
        List.length_take_of_le (by rw [List.length_drop]; omega)
      calc
        _ = slice buffer offset (offset + width.size) >>= fun field =>
              readField field >>= judge buffer (offset + width.size) := if_neg short
        _ = judge buffer (offset + width.size)
              (Bytes.toNat ((buffer.drop offset).take width.size)) := by
            rw [slice_within (Nat.le_add_right ..) complete, Nat.add_sub_cancel_left]
            exact congrArg (· >>= _) (readField_sized sized)
        _ = _ := judge_eq (Nat.le_trans complete held)
        _ = _ := congrArg Except.ok (if_neg short).symm

/-! ### The loop -/

section

variable (held : buffer.length ≤ Word.maxCapacity)
include held

/-- A frame that is found is split off, and the loop goes on behind it. -/
theorem decode_frame {size : Nat} (found : framing.front buffer = .frame size) :
    decode framing taken buffer =
      decode framing (taken ++ [buffer.take size]) (buffer.drop size) := by
  have split := splitTo_within (Framing.front_frame found).2
  rw [decode]
  split <;> rename_i seen <;> rw [front_eq held, found] at seen <;> cases seen
  rw [split]

theorem decode_incomplete (found : framing.front buffer = .incomplete) :
    decode framing taken buffer = .ok (.ok taken, buffer) := by
  rw [decode]
  split <;> rename_i seen <;> rw [front_eq held, found] at seen <;> cases seen

theorem decode_tooLong {length : Nat} (found : framing.front buffer = .tooLong length) :
    decode framing taken buffer =
      .ok (if taken.isEmpty then .error (.tooLong length) else .ok taken, buffer) := by
  rw [decode]
  split <;> rename_i seen <;> rw [front_eq held, found] at seen <;> cases seen
  split <;> rfl

end

theorem drop_held (held : buffer.length ≤ Word.maxCapacity) (size : Nat) :
    (buffer.drop size).length ≤ Word.maxCapacity :=
  Nat.le_trans (List.drop_sublist size buffer).length_le held

/-- Behind a first frame the loop hands out all that the cut takes, and nothing fails it. -/
theorem decode_behind (held : buffer.length ≤ Word.maxCapacity) (some : taken ≠ []) :
    decode framing taken buffer =
      .ok (.ok (taken ++ (framing.cut buffer).frames), (framing.cut buffer).rest) := by
  induction buffer using framing.cut_induction generalizing taken with
  | frame buffer size found ih =>
    have more : taken ++ [buffer.take size] ≠ [] := List.append_ne_nil_of_left_ne_nil some _
    rw [decode_frame held found, ih (drop_held held size) more, cut_of_frame found,
      List.append_assoc]
    rfl
  | stop buffer stops =>
    rw [cut_of_stop stops, List.append_nil]
    cases found : framing.front buffer with
    | frame size => exact absurd found (stops size)
    | incomplete => exact decode_incomplete held found
    | tooLong length => rw [decode_tooLong held found, if_neg (by simp [some])]

/-- No check fails in the loop, and it does what `decode` says. -/
theorem decode_eq (held : buffer.length ≤ Word.maxCapacity) :
    decode framing [] buffer = .ok (framing.decode buffer) := by
  rw [Framing.decode]
  cases found : framing.front buffer with
  | frame size =>
    rw [decode_frame held found, decode_behind (drop_held held size) (by simp), cut_of_frame found]
    rfl
  | incomplete =>
    rw [decode_incomplete held found, cut_of_stop (stops_of_incomplete found), found]
  | tooLong length =>
    rw [decode_tooLong held found, cut_of_stop (stops_of_tooLong found), found]
    rfl

end Checked

/-! ### Frames and short buffers -/

theorem minLength_le_handed (decoded : framing.decode bytes = (.ok frames, rest)) :
    ∀ frame ∈ frames, framing.minLength ≤ frame.length := by
  intro frame handed
  rw [decode_ok (congrArg Prod.fst decoded)] at handed
  exact (framing.cut_isFrame bytes frame handed).1

theorem decode_short (short : bytes.length < framing.minLength) :
    framing.decode bytes = (.ok [], bytes) := by
  have found : framing.front bytes = .incomplete := by rw [front_eq, if_pos short]
  rw [decode, cut_of_stop (stops_of_incomplete found), found]

/-- No framing that was accepted makes decoding fail a check: its header ends within the words, and
for every buffer that can exist the machine gets through all sums, slices and splits and does what
`decode` says. Frames are never shorter than the shortest one, which is not empty, and a buffer
shorter than that is handed back as it is. -/
theorem decode_stays_in_words (framing : Framing) (bytes : Bytes)
    (held : bytes.length ≤ Word.maxCapacity) :
    Checked.minLength framing = .ok framing.minLength ∧ 1 ≤ framing.minLength ∧
      Checked.decode framing [] bytes = .ok (framing.decode bytes) ∧
      (∀ frames rest, framing.decode bytes = (.ok frames, rest) →
        ∀ frame ∈ frames, framing.minLength ≤ frame.length) ∧
      (bytes.length < framing.minLength → framing.decode bytes = (.ok [], bytes)) :=
  ⟨Checked.minLength_eq framing, framing.minLength_pos, Checked.decode_eq held,
    fun _ _ => minLength_le_handed, decode_short⟩

/-- The last offset that a length field may have: no buffer holds its header. -/
theorem decode_stays_in_words_far :
    let framing : Framing := .lengthField 18446744073709551611 .four (by decide)
    let bytes : Bytes := [0, 0, 0, 1, 7]
    bytes.length ≤ Word.maxCapacity ∧ Checked.minLength framing = .ok 18446744073709551615 ∧
      Checked.decode framing [] bytes = .ok (.ok [], bytes) := by
  intro framing bytes
  have held : bytes.length ≤ Word.maxCapacity := by decide
  obtain ⟨least, _, machine, _, short⟩ := decode_stays_in_words framing bytes held
  exact ⟨held, least, machine.trans (congrArg Except.ok (short (by decide)))⟩

end StreamDispatch.Framing
