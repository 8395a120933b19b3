import StreamDispatch.Framing.Encode
import StreamDispatch.Proofs.Cutting

/-! Writing frames and cutting them off are inverse to each other. The writer and the cutter set
their limits each for themselves; at every width of the length field the limits agree. -/
namespace StreamDispatch

namespace LengthWidth

/-- The writer's limit is the largest length that can both be written and be read. -/
theorem le_maxPayload_iff {width : LengthWidth} {length : Nat} :
    length ≤ width.maxPayload ↔ length < Bytes.bound width.size ∧ length ≤ maxLength := by
  cases width <;> simp only [maxPayload, size, Bytes.bound, maxLength] <;> omega

end LengthWidth

namespace Framing

variable {width : LengthWidth} {payload frame : Bytes}

/-- Frames that begin with their length. -/
def prefixed (width : LengthWidth) : Framing :=
  .lengthField 0 width (by cases width <;> decide)

theorem ofLengthField_size (width : LengthWidth) :
    ofLengthField 0 width.size = .ok (prefixed width) := by
  cases width <;> rfl

theorem encode_ok_iff :
    encode width.size payload = .ok (.ok frame) ↔
      payload.length ≤ width.maxPayload ∧
        frame = Bytes.ofNat width.size payload.length ++ payload := by
  have known : LengthWidth.ofNat? width.size = some width := LengthWidth.ofNat?_eq_some.mpr rfl
  by_cases short : payload.length ≤ width.maxPayload
  · have room : reserve width.size payload.length = .ok () := by
      have small : width.size + width.maxPayload ≤ Word.maxCapacity := by cases width <;> decide
      have word : Word.maxCapacity < Word.bound := by decide
      have fits : ¬ Word.bound ≤ width.size + payload.length := by omega
      have held : ¬ Word.maxCapacity < width.size + payload.length := by omega
      simp [reserve, fits, held]
    simp [encode, room, known, short, bind, Except.bind, pure, Except.pure, eq_comm]
  · have refused : encode width.size payload ≠ .ok (.ok frame) := by
      cases asked : reserve width.size payload.length <;>
        simp [encode, asked, known, short, bind, Except.bind, pure, Except.pure]
    simp [refused, short]

theorem isFrame_prefixed_iff :
    (prefixed width).IsFrame frame ↔
      ∃ payload, payload.length ≤ width.maxPayload ∧
        frame = Bytes.ofNat width.size payload.length ++ payload := by
  have header (bytes : Bytes) :
      (prefixed width).announced bytes = Bytes.toNat (bytes.take width.size) := rfl
  have least : (prefixed width).minLength = width.size := Nat.zero_add _
  rw [IsFrame, header, least]
  constructor
  · rintro ⟨complete, legal, length⟩
    have sized : (frame.take width.size).length = width.size := List.length_take_of_le complete
    have digits := Bytes.toNat_lt_bound (frame.take width.size)
    have written := Bytes.ofNat_toNat (frame.take width.size)
    have rest : (frame.drop width.size).length = Bytes.toNat (frame.take width.size) := by
      rw [List.length_drop]
      omega
    rw [sized] at digits written
    rw [← rest] at written digits legal
    refine ⟨frame.drop width.size, LengthWidth.le_maxPayload_iff.mpr ⟨digits, legal⟩, ?_⟩
    rw [written, List.take_append_drop]
  · rintro ⟨payload, short, rfl⟩
    obtain ⟨fits, legal⟩ := LengthWidth.le_maxPayload_iff.mp short
    have length : (Bytes.ofNat width.size payload.length).length = width.size :=
      Bytes.length_ofNat ..
    rw [List.take_left' length, Bytes.toNat_ofNat fits, List.length_append, length]
    exact ⟨Nat.le_add_right .., legal, rfl⟩

theorem encode_isFrame (written : encode width.size payload = .ok (.ok frame)) :
    (prefixed width).IsFrame frame ∧ frame.drop width.size = payload := by
  have shape := encode_ok_iff.mp written
  refine ⟨isFrame_prefixed_iff.mpr ⟨payload, shape⟩, ?_⟩
  rw [shape.2, List.drop_left' (Bytes.length_ofNat ..)]

theorem IsFrame.encode (whole : (prefixed width).IsFrame frame) :
    encode width.size (frame.drop width.size) = .ok (.ok frame) := by
  obtain ⟨payload, shape⟩ := isFrame_prefixed_iff.mp whole
  have written := encode_ok_iff.mpr shape
  rwa [(encode_isFrame written).2]

/-- Frames that are written one by one carry the payloads in order. -/
theorem encode_all {payloads frames : List Bytes}
    (written : payloads.map (encode width.size) = frames.map fun frame => .ok (.ok frame)) :
    (∀ frame ∈ frames, (prefixed width).IsFrame frame) ∧
      frames.map (·.drop width.size) = payloads := by
  induction payloads generalizing frames with
  | nil =>
    obtain rfl : frames = [] := List.map_eq_nil_iff.mp written.symm
    exact ⟨by simp, rfl⟩
  | cons payload later ih =>
    cases frames with
    | nil => simp at written
    | cons frame others =>
      obtain ⟨first, rest⟩ := List.cons.inj written
      obtain ⟨whole, carried⟩ := encode_isFrame first
      obtain ⟨wholes, all⟩ := ih rest
      exact ⟨List.forall_mem_cons.mpr ⟨whole, wholes⟩, by rw [List.map_cons, carried, all]⟩

/-- Writing and cutting are inverse on the whole format. Frames written in a row, with an unfinished
frame behind them, are cut off in order with their payloads, and the unfinished frame is left;
every frame that is cut off any bytes is the one that is written for its payload; so a payload is
accepted for writing exactly if a frame that carries it can be cut off something. -/
theorem encode_decode_inverse (width : LengthWidth) :
    ofLengthField 0 width.size = .ok (prefixed width) ∧
      (∀ (payloads frames : List Bytes) (tail : Bytes),
        (payloads.map (encode width.size) = frames.map fun frame => .ok (.ok frame)) →
        (∃ payload frame, encode width.size payload = .ok (.ok frame) ∧
          tail <+: frame ∧ tail ≠ frame) →
        (prefixed width).decode (frames.flatten ++ tail) = (.ok frames, tail) ∧
          frames.map (·.drop width.size) = payloads) ∧
      (∀ bytes frames rest, (prefixed width).decode bytes = (.ok frames, rest) →
        ∀ frame ∈ frames, encode width.size (frame.drop width.size) = .ok (.ok frame)) ∧
      ∀ payload, (∃ frame, encode width.size payload = .ok (.ok frame)) ↔
        ∃ bytes frames rest, (prefixed width).decode bytes = (.ok frames, rest) ∧
          ∃ frame ∈ frames, frame.drop width.size = payload := by
  have forth {payloads frames : List Bytes} {tail : Bytes}
      (written : payloads.map (encode width.size) = frames.map fun frame => .ok (.ok frame))
      (unfinished : (prefixed width).front tail = .incomplete) :
      (prefixed width).decode (frames.flatten ++ tail) = (.ok frames, tail) ∧
        frames.map (·.drop width.size) = payloads := by
    obtain ⟨whole, carried⟩ := encode_all written
    have cut := cut_row whole (stops_of_incomplete unfinished)
    refine ⟨?_, carried⟩
    rw [decode_of_incomplete (by rw [cut, unfinished]), cut]
  have back {bytes rest : Bytes} {frames : List Bytes}
      (decoded : (prefixed width).decode bytes = (.ok frames, rest)) {frame : Bytes}
      (member : frame ∈ frames) : encode width.size (frame.drop width.size) = .ok (.ok frame) := by
    have cut := decode_ok (by rw [decoded])
    exact (cut_isFrame _ bytes frame (cut ▸ member)).encode
  refine ⟨ofLengthField_size width, ?_, fun _ _ _ decoded _ member => back decoded member, ?_⟩
  · rintro payloads frames tail written ⟨_, frame, last, front, unfinished⟩
    exact forth written ((encode_isFrame last).1.front_part front unfinished)
  · intro payload
    constructor
    · rintro ⟨frame, written⟩
      have alone : [payload].map (encode width.size) =
          [frame].map fun frame => .ok (.ok frame) := by
        simp [written]
      obtain ⟨decoded, carried⟩ := forth alone (front_nil _)
      exact ⟨_, _, _, decoded, frame, List.mem_singleton_self frame, (List.cons.inj carried).1⟩
    · rintro ⟨bytes, frames, rest, decoded, frame, member, rfl⟩
      exact ⟨frame, back decoded member⟩

/-- Three frames, one of them empty, and half a length behind them. -/
theorem encode_decode_inverse_three :
    let payloads : List Bytes := [[7], [], [1, 2]]
    let frames : List Bytes := [[0, 1, 7], [0, 0], [0, 2, 1, 2]]
    payloads.map (encode LengthWidth.two.size) = frames.map (fun frame => .ok (.ok frame)) ∧
      encode LengthWidth.two.size [9] = .ok (.ok [0, 1, 9]) ∧
      (prefixed .two).decode [0, 1, 7, 0, 0, 0, 2, 1, 2, 0] = (.ok frames, [0]) := by
  intro payloads frames
  have written : payloads.map (encode LengthWidth.two.size) =
      frames.map fun frame => .ok (.ok frame) := rfl
  have last : encode LengthWidth.two.size [9] = .ok (.ok [0, 1, 9]) := rfl
  exact ⟨written, last, ((encode_decode_inverse .two).2.1 payloads frames [0] written
    ⟨[9], [0, 1, 9], last, ⟨[1, 9], rfl⟩, by decide⟩).1⟩

end Framing

end StreamDispatch
