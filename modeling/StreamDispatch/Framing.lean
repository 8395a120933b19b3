import StreamDispatch.Bytes
import StreamDispatch.Error
import StreamDispatch.Word

/-!
Frames in a byte stream. Either every frame has one size, or a big-endian length of one, two or four
bytes stands at a fixed offset and counts the bytes that follow it. A frame is taken whole, with its
header. `decode` cuts all complete frames off the front of a buffer.
-/
namespace StreamDispatch

inductive LengthWidth where
  | one | two | four
  deriving DecidableEq, Repr

namespace LengthWidth

def size : LengthWidth → Nat
  | one => 1
  | two => 2
  | four => 4

def ofNat? : Nat → Option LengthWidth
  | 1 => some one
  | 2 => some two
  | 4 => some four
  | _ => none

theorem size_pos (width : LengthWidth) : 0 < width.size := by cases width <;> decide

theorem ofNat?_eq_some {n : Nat} {width : LengthWidth} :
    ofNat? n = some width ↔ n = width.size := by
  constructor
  · intro found
    unfold ofNat? at found
    split at found <;> simp_all [size] <;> (subst found; rfl)
  · rintro rfl
    cases width <;> rfl

end LengthWidth

/-- How the byte stream is cut into frames. A frame is never empty, and the end of a header is a
number of one machine word. -/
inductive Framing where
  | fixed (size : Nat) (positive : 0 < size)
  | lengthField (offset : Nat) (width : LengthWidth) (fits : offset + width.size < Word.bound)
  deriving DecidableEq

namespace Framing

/-- Frames of exactly `size` bytes. -/
def ofSize (size : Nat) : Except ConfigFault Framing :=
  if positive : 0 < size then .ok (.fixed size positive) else .error .emptyFixedFrame

/-- Frames announced by a `width`-byte length at `offset`. -/
def ofLengthField (offset width : Nat) : Except ConfigFault Framing :=
  match LengthWidth.ofNat? width with
  | none => .error (.lengthWidth width)
  | some known =>
    if fits : offset + known.size < Word.bound then .ok (.lengthField offset known fits)
    else .error (.lengthOffset offset)

/-- The smallest number of bytes that can hold one frame. -/
def minLength : Framing → Nat
  | fixed size _ => size
  | lengthField offset width _ => offset + width.size

theorem minLength_pos (framing : Framing) : 0 < framing.minLength := by
  cases framing with
  | fixed _ positive => exact positive
  | lengthField offset width _ => exact Nat.add_pos_right offset width.size_pos

/-- The length that a complete header announces for the bytes after it. -/
def announced (framing : Framing) (bytes : Bytes) : Nat :=
  match framing with
  | fixed _ _ => 0
  | lengthField offset width _ => Bytes.toNat ((bytes.drop offset).take width.size)

/-- A byte string that is one frame and nothing else. -/
def IsFrame (framing : Framing) (bytes : Bytes) : Prop :=
  framing.minLength ≤ bytes.length ∧ framing.announced bytes ≤ maxLength ∧
    bytes.length = framing.minLength + framing.announced bytes

instance (framing : Framing) (bytes : Bytes) : Decidable (framing.IsFrame bytes) :=
  inferInstanceAs (Decidable (_ ∧ _ ∧ _))

inductive Front where
  | frame (size : Nat)
  | incomplete
  | tooLong (length : Nat)
  deriving DecidableEq, Repr

def front (framing : Framing) (bytes : Bytes) : Front :=
  if bytes.holds framing.minLength then
    let length := framing.announced bytes
    if maxLength < length then .tooLong length
    else if bytes.holds (framing.minLength + length) then .frame (framing.minLength + length)
    else .incomplete
  else .incomplete

theorem front_frame {framing : Framing} {bytes : Bytes} {size : Nat}
    (found : framing.front bytes = .frame size) : 0 < size ∧ size ≤ bytes.length := by
  unfold front at found
  split at found
  · simp only at found
    split at found
    · simp at found
    · split at found
      · rename_i whole
        obtain rfl := Front.frame.inj found
        exact ⟨Nat.add_pos_left framing.minLength_pos _, Bytes.holds_iff.mp whole⟩
      · simp at found
  · simp at found

/-- The frames at the front of a buffer, the bytes after them, and what stops there. -/
structure Cut where
  frames : List Bytes
  rest : Bytes
  stop : Front
  deriving DecidableEq

/-- Takes frames off the front for as long as there are complete ones. -/
def cut (framing : Framing) (bytes : Bytes) : Cut :=
  match _found : framing.front bytes with
  | .frame size =>
    let after := framing.cut (bytes.drop size)
    { after with frames := bytes.take size :: after.frames }
  | stop => ⟨[], bytes, stop⟩
termination_by bytes.length
decreasing_by
  have sized := front_frame _found
  simp only [List.length_drop]
  omega

/-- The frames cut off a buffer and what is left of it. A length out of range is an error only if no
frame comes before it; otherwise it stays in the buffer for the next call. -/
def decode (framing : Framing) (bytes : Bytes) : Except FrameFault (List Bytes) × Bytes :=
  let found := framing.cut bytes
  match found.frames, found.stop with
  | [], .tooLong length => (.error (.tooLong length), found.rest)
  | frames, _ => (.ok frames, found.rest)

end Framing

end StreamDispatch
