import StreamDispatch.Framing

/-!
Writing a payload as a frame whose length field comes first. Room for the whole frame is asked for
before the width is looked at, so a width beyond every buffer is a panic and not an error.
-/
namespace StreamDispatch

/-- The largest payload that a length field of this width announces. -/
def LengthWidth.maxPayload : LengthWidth → Nat
  | one => 255
  | two => 65535
  | four => maxLength

namespace Framing

/-- Asks for a buffer; counts of bytes are machine words. -/
def reserve (width size : Nat) : Except Panic Unit :=
  if Word.bound ≤ width + size then .error (.text "attempt to add with overflow")
  else if Word.maxCapacity < width + size then .error (.text "capacity overflow")
  else .ok ()

/-- Puts the big-endian length of the payload in front of it. -/
def encode (width : Nat) (payload : Bytes) : Except Panic (Except IoError Bytes) := do
  reserve width payload.length
  match LengthWidth.ofNat? width with
  | some known =>
    if payload.length ≤ known.maxPayload then
      return .ok (Bytes.ofNat known.size payload.length ++ payload)
    else return .error (.payload payload.length width)
  | none => return .error (.payload payload.length width)

end Framing

end StreamDispatch
