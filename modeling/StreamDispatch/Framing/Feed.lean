import StreamDispatch.Buffer
import StreamDispatch.Framing

/-!
Framing a stream that comes in chunks, without a channel: each chunk goes behind what the chunks
before it left, all complete frames are cut off, and the rest is kept for the next chunk.
-/
namespace StreamDispatch.Framing

/-- What one chunk brought. -/
structure Fed where
  frames : Except FrameFault (List Bytes)
  pending : Bytes
  requests : List Nat

variable {σ : Type}

def feed (framing : Framing) (allocator : Allocator σ) (pending chunk : Bytes) (state : σ) :
    Except Panic (Fed × σ) :=
  let joined := Placement.extend pending chunk
  match joined.place allocator state with
  | (.error payload, _) => .error payload
  | (.ok buffer, next) =>
    let (frames, rest) := framing.decode buffer
    let kept := Placement.compact rest buffer.length
    match kept.place allocator next with
    | (.error payload, _) => .error payload
    | (.ok left, last) =>
      .ok (⟨frames, left, joined.request?.toList ++ kept.request?.toList⟩, last)

/-- What each of a list of chunks brought. -/
def feedAll (framing : Framing) (allocator : Allocator σ) (pending : Bytes) (state : σ) :
    List Bytes → Except Panic (List Fed)
  | [] => .ok []
  | chunk :: rest => do
    let (fed, next) ← framing.feed allocator pending chunk state
    return fed :: (← framing.feedAll allocator fed.pending next rest)

/-- A stream in pieces of one size, the last one possibly shorter. -/
def pieces (size : Nat) (stream : Bytes) : List Bytes :=
  if _stop : size = 0 ∨ stream = [] then [] else stream.take size :: pieces size (stream.drop size)
termination_by stream.length
decreasing_by
  have := List.length_pos_iff.mpr fun empty => _stop (.inr empty)
  simp only [List.length_drop]
  omega

/-- The results of decoding the same buffer so many times, and what is left of it. -/
def decodeTimes (framing : Framing) (buffer : Bytes) :
    (times : Nat) → List (Except FrameFault (List Bytes)) × Bytes
  | 0 => ([], buffer)
  | times + 1 =>
    let (result, rest) := framing.decode buffer
    let (later, last) := framing.decodeTimes rest times
    (result :: later, last)

end StreamDispatch.Framing
