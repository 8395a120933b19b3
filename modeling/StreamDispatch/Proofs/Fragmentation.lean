import StreamDispatch.Framing.Feed
import StreamDispatch.Proofs.Cutting

/-! Feeding a stream in fragments. All calls together bring the frames that one call brings for the
whole stream, and they leave the same rest. How the stream is fragmented only decides how often a
length out of range is reported. -/
namespace StreamDispatch.Framing

variable {σ : Type} {framing : Framing}

/-- The frames a call brought; one that failed brings none. -/
def Fed.delivered (call : Fed) : List Bytes :=
  match call.frames with
  | .ok frames => frames
  | .error _ => []

def delivered (calls : List Fed) : List Bytes := calls.flatMap Fed.delivered

/-- What calls leave that begin with some bytes pending. -/
def leftover (pending : Bytes) (calls : List Fed) : Bytes :=
  calls.foldl (fun _ call => call.pending) pending

/-- Calls that each decode a chunk behind what the call before left. -/
inductive Feeding (framing : Framing) : Bytes → List Bytes → List Fed → Prop where
  | nil : Feeding framing pending [] []
  | cons (decoded : framing.decode (pending ++ chunk) = (call.frames, call.pending))
      (later : Feeding framing call.pending chunks calls) :
      Feeding framing pending (chunk :: chunks) (call :: calls)

theorem feed_ok (framing : Framing) {allocator : Allocator σ}
    (empty : allocator.HandsOutEmpty) (pending chunk : Bytes) (state : σ) :
    ∃ call next, framing.feed allocator pending chunk state = .ok (call, next) ∧
      framing.decode (pending ++ chunk) = (call.frames, call.pending) := by
  have joins := Placement.place_of_handsOutEmpty empty (.extend pending chunk) state
  rcases joined : (Placement.extend pending chunk).place allocator state with ⟨buffer, next⟩
  rw [joined, Placement.bytes_extend] at joins
  have keeps := Placement.place_of_handsOutEmpty empty
    (.compact (framing.decode (pending ++ chunk)).2 (pending ++ chunk).length) next
  rcases kept : (Placement.compact (framing.decode (pending ++ chunk)).2
    (pending ++ chunk).length).place allocator next with ⟨left, last⟩
  rw [kept, Placement.bytes_compact] at keeps
  simp only at joins keeps
  subst joins keeps
  simp only [feed, joined, kept]
  exact ⟨_, _, rfl, rfl⟩

theorem feedAll_feeding (framing : Framing) {allocator : Allocator σ}
    (empty : allocator.HandsOutEmpty) (pending : Bytes) (state : σ) (chunks : List Bytes) :
    ∃ calls, framing.feedAll allocator pending state chunks = .ok calls ∧
      Feeding framing pending chunks calls := by
  induction chunks generalizing pending state with
  | nil => exact ⟨[], rfl, .nil⟩
  | cons chunk rest ih =>
    obtain ⟨call, next, fed, decoded⟩ := framing.feed_ok empty pending chunk state
    obtain ⟨calls, all, later⟩ := ih call.pending next
    refine ⟨call :: calls, ?_, .cons decoded later⟩
    simp only [feedAll, fed, bind, Except.bind, all]
    rfl

/-- A decoded chunk in terms of the cut. -/
theorem Fed.cut {call : Fed} {bytes : Bytes}
    (decoded : framing.decode bytes = (call.frames, call.pending)) :
    call.delivered = (framing.cut bytes).frames ∧ call.pending = (framing.cut bytes).rest := by
  have rest := framing.decode_rest bytes
  rw [decoded] at rest
  refine ⟨?_, rest⟩
  unfold Fed.delivered
  split
  · rename_i frames same
    exact decode_ok (by rw [decoded, same])
  · rename_i fault same
    have failed : (framing.decode bytes).1 = .error fault := by rw [decoded, same]
    exact (decode_error_iff.mp failed).1.symm

namespace Feeding

variable {pending : Bytes} {chunks : List Bytes} {calls : List Fed}

theorem length (feeding : Feeding framing pending chunks calls) : calls.length = chunks.length := by
  induction feeding with
  | nil => rfl
  | cons _ _ ih => simp [ih]

theorem take (feeding : Feeding framing pending chunks calls) (count : Nat) :
    Feeding framing pending (chunks.take count) (calls.take count) := by
  induction feeding generalizing count with
  | nil => simpa using .nil
  | cons decoded _ ih =>
    cases count with
    | zero => exact .nil
    | succ count => exact .cons decoded (ih count)

/-- Together the calls cut what one call would cut off all chunks at once. -/
theorem cut (feeding : Feeding framing pending chunks calls)
    (stops : framing.Stops pending) :
    framing.cut (pending ++ chunks.flatten) =
      ⟨delivered calls, leftover pending calls, framing.front (leftover pending calls)⟩ := by
  induction feeding with
  | @nil pending =>
    rw [List.flatten_nil, List.append_nil, cut_of_stop stops]
    rfl
  | @cons pending chunk chunks calls call decoded _ ih =>
    obtain ⟨frames, rest⟩ := Fed.cut decoded
    have stops := framing.stops_rest (pending ++ chunk)
    rw [← rest] at stops
    have later := ih stops
    rw [List.flatten_cons, ← List.append_assoc, cut_append, ← frames, ← rest, later]
    rfl

/-- A length out of range stays in front, whatever comes later. -/
theorem stays (feeding : Feeding framing pending chunks calls) {length : Nat}
    (stuck : framing.front pending = .tooLong length) :
    framing.front (leftover pending calls) = .tooLong length := by
  have all : framing.front (pending ++ chunks.flatten) = .tooLong length := by
    rw [front_append (by simp [stuck]), stuck]
  have whole := feeding.cut (stops_of_tooLong stuck)
  rw [cut_of_stop (stops_of_tooLong all), all] at whole
  exact (congrArg Cut.stop whole).symm

theorem fault (feeding : Feeding framing pending chunks calls) {call : Fed} (member : call ∈ calls)
    {fault : FrameFault} (failed : call.frames = .error fault) :
    ∃ length, fault = .tooLong length ∧
      framing.front (leftover pending calls) = .tooLong length := by
  induction feeding with
  | nil => simp at member
  | @cons pending chunk chunks calls first decoded later ih =>
    rcases List.mem_cons.mp member with rfl | member
    · have error : (framing.decode (pending ++ chunk)).1 = .error fault := by rw [decoded, failed]
      obtain ⟨_, length, stops, named⟩ := decode_error_iff.mp error
      have front := (framing.front_rest (pending ++ chunk)).1
      rw [← (Fed.cut decoded).2, stops] at front
      exact ⟨length, named, later.stays front⟩
    · exact ih member

/-- If nothing but a length out of range stands in front of the whole, some call fails. -/
theorem fails (feeding : Feeding framing pending chunks calls) {length : Nat}
    (unfinished : framing.front pending = .incomplete)
    (bad : framing.front (pending ++ chunks.flatten) = .tooLong length) :
    ∃ call ∈ calls, call.frames = .error (.tooLong length) := by
  induction feeding with
  | nil => simp [unfinished] at bad
  | @cons pending chunk chunks calls call decoded _ ih =>
    rw [List.flatten_cons, ← List.append_assoc] at bad
    by_cases decided : framing.front (pending ++ chunk) = .incomplete
    · have rest := (Fed.cut decoded).2
      rw [cut_of_stop (stops_of_incomplete decided)] at rest
      simp only at rest
      rw [← rest] at decided bad
      obtain ⟨later, member, failed⟩ := ih decided bad
      exact ⟨later, List.mem_cons_of_mem _ member, failed⟩
    · rw [front_append decided] at bad
      refine ⟨call, List.mem_cons_self .., ?_⟩
      have failed : (framing.decode (pending ++ chunk)).1 = .error (.tooLong length) := by
        rw [decode_error_iff, cut_of_stop (stops_of_tooLong bad)]
        exact ⟨rfl, length, bad, rfl⟩
      rwa [decoded] at failed

end Feeding

/-- Feeding does not depend on the fragments. Whatever the chunks are, no call panics; the frames of
all calls and the bytes they leave are those of one call that is fed everything; after every call
the bytes that were not cut off are pending, also if it failed; and calls fail only over the length
that stands in front of the rest, at least one of them if the one call fails. -/
theorem feedAll_fragmented (framing : Framing) (allocator : Allocator σ)
    (empty : allocator.HandsOutEmpty) (state : σ) (chunks : List Bytes) :
    ∃ calls whole last,
      framing.feedAll allocator [] state chunks = .ok calls ∧
      framing.feed allocator [] chunks.flatten state = .ok (whole, last) ∧
      calls.length = chunks.length ∧
      delivered calls = whole.delivered ∧ leftover [] calls = whole.pending ∧
      (∀ count, (delivered (calls.take count)).flatten ++ leftover [] (calls.take count) =
        (chunks.take count).flatten) ∧
      (∀ call ∈ calls, ∀ fault, call.frames = .error fault →
        ∃ length, fault = .tooLong length ∧ framing.front whole.pending = .tooLong length) ∧
      ∀ fault, whole.frames = .error fault → ∃ call ∈ calls, call.frames = .error fault := by
  obtain ⟨calls, all, feeding⟩ := framing.feedAll_feeding empty [] state chunks
  obtain ⟨whole, last, fed, decoded⟩ := framing.feed_ok empty [] chunks.flatten state
  have stops : framing.Stops [] := stops_of_incomplete framing.front_nil
  have cut := feeding.cut stops
  obtain ⟨frames, rest⟩ := Fed.cut decoded
  rw [List.nil_append] at decoded cut frames rest
  refine ⟨calls, whole, last, all, fed, feeding.length, ?_, ?_, fun count => ?_, ?_, ?_⟩
  · rw [frames, cut]
  · rw [rest, cut]
  · have part := (feeding.take count).cut stops
    have bytes := framing.cut_flatten (chunks.take count).flatten
    rw [List.nil_append] at part
    rwa [part] at bytes
  · intro call member fault failed
    rw [rest, cut]
    exact feeding.fault member failed
  · intro fault failed
    have error : (framing.decode chunks.flatten).1 = .error fault := by rw [decoded, failed]
    obtain ⟨none, length, stop, rfl⟩ := decode_error_iff.mp error
    exact feeding.fails framing.front_nil ((front_of_nothing none).trans stop)

/-- Neither the length in range nor the one out of range comes in one chunk, so two calls fail over
the length that one call for the whole leaves behind. -/
theorem feedAll_fragmented_torn :
    let framing : Framing := .lengthField 0 .four (by decide)
    let chunks : List Bytes := [[0, 0, 0, 1], [9, 255, 255], [], [255, 255, 7], [8]]
    let allocator : Allocator Unit := .empty
    allocator.HandsOutEmpty ∧
      ∃ calls whole last,
        framing.feedAll allocator [] () chunks = .ok calls ∧
        framing.feed allocator [] chunks.flatten () = .ok (whole, last) ∧
        whole = ⟨.ok [[0, 0, 0, 1, 9]], [255, 255, 255, 255, 7, 8], [6]⟩ ∧
        calls.map (·.frames) = [.ok [], .ok [[0, 0, 0, 1, 9]], .ok [],
          .error (.tooLong 4294967295), .error (.tooLong 4294967295)] ∧
        delivered calls = whole.delivered ∧ leftover [] calls = whole.pending := by
  intro framing chunks allocator
  have empty : allocator.HandsOutEmpty := Allocator.empty_handsOutEmpty
  obtain ⟨calls, whole, last, all, fed, _, frames, rest, _⟩ :=
    feedAll_fragmented framing allocator empty () chunks
  have value : framing.feed allocator [] chunks.flatten () =
      .ok (⟨.ok [[0, 0, 0, 1, 9]], [255, 255, 255, 255, 7, 8], [6]⟩, ()) := by cbv
  have values : (framing.feedAll allocator [] () chunks).map (·.map (·.frames)) =
      .ok [.ok [], .ok [[0, 0, 0, 1, 9]], .ok [],
          .error (.tooLong 4294967295), .error (.tooLong 4294967295)] := by cbv
  rw [all] at values
  have same := Except.ok.inj (fed.symm.trans value)
  exact ⟨empty, calls, whole, last, all, fed, congrArg Prod.fst same, Except.ok.inj values,
    frames, rest⟩

end StreamDispatch.Framing
