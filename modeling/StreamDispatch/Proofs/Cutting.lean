import StreamDispatch.Framing

/-! Cutting a stream into frames does not depend on how the stream is fragmented: what is cut off a
part stays cut off the whole, and the rest goes on with what comes later. -/
namespace StreamDispatch.Framing

variable {framing : Framing} {first second bytes : Bytes}

/-- A complete header reads the same whatever comes later. -/
theorem announced_append (complete : framing.minLength ≤ first.length) (second : Bytes) :
    framing.announced (first ++ second) = framing.announced first := by
  cases framing with
  | fixed size positive => rfl
  | lengthField offset width fits =>
    simp only [minLength] at complete
    have inside : offset ≤ first.length := by omega
    have header : width.size ≤ (first.drop offset).length := by
      rw [List.length_drop]
      omega
    simp only [announced, List.drop_append_of_le_length inside,
      List.take_append_of_le_length header]

/-- The three things that can stand at the front, told apart by numbers. -/
theorem front_eq (framing : Framing) (bytes : Bytes) :
    framing.front bytes =
      if bytes.length < framing.minLength then .incomplete
      else if maxLength < framing.announced bytes then .tooLong (framing.announced bytes)
      else if bytes.length < framing.minLength + framing.announced bytes then .incomplete
      else .frame (framing.minLength + framing.announced bytes) := by
  simp only [front, Bytes.holds_iff]
  grind

/-- What was decided at the front stays decided. -/
theorem front_append (decided : framing.front first ≠ .incomplete) (second : Bytes) :
    framing.front (first ++ second) = framing.front first := by
  rw [front_eq] at decided ⊢
  rw [front_eq framing first]
  by_cases short : first.length < framing.minLength
  · simp [short] at decided
  · have complete : framing.minLength ≤ first.length := Nat.le_of_not_lt short
    rw [announced_append complete, List.length_append]
    grind

theorem isFrame_take {size : Nat} (found : framing.front bytes = .frame size) :
    framing.IsFrame (bytes.take size) := by
  obtain ⟨_, within⟩ := front_frame found
  have length : (bytes.take size).length = size := List.length_take_of_le within
  rw [front_eq] at found
  split at found
  · simp at found
  · split at found
    · simp at found
    · split at found
      · simp at found
      · rename_i legal _
        obtain rfl := Front.frame.inj found
        have whole : framing.minLength ≤
            (bytes.take (framing.minLength + framing.announced bytes)).length := by
          rw [length]
          exact Nat.le_add_right ..
        have same := announced_append whole
          (bytes.drop (framing.minLength + framing.announced bytes))
        rw [List.take_append_drop] at same
        rw [IsFrame, ← same, length]
        exact ⟨Nat.le_add_right .., Nat.le_of_not_lt legal, rfl⟩

/-! ### The equations of a cut -/

/-- No frame can be cut off the bytes. -/
def Stops (framing : Framing) (bytes : Bytes) : Prop := ∀ size, framing.front bytes ≠ .frame size

theorem stops_of_incomplete (unfinished : framing.front bytes = .incomplete) :
    framing.Stops bytes := by
  simp [Stops, unfinished]

theorem stops_of_tooLong {length : Nat} (bad : framing.front bytes = .tooLong length) :
    framing.Stops bytes := by
  simp [Stops, bad]

theorem cut_of_frame {size : Nat} (found : framing.front bytes = .frame size) :
    framing.cut bytes =
      { framing.cut (bytes.drop size) with
        frames := bytes.take size :: (framing.cut (bytes.drop size)).frames } := by
  rw [cut]
  split
  · rename_i other same
    rw [found] at same
    obtain rfl := Front.frame.inj same
    rfl
  · rename_i none
    exact absurd found (none size)

theorem cut_of_stop (stops : framing.Stops bytes) :
    framing.cut bytes = ⟨[], bytes, framing.front bytes⟩ := by
  rw [cut]
  split
  · rename_i size found
    exact absurd found (stops size)
  · rfl

theorem front_nil (framing : Framing) : framing.front [] = .incomplete := by
  simp [front_eq, framing.minLength_pos]

theorem cut_nil (framing : Framing) : framing.cut [] = ⟨[], [], .incomplete⟩ := by
  rw [cut_of_stop (stops_of_incomplete framing.front_nil), front_nil]

/-- If no frame is cut off, the cut stops at the front. -/
theorem front_of_nothing (nothing : (framing.cut bytes).frames = []) :
    framing.front bytes = (framing.cut bytes).stop := by
  by_cases found : ∃ size, framing.front bytes = .frame size
  · obtain ⟨size, found⟩ := found
    simp [cut_of_frame found] at nothing
  · rw [cut_of_stop fun size same => found ⟨size, same⟩]

/-- A property of cuts follows the frames one by one. -/
theorem cut_induction (framing : Framing) (holds : Bytes → Prop)
    (frame : ∀ bytes size, framing.front bytes = .frame size → holds (bytes.drop size) →
      holds bytes)
    (stop : ∀ bytes, framing.Stops bytes → holds bytes)
    (bytes : Bytes) : holds bytes := by
  by_cases found : ∃ size, framing.front bytes = .frame size
  · obtain ⟨size, found⟩ := found
    have sized := front_frame found
    exact frame bytes size found (cut_induction framing holds frame stop (bytes.drop size))
  · exact stop bytes fun size same => found ⟨size, same⟩
termination_by bytes.length
decreasing_by
  simp only [List.length_drop]
  omega

theorem cut_flatten (framing : Framing) (bytes : Bytes) :
    (framing.cut bytes).frames.flatten ++ (framing.cut bytes).rest = bytes := by
  refine framing.cut_induction
    (fun bytes => (framing.cut bytes).frames.flatten ++ (framing.cut bytes).rest = bytes)
    ?_ ?_ bytes
  · intro bytes size found ih
    rw [cut_of_frame found, List.flatten_cons, List.append_assoc, ih, List.take_append_drop]
  · intro bytes stops
    rw [cut_of_stop stops]
    rfl

theorem cut_isFrame (framing : Framing) (bytes : Bytes) :
    ∀ frame ∈ (framing.cut bytes).frames, framing.IsFrame frame := by
  refine framing.cut_induction
    (fun bytes => ∀ frame ∈ (framing.cut bytes).frames, framing.IsFrame frame) ?_ ?_ bytes
  · intro bytes size found ih frame member
    rw [cut_of_frame found] at member
    rcases List.mem_cons.mp member with rfl | later
    · exact isFrame_take found
    · exact ih frame later
  · intro bytes stops frame member
    rw [cut_of_stop stops] at member
    simp at member

theorem front_rest (framing : Framing) (bytes : Bytes) :
    framing.front (framing.cut bytes).rest = (framing.cut bytes).stop ∧
      ∀ size, (framing.cut bytes).stop ≠ .frame size := by
  refine framing.cut_induction
    (fun bytes => framing.front (framing.cut bytes).rest = (framing.cut bytes).stop ∧
      ∀ size, (framing.cut bytes).stop ≠ .frame size) ?_ ?_ bytes
  · intro bytes size found ih
    rw [cut_of_frame found]
    exact ih
  · intro bytes stops
    rw [cut_of_stop stops]
    exact ⟨rfl, stops⟩

theorem stops_rest (framing : Framing) (bytes : Bytes) :
    framing.Stops (framing.cut bytes).rest := by
  obtain ⟨front, stops⟩ := framing.front_rest bytes
  rwa [Stops, front]

theorem rest_suffix (framing : Framing) (bytes : Bytes) : (framing.cut bytes).rest <:+ bytes :=
  ⟨_, framing.cut_flatten bytes⟩

theorem decode_rest (framing : Framing) (bytes : Bytes) :
    (framing.decode bytes).2 = (framing.cut bytes).rest := by
  rw [decode]
  split <;> rfl

theorem decode_of_incomplete (stops : (framing.cut bytes).stop = .incomplete) :
    framing.decode bytes = (.ok (framing.cut bytes).frames, (framing.cut bytes).rest) := by
  rw [decode, stops]
  cases (framing.cut bytes).frames <;> rfl

theorem decode_error_iff {fault : FrameFault} :
    (framing.decode bytes).1 = .error fault ↔
      (framing.cut bytes).frames = [] ∧
        ∃ length, (framing.cut bytes).stop = .tooLong length ∧ fault = .tooLong length := by
  rw [decode]
  split
  · rename_i length none stops
    simp [none, stops, eq_comm]
  · rename_i frames stop other
    constructor
    · intro failed
      simp at failed
    · rintro ⟨none, length, stops, _⟩
      exact absurd stops (other length none)

theorem decode_ok {frames : List Bytes} (decoded : (framing.decode bytes).1 = .ok frames) :
    frames = (framing.cut bytes).frames := by
  rw [decode] at decoded
  split at decoded
  · simp at decoded
  · exact (Except.ok.inj decoded).symm

/-- Cutting a part first and its rest with what comes later is cutting the whole. -/
theorem cut_append (framing : Framing) (first second : Bytes) :
    framing.cut (first ++ second) =
      { framing.cut ((framing.cut first).rest ++ second) with
        frames := (framing.cut first).frames ++
          (framing.cut ((framing.cut first).rest ++ second)).frames } := by
  refine framing.cut_induction (fun first => framing.cut (first ++ second) =
    { framing.cut ((framing.cut first).rest ++ second) with
      frames := (framing.cut first).frames ++
        (framing.cut ((framing.cut first).rest ++ second)).frames }) ?_ ?_ first
  · intro first size found ih
    have same : framing.front (first ++ second) = .frame size := by
      rw [front_append (by simp [found]), found]
    have within := (front_frame found).2
    rw [cut_of_frame same, cut_of_frame found, List.drop_append_of_le_length within,
      List.take_append_of_le_length within, ih]
    rfl
  · intro first stops
    rw [cut_of_stop stops]
    rfl

/-! ### Rows of frames -/

namespace IsFrame

variable {frame : Bytes}

/-- A frame is found whole in front of whatever follows it. -/
theorem front_append (whole : framing.IsFrame frame) (rest : Bytes) :
    framing.front (frame ++ rest) = .frame frame.length := by
  obtain ⟨header, legal, length⟩ := whole
  rw [front_eq, announced_append header, List.length_append]
  grind

/-- An unfinished frame is never taken for anything else. -/
theorem front_part (whole : framing.IsFrame frame) {part : Bytes} (front : part <+: frame)
    (unfinished : part ≠ frame) : framing.front part = .incomplete := by
  obtain ⟨rest, rfl⟩ := front
  by_cases decided : framing.front part = .incomplete
  · exact decided
  have same := Framing.front_append decided rest
  have found := whole.front_append []
  rw [List.append_nil, same] at found
  have within := (front_frame found).2
  rw [List.length_append] at within
  have nothing : rest = [] := List.length_eq_zero_iff.mp (by omega)
  simp [nothing] at unfinished

end IsFrame

/-- Frames in a row are cut off one by one. -/
theorem cut_row {frames : List Bytes} (whole : ∀ frame ∈ frames, framing.IsFrame frame)
    (stops : framing.Stops bytes) :
    framing.cut (frames.flatten ++ bytes) = ⟨frames, bytes, framing.front bytes⟩ := by
  induction frames with
  | nil => exact cut_of_stop stops
  | cons frame later ih =>
    have found := (whole frame (List.mem_cons_self ..)).front_append (later.flatten ++ bytes)
    have rest := ih fun other member => whole other (List.mem_cons_of_mem _ member)
    rw [List.flatten_cons, List.append_assoc, cut_of_frame found, List.drop_left, List.take_left,
      rest]

/-! ### Streams whose frames fit -/

/-- Every header of the stream that is complete at a frame boundary announces a frame that is in
range and within the limit. -/
def Legal (framing : Framing) (limit : Nat) (stream : Bytes) : Prop :=
  ∀ (frames : List Bytes) (rest : Bytes), stream = frames.flatten ++ rest →
    (∀ frame ∈ frames, framing.IsFrame frame) → framing.minLength ≤ rest.length →
    framing.announced rest ≤ maxLength ∧ framing.minLength + framing.announced rest ≤ limit

namespace Legal

variable {limit : Nat} {stream : Bytes}

theorem of_append {later : Bytes} (legal : framing.Legal limit (stream ++ later)) :
    framing.Legal limit stream := by
  intro frames rest split whole complete
  have more := legal frames (rest ++ later) (by rw [split, List.append_assoc]) whole
    (by rw [List.length_append]; omega)
  rwa [announced_append complete] at more

/-- Nothing but an unfinished frame stops the cut of a legal stream. -/
theorem stop_incomplete (legal : framing.Legal limit stream) :
    (framing.cut stream).stop = .incomplete := by
  obtain ⟨same, stops⟩ := framing.front_rest stream
  have fits := legal _ _ (framing.cut_flatten stream).symm (framing.cut_isFrame stream)
  rw [← same] at stops ⊢
  rw [front_eq] at stops ⊢
  grind

theorem rest_short (legal : framing.Legal limit stream) (least : framing.minLength ≤ limit) :
    (framing.cut stream).rest.length < limit := by
  obtain ⟨same, _⟩ := framing.front_rest stream
  have fits := legal _ _ (framing.cut_flatten stream).symm (framing.cut_isFrame stream)
  rw [legal.stop_incomplete, front_eq] at same
  grind

/-- Frames of one size announce nothing, so they only have to fit. -/
theorem of_fixed {size : Nat} {positive : 0 < size} (fits : size ≤ limit) (stream : Bytes) :
    (Framing.fixed size positive).Legal limit stream :=
  fun _ _ _ _ _ => ⟨Nat.zero_le _, fits⟩

end Legal

end StreamDispatch.Framing
