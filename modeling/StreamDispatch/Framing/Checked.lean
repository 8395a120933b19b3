import StreamDispatch.Framing

/-!
Decoding with every check that a machine makes. Lengths and positions are words there, so a sum can
overflow, and a slice or a split can reach beyond its bytes; each of these is a panic. Only the
memory for the list of frames is taken for granted.
-/
namespace StreamDispatch.Framing.Checked

def add (first second : Nat) : Except Panic Nat :=
  if first + second < Word.bound then .ok (first + second)
  else .error (.text "attempt to add with overflow")

def slice (bytes : Bytes) (start stop : Nat) : Except Panic Bytes :=
  if stop < start then
    .error (.text ("slice index starts at " ++ toString start ++ " but ends at " ++ toString stop))
  else if bytes.length < stop then
    .error (.text ("range end index " ++ toString stop ++ " out of range for slice of length " ++
      toString bytes.length))
  else .ok ((bytes.drop start).take (stop - start))

def splitTo (bytes : Bytes) (count : Nat) : Except Panic (Bytes × Bytes) :=
  if bytes.length < count then
    .error (.text ("split_to out of bounds: " ++ toString count ++ " <= " ++
      toString bytes.length))
  else .ok (bytes.take count, bytes.drop count)

/-- The number in a length field: one byte, two, or else the first four. -/
def readField (field : Bytes) : Except Panic Nat :=
  match field.length with
  | 1 => (slice field 0 1).map Bytes.toNat
  | 2 => (slice field 0 2).map Bytes.toNat
  | _ => (slice field 0 4).map Bytes.toNat

/-- The smallest number of bytes that can hold one frame. -/
def minLength : Framing → Except Panic Nat
  | .fixed size _ => .ok size
  | .lengthField offset width _ => add offset width.size

/-- What stands at the front of a buffer if its header has so many bytes and announces a length. -/
def judge (buffer : Bytes) (header length : Nat) : Except Panic Front :=
  if maxLength < length then .ok (.tooLong length)
  else (add header length).map fun total =>
    if buffer.length < total then .incomplete else .frame total

def front (framing : Framing) (buffer : Bytes) : Except Panic Front :=
  match framing with
  | .fixed size _ => .ok (if buffer.length < size then .incomplete else .frame size)
  | .lengthField offset width _ => do
    let header ← add offset width.size
    if buffer.length < header then return .incomplete
    judge buffer header (← readField (← slice buffer offset header))

theorem add_ok {first second total : Nat} (added : add first second = .ok total) :
    total = first + second := by
  unfold add at added
  split at added
  · exact (Except.ok.inj added).symm
  · simp at added

theorem splitTo_ok {bytes frame rest : Bytes} {count : Nat}
    (split : splitTo bytes count = .ok (frame, rest)) :
    count ≤ bytes.length ∧ rest = bytes.drop count := by
  unfold splitTo at split
  split at split
  · simp at split
  · rename_i inside
    exact ⟨Nat.le_of_not_lt inside, (Prod.mk.inj (Except.ok.inj split)).2.symm⟩

theorem judge_frame {buffer : Bytes} {header length size : Nat}
    (found : judge buffer header length = .ok (.frame size)) : size = header + length := by
  unfold judge at found
  split at found
  · simp at found
  · cases added : add header length with
    | error _ => simp [added, Except.map] at found
    | ok total =>
      obtain rfl := add_ok added
      rw [added] at found
      simp only [Except.map, Except.ok.injEq] at found
      split at found
      · simp at found
      · exact (Front.frame.inj found).symm

/-- A frame that is found is never empty. -/
theorem front_frame {framing : Framing} {buffer : Bytes} {size : Nat}
    (found : front framing buffer = .ok (.frame size)) : 0 < size := by
  cases framing with
  | fixed least positive =>
    simp only [front] at found
    split at found
    · simp at found
    · obtain rfl := Front.frame.inj (Except.ok.inj found)
      exact positive
  | lengthField offset width _ =>
    simp only [front] at found
    cases added : add offset width.size with
    | error _ => simp [added, bind, Except.bind] at found
    | ok header =>
      obtain rfl := add_ok added
      simp only [added, bind, Except.bind] at found
      split at found
      · simp [pure, Except.pure] at found
      · split at found
        · simp at found
        · split at found
          · simp at found
          · rw [judge_frame found, Nat.add_assoc]
            exact Nat.add_pos_right offset (Nat.add_pos_left width.size_pos _)

def decode (framing : Framing) (taken : List Bytes) (buffer : Bytes) :
    Except Panic (Except FrameFault (List Bytes) × Bytes) :=
  match _found : front framing buffer with
  | .error payload => .error payload
  | .ok .incomplete => .ok (.ok taken, buffer)
  | .ok (.tooLong length) =>
    if taken.isEmpty then .ok (.error (.tooLong length), buffer) else .ok (.ok taken, buffer)
  | .ok (.frame size) =>
    match _split : splitTo buffer size with
    | .error payload => .error payload
    | .ok (frame, rest) => decode framing (taken ++ [frame]) rest
termination_by buffer.length
decreasing_by
  have some := front_frame _found
  obtain ⟨inside, rfl⟩ := splitTo_ok _split
  rw [List.length_drop]
  omega

end StreamDispatch.Framing.Checked
