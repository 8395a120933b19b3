import StreamDispatch.Proofs.Visits

/-! One direction of a connection between two sessions that cut frames. What has been carried over
is, in order, the frames that the target has cut off, its pending bytes and its unread ones. -/
namespace StreamDispatch

variable {σ τ : Type}

namespace Framing

variable {framing : Framing}

/-- A row of frames in front of a stream that is itself a row of frames is the front of that row. -/
theorem row_front {first second : List Bytes} {rest : Bytes}
    (whole : ∀ frame ∈ first, framing.IsFrame frame)
    (wholes : ∀ frame ∈ second, framing.IsFrame frame)
    (same : second.flatten = first.flatten ++ rest) :
    first ++ (framing.cut rest).frames = second ∧ (framing.cut rest).rest = [] := by
  have nothing := stops_of_incomplete framing.front_nil
  have left := framing.cut_append first.flatten rest
  have front := cut_row whole nothing
  have right := cut_row wholes nothing
  rw [List.append_nil] at front right
  rw [← same, right, front] at left
  obtain ⟨frames, rest, _⟩ := Cut.mk.inj left
  exact ⟨frames.symm, rest.symm⟩

theorem Legal.of_row {frames : List Bytes} {limit : Nat}
    (whole : ∀ frame ∈ frames, framing.IsFrame frame)
    (fit : ∀ frame ∈ frames, frame.length ≤ limit) : framing.Legal limit frames.flatten := by
  intro first rest same wholes complete
  obtain ⟨rfl, ended⟩ := row_front wholes whole same
  have later : (framing.cut rest).frames.flatten = rest := by
    have flattened := framing.cut_flatten rest
    rwa [ended, List.append_nil] at flattened
  cases next : (framing.cut rest).frames with
  | nil =>
    rw [next, List.flatten_nil] at later
    rw [← later] at complete
    exact absurd complete (Nat.not_le_of_lt framing.minLength_pos)
  | cons frame others =>
    have member : frame ∈ first ++ (framing.cut rest).frames := by simp [next]
    obtain ⟨header, legal, length⟩ := whole frame member
    rw [next, List.flatten_cons] at later
    rw [← later, announced_append header, ← length]
    exact ⟨legal, fit frame member⟩

theorem length_le_of_cut {bytes frame : Bytes} (member : frame ∈ (framing.cut bytes).frames) :
    frame.length ≤ bytes.length := by
  have flattened := congrArg List.length (framing.cut_flatten bytes)
  have within := (List.sublist_flatten_of_mem member).length_le
  rw [List.length_append] at flattened
  omega

end Framing

/-! ### What a channel has cut off -/

namespace Channel

/-- Of what has arrived, these frames were cut off. -/
structure Reading (framing : Framing) (limit : Nat) (arrived : Bytes) (frames : List Bytes)
    (channel : Channel) : Prop where
  whole : arrived = frames.flatten ++ channel.pending ++ channel.connection.unread
  frame : ∀ frame ∈ frames, framing.IsFrame frame ∧ frame.length ≤ limit
  stops : framing.Stops channel.pending
  bounded : channel.pending.length ≤ limit
  asked : channel.closeRequested = true ↔ limit ≤ channel.pending.length
  output : channel.closed = channel.output.isNone
  reading : channel.closed = false → channel.reading = true
  fired : channel.closeFired = true → channel.closed = true
  free : channel.locked = false
  kept : channel.discard = false
  unbroken : channel.connection.broken = false
  /-- Where no buffer can be as large as this one should be, nothing is read. -/
  deaf : Word.maxCapacity < limit → frames = [] ∧ channel.pending = []

def workLeft (channel : Channel) : Nat :=
  channel.connection.unread.length + (!channel.opened).toNat + (!channel.closeFired).toNat

/-- A visit would find nothing to do. -/
def Waits (limit : Nat) (channel : Channel) : Prop :=
  channel.opened = true ∧ channel.closed = false ∧ channel.closeRequested = false ∧
    (limit ≤ channel.pending.length ∨
      channel.connection.unread = [] ∧ channel.connection.ended = false)

/-- What a visit sends: the answer to the frames it cuts off, or at the close what was held back. -/
inductive Sends (answer : List Bytes → Bytes) (frames : List Bytes) (before after : Channel) :
    Prop where
  | answers (live : frames ≠ [] → before.closed = false) (output : after.output = before.output)
      (sent : after.connection.delivered = before.connection.delivered ++ answer frames)
  | releases (none : frames = []) (output : after.output = .none)
      (sent : after.connection.delivered =
        before.connection.delivered ++ before.output.getD [])

namespace Sends

variable {answer : List Bytes → Bytes} {frames : List Bytes} {before after : Channel}

theorem clear (sends : before.Sends answer frames after) (clear : before.output.getD [] = []) :
    after.output.getD [] = [] := by
  cases sends with
  | answers _ output _ => rw [output, clear]
  | releases _ output _ =>
    rw [output]
    rfl

theorem answered (sends : before.Sends answer frames after) (clear : before.output.getD [] = [])
    (nothing : answer [] = []) :
    after.connection.delivered = before.connection.delivered ++ answer frames := by
  cases sends with
  | answers _ _ sent => exact sent
  | releases none _ sent => rw [sent, clear, none, nothing]

theorem quiet (sends : before.Sends (fun _ => []) frames after) :
    after.connection.delivered ++ after.output.getD [] =
      before.connection.delivered ++ before.output.getD [] := by
  cases sends with
  | answers _ output sent => rw [output, sent, List.append_nil]
  | releases _ output sent =>
    rw [output, sent]
    exact List.append_nil _

theorem grows (sends : before.Sends answer frames after)
    (output : before.closed = before.output.isNone) (nothing : answer [] = []) :
    ∃ bytes, after.connection.delivered = before.connection.delivered ++ bytes ∧
      (before.output = none → bytes = [] ∧ after.output = none) := by
  cases sends with
  | answers live same sent =>
    refine ⟨_, sent, fun none => ⟨?_, same.trans none⟩⟩
    by_contra some
    have closed : before.closed = true := by simp [output, none]
    have frames : frames ≠ [] := by
      rintro rfl
      exact some nothing
    exact absurd (live frames) (by simp [closed])
  | releases _ given sent =>
    refine ⟨_, sent, fun none => ⟨?_, given⟩⟩
    rw [none]
    rfl

end Sends

end Channel

namespace Session

variable {framing : Framing} {limit : Nat} {arrived : Bytes} {frames : List Bytes}
  {answer : List Bytes → Bytes} {absorb : σ → List Bytes → σ} {session after : Session σ}

/-- What a channel has cut off only grows, by the frames that are answered and taken in. -/
theorem Visits.reading (visits : session.Visits framing limit answer absorb after)
    (reading : session.channel.Reading framing limit arrived frames)
    (nothing : answer [] = [] ∧ ∀ state, absorb state [] = state) :
    ∃ more, after.channel.Reading framing limit arrived (frames ++ more) ∧
      after.state = absorb session.state more ∧
      after.channel.connection.ended = session.channel.connection.ended ∧
      session.channel.Sends answer more after.channel := by
  cases visits with
  | opens unopened channel state =>
    rw [channel, state]
    refine ⟨[], ?_, (nothing.2 _).symm, rfl, .answers (by simp) rfl (by simp [nothing.1])⟩
    rw [List.append_nil]
    exact { reading with }
  | closes opened cause channel state =>
    rw [channel, state, Channel.release_eq, reading.kept]
    refine ⟨[], ?_, (nothing.2 _).symm, rfl, .releases rfl rfl rfl⟩
    rw [List.append_nil]
    exact { reading with
      output := rfl
      reading := nofun
      fired := fun _ => rfl }
  | waits _ _ _ _ channel state | balks _ channel state =>
    rw [channel, state]
    refine ⟨[], ?_, (nothing.2 _).symm, rfl, .answers (by simp) rfl (by simp [nothing.1])⟩
    rwa [List.append_nil]
  | reads cut opened live unasked some possible found channel state =>
    rw [channel, state]
    refine ⟨cut.frames, ?_, rfl, rfl, .answers (fun _ => live) rfl rfl⟩
    have flattened := framing.cut_flatten (session.channel.pending ++
      session.channel.connection.unread.take (limit - session.channel.pending.length))
    have bounded := reading.bounded
    have within : (session.channel.pending ++ session.channel.connection.unread.take
        (limit - session.channel.pending.length)).length ≤ limit := by
      rw [List.length_append, List.length_take]
      omega
    have shorter := (framing.rest_suffix (session.channel.pending ++
      session.channel.connection.unread.take
        (limit - session.channel.pending.length))).length_le
    rw [← found] at flattened shorter
    exact { reading with
      whole := by
        have whole := reading.whole
        rw [← List.take_append_drop (limit - session.channel.pending.length)
          session.channel.connection.unread, ← List.append_assoc, List.append_assoc frames.flatten,
          ← flattened] at whole
        simpa [Channel.fed] using whole
      frame := by
        intro frame member
        rcases List.mem_append.mp member with earlier | fresh
        · exact reading.frame frame earlier
        · rw [found] at fresh
          exact ⟨framing.cut_isFrame _ frame fresh,
            Nat.le_trans (Framing.length_le_of_cut fresh) within⟩
      stops := by
        rw [found]
        exact framing.stops_rest _
      bounded := Nat.le_trans shorter within
      asked := by simp [Channel.fed]
      deaf := by
        intro much
        rw [(reading.deaf much).2, List.length_nil, Nat.sub_zero] at possible
        exact absurd possible (Nat.not_le_of_lt much) }

/-- A visit does some of the work that is left, unless it finds nothing to do. -/
theorem Visits.works (visits : session.Visits framing limit answer absorb after)
    (possible : limit ≤ Word.maxCapacity) (unfired : session.channel.closeFired = false) :
    after.channel.workLeft < session.channel.workLeft ∨
      session.channel.Waits limit ∧ after.channel = session.channel ∧
        after.state = session.state := by
  cases visits with
  | opens unopened channel state =>
    left
    simp [Channel.workLeft, channel, unopened]
  | closes opened cause channel state =>
    left
    simp [Channel.workLeft, channel, Channel.release_eq, Channel.deliver, unfired]
  | waits opened live unasked nothing channel state =>
    exact .inr ⟨⟨opened, live, unasked, nothing⟩, channel, state⟩
  | balks much channel state => omega
  | reads cut opened live unasked some _ found channel state =>
    left
    have taken : (session.channel.connection.unread.take
        (limit - session.channel.pending.length)).length ≠ 0 := by simpa using some
    rw [List.length_take] at taken
    simp only [Channel.workLeft, channel, Channel.fed, List.length_drop]
    omega

end Session

end StreamDispatch
