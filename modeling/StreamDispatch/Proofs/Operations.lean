import StreamDispatch.Channel

/-! What the operations on a channel do when they succeed, and what they leave alone. -/
namespace StreamDispatch

namespace Channel

theorem openOutput_ok {channel : Channel} {held : Bytes} :
    channel.openOutput = .ok held ↔ channel.closed = false ∧ channel.output = some held := by
  unfold openOutput
  cases channel.closed <;> cases channel.output <;> simp

theorem send_ok {channel after : Channel} {data : Bytes} (sent : channel.send data = .ok after) :
    channel.closed = false ∧ ∃ held, channel.output = some held ∧
      after = { channel.deliver (channel.writer.push channel.connection.delivered held data).1 with
        output := some (channel.writer.push channel.connection.delivered held data).2 } := by
  unfold send at sent
  cases opened : channel.openOutput with
  | error fault => simp [opened, bind, Except.bind] at sent
  | ok held =>
    obtain ⟨live, output⟩ := openOutput_ok.mp opened
    refine ⟨live, held, output, ?_⟩
    simpa [opened, bind, Except.bind, pure, Except.pure] using sent.symm

theorem flush_ok {channel after : Channel} (flushed : channel.flush = .ok after) :
    channel.closed = false ∧ ∃ held, channel.output = some held ∧
      after = { channel.deliver held with output := some [] } := by
  unfold flush at flushed
  cases opened : channel.openOutput with
  | error fault => simp [opened, bind, Except.bind] at flushed
  | ok held =>
    obtain ⟨live, output⟩ := openOutput_ok.mp opened
    refine ⟨live, held, output, ?_⟩
    simpa [opened, bind, Except.bind, pure, Except.pure] using flushed.symm

theorem sendAndFlush_ok {channel after : Channel} {data : Bytes}
    (sent : channel.sendAndFlush data = .ok after) :
    channel.closed = false ∧ ∃ held, channel.output = some held ∧
      after = { channel.deliver (held ++ data) with output := some [] } := by
  unfold sendAndFlush at sent
  cases first : channel.send data with
  | error fault => simp [first, bind, Except.bind] at sent
  | ok middle =>
    obtain ⟨live, held, output, rfl⟩ := send_ok first
    obtain ⟨_, kept, same, rfl⟩ := flush_ok (by simpa [first, bind, Except.bind] using sent)
    obtain rfl := Option.some.inj same
    refine ⟨live, held, output, ?_⟩
    simp [deliver, ← channel.writer.whole channel.connection.delivered held data]

/-- Two channels that differ at most in their outward side. -/
def SameInward (before after : Channel) : Prop :=
  ∃ delivered output closed discard, after =
    { before with
      connection := { before.connection with delivered }
      output, closed, discard }

theorem SameInward.refl (channel : Channel) : channel.SameInward channel :=
  ⟨channel.connection.delivered, channel.output, channel.closed, channel.discard, rfl⟩

theorem SameInward.trans {first second third : Channel} (left : first.SameInward second)
    (right : second.SameInward third) : first.SameInward third := by
  obtain ⟨_, _, _, _, rfl⟩ := left
  obtain ⟨delivered, output, closed, discard, rfl⟩ := right
  exact ⟨delivered, output, closed, discard, rfl⟩

theorem SameInward.pending {before after : Channel} (same : before.SameInward after) :
    after.pending = before.pending := by
  obtain ⟨_, _, _, _, rfl⟩ := same
  rfl

theorem SameInward.opened {before after : Channel} (same : before.SameInward after) :
    after.opened = before.opened := by
  obtain ⟨_, _, _, _, rfl⟩ := same
  rfl

theorem SameInward.closeRequested {before after : Channel} (same : before.SameInward after) :
    after.closeRequested = before.closeRequested := by
  obtain ⟨_, _, _, _, rfl⟩ := same
  rfl

theorem SameInward.closeFired {before after : Channel} (same : before.SameInward after) :
    after.closeFired = before.closeFired := by
  obtain ⟨_, _, _, _, rfl⟩ := same
  rfl

theorem SameInward.broken {before after : Channel} (same : before.SameInward after) :
    after.connection.broken = before.connection.broken := by
  obtain ⟨_, _, _, _, rfl⟩ := same
  rfl

theorem SameInward.reading {before after : Channel} (same : before.SameInward after) :
    after.reading = before.reading := by
  obtain ⟨_, _, _, _, rfl⟩ := same
  rfl

theorem SameInward.unread {before after : Channel} (same : before.SameInward after) :
    after.connection.unread = before.connection.unread := by
  obtain ⟨_, _, _, _, rfl⟩ := same
  rfl

theorem SameInward.ended {before after : Channel} (same : before.SameInward after) :
    after.connection.ended = before.connection.ended := by
  obtain ⟨_, _, _, _, rfl⟩ := same
  rfl

theorem shutdown_eq (channel : Channel) :
    channel.shutdown =
      { channel.deliver (channel.output.getD []) with output := none } := by
  unfold shutdown
  split
  · rename_i held output
    rw [output]
    rfl
  · rename_i output
    cases channel
    simp_all [deliver]

theorem close_of_open {channel : Channel} (live : channel.closed = false) :
    channel.close =
      { channel.deliver (channel.output.getD []) with closed := true, output := none } := by
  unfold close
  rw [if_neg (by simp [live]), shutdown_eq]
  rfl

theorem close_of_closed {channel : Channel} (closed : channel.closed = true) :
    channel.close = channel := by
  rw [close, if_pos closed]

theorem closeNow_of_open {channel : Channel} (live : channel.closed = false) :
    channel.closeNow = { channel with discard := true, closed := true, output := none } := by
  simp [closeNow, live]

theorem closeNow_of_closed {channel : Channel} (closed : channel.closed = true) :
    channel.closeNow = { channel with discard := true } := by
  simp [closeNow, closed]

theorem release_eq (channel : Channel) :
    channel.release =
      { channel.deliver (if channel.discard then [] else channel.output.getD []) with
        closed := true, output := none, reading := false } := by
  simp only [release]
  split
  · cases channel
    simp [deliver]
  · rw [shutdown_eq]
    rfl

theorem close_sameInward (channel : Channel) : channel.SameInward channel.close := by
  cases closed : channel.closed with
  | false =>
    rw [close_of_open closed]
    exact ⟨_, _, _, _, rfl⟩
  | true =>
    rw [close_of_closed closed]
    exact .refl channel

theorem closeNow_sameInward (channel : Channel) : channel.SameInward channel.closeNow := by
  cases closed : channel.closed with
  | false =>
    rw [closeNow_of_open closed]
    exact ⟨_, _, _, _, rfl⟩
  | true =>
    rw [closeNow_of_closed closed]
    exact ⟨_, _, _, _, rfl⟩

theorem arrive_of_open {channel : Channel} (more : channel.connection.ended = false)
    (bytes : Bytes) :
    channel.arrive bytes =
      { channel with
        connection :=
          { channel.connection with unread := channel.connection.unread ++ bytes } } := by
  rw [arrive, if_neg (by simp [more])]

/-! ### Reading -/

/-- What a read finds, and what it is like then. -/
theorem probe_cases (channel : Channel) (room : Nat) :
    (channel.closed = true ∨ channel.closeRequested = true ∨ channel.reading = false ∨
        channel.connection.broken = true ∨
          channel.connection.unread = [] ∧ channel.connection.ended = true) ∧
        channel.probe room = (.ok .closed, channel) ∨
      (channel.closed = false ∧ channel.closeRequested = false ∧
        (room = 0 ∨ channel.connection.unread = [] ∧ channel.connection.ended = false)) ∧
        channel.probe room = (.ok .empty, channel) ∨
      (channel.closed = false ∧ channel.closeRequested = false ∧ Word.maxCapacity < room) ∧
        channel.probe room = (.error (.text "capacity overflow"), channel) ∨
      (channel.closed = false ∧ channel.closeRequested = false ∧
        channel.connection.unread.take room ≠ []) ∧
        channel.probe room =
          (.ok (.data (channel.connection.unread.take room)),
            { channel with
              connection :=
                { channel.connection with unread := channel.connection.unread.drop room } }) := by
  unfold probe
  by_cases stopped : channel.closed || channel.closeRequested
  · refine .inl ⟨?_, if_pos stopped⟩
    simp only [Bool.or_eq_true] at stopped
    exact stopped.imp_right .inl
  rw [if_neg stopped]
  simp only [Bool.or_eq_true, not_or, Bool.not_eq_true] at stopped
  obtain ⟨live, unasked⟩ := stopped
  by_cases full : room = 0
  · exact .inr (.inl ⟨⟨live, unasked, .inl full⟩, if_pos full⟩)
  rw [if_neg full]
  by_cases given : channel.reading = false
  · exact .inl ⟨.inr (.inr (.inl given)), by simp [given]⟩
  rw [if_neg (by simpa using given)]
  by_cases much : Word.maxCapacity < room
  · exact .inr (.inr (.inl ⟨⟨live, unasked, much⟩, if_pos much⟩))
  rw [if_neg much]
  by_cases broken : channel.connection.broken = true
  · exact .inl ⟨.inr (.inr (.inr (.inl broken))), if_pos broken⟩
  rw [if_neg broken]
  by_cases nothing : channel.connection.unread = []
  · cases ended : channel.connection.ended with
    | true => exact .inl ⟨.inr (.inr (.inr (.inr ⟨nothing, rfl⟩))), by simp [nothing]⟩
    | false => exact .inr (.inl ⟨⟨live, unasked, .inr ⟨nothing, rfl⟩⟩, by simp [nothing]⟩)
  · refine .inr (.inr (.inr ⟨⟨live, unasked, ?_⟩, by simp [nothing]⟩))
    simp [List.take_eq_nil_iff, full, nothing]

theorem probe_data {channel after : Channel} {room : Nat} {fresh : Bytes}
    (found : channel.probe room = (.ok (.data fresh), after)) :
    channel.closed = false ∧ channel.closeRequested = false ∧ fresh ≠ [] ∧
      fresh = channel.connection.unread.take room ∧
      after = { channel with
        connection :=
          { channel.connection with unread := channel.connection.unread.drop room } } := by
  rcases channel.probe_cases room with ⟨_, same⟩ | ⟨_, same⟩ | ⟨_, same⟩ |
      ⟨⟨live, unasked, some⟩, same⟩ <;> rw [same] at found
  · simp at found
  · simp at found
  · simp at found
  · obtain ⟨taken, rfl⟩ := Prod.mk.inj found
    obtain rfl := Probe.data.inj (Except.ok.inj taken)
    exact ⟨live, unasked, some, rfl, rfl⟩

theorem probe_closed {channel : Channel} {room : Nat}
    (found : (channel.probe room).1 = .ok .closed) :
    channel.closed = true ∨ channel.closeRequested = true ∨ channel.reading = false ∨
      channel.connection.broken = true ∨
        channel.connection.unread = [] ∧ channel.connection.ended = true := by
  rcases channel.probe_cases room with ⟨cause, _⟩ | ⟨_, same⟩ | ⟨_, same⟩ | ⟨_, same⟩
  · exact cause
  all_goals simp [same] at found

theorem probe_empty {channel : Channel} {room : Nat}
    (found : (channel.probe room).1 = .ok .empty) :
    channel.closed = false ∧ channel.closeRequested = false ∧
      (room = 0 ∨ channel.connection.unread = [] ∧ channel.connection.ended = false) := by
  rcases channel.probe_cases room with ⟨_, same⟩ | ⟨cause, _⟩ | ⟨_, same⟩ | ⟨_, same⟩
  · simp [same] at found
  · exact cause
  · simp [same] at found
  · simp [same] at found

/-- Only a room that no buffer has makes a read panic. -/
theorem probe_error {channel : Channel} {room : Nat} {payload : Panic}
    (found : (channel.probe room).1 = .error payload) :
    channel.closed = false ∧ channel.closeRequested = false ∧ Word.maxCapacity < room ∧
      payload = .text "capacity overflow" := by
  rcases channel.probe_cases room with ⟨_, same⟩ | ⟨_, same⟩ | ⟨⟨live, unasked, much⟩, same⟩ |
      ⟨_, same⟩ <;> simp only [same] at found
  · cases found
  · cases found
  · exact ⟨live, unasked, much, (Except.error.inj found).symm⟩
  · cases found

/-- A read that brings nothing changes nothing. -/
theorem probe_unchanged (channel : Channel) (room : Nat)
    (nothing : ∀ bytes, (channel.probe room).1 ≠ .ok (.data bytes)) :
    (channel.probe room).2 = channel := by
  rcases channel.probe_cases room with ⟨_, same⟩ | ⟨_, same⟩ | ⟨_, same⟩ | ⟨_, same⟩
  · rw [same]
  · rw [same]
  · rw [same]
  · exact absurd (congrArg Prod.fst same) (nothing _)

end Channel

theorem Action.apply_sameInward {action : Action} {channel after : Channel}
    (applied : action.apply channel = .ok after) : channel.SameInward after := by
  cases action with
  | send data =>
    obtain ⟨_, _, _, rfl⟩ := Channel.send_ok applied
    exact ⟨_, _, _, _, rfl⟩
  | flush =>
    obtain ⟨_, _, _, rfl⟩ := Channel.flush_ok applied
    exact ⟨_, _, _, _, rfl⟩
  | sendAndFlush data =>
    obtain ⟨_, _, _, rfl⟩ := Channel.sendAndFlush_ok applied
    exact ⟨_, _, _, _, rfl⟩
  | close =>
    obtain rfl := Except.ok.inj applied
    exact channel.close_sameInward
  | closeNow =>
    obtain rfl := Except.ok.inj applied
    exact channel.closeNow_sameInward

end StreamDispatch
