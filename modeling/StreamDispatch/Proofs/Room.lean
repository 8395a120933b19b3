import StreamDispatch.Proofs.Flags
import StreamDispatch.Proofs.Oversize
import StreamDispatch.Proofs.Refusal

/-! Room for input. Between its units of work a channel that is not stopped has room for more and
notices whatever its peer does, with one exception: a full buffer was offered to the chain and the
allocator refused to keep what was left of it. Such a channel is jammed for good. -/
namespace StreamDispatch

variable {σ : Type}

/-- Without room even the end of the stream goes unnoticed. -/
theorem Channel.probe_full {channel : Channel} (live : ¬ channel.Stopped) :
    (channel.probe 0).1 = .ok .empty := by
  rw [Stopped, ← Bool.or_eq_true] at live
  rw [probe, if_neg live, if_pos rfl]

namespace Session

variable {service : Service σ} {session here : Session σ} {closing : Bool} {point : Point}

/-! ### Full buffers -/

/-- The unit is not in the middle of new bytes. -/
def Quiet (pending : Bytes) (point : Point) (here : Session σ) : Prop :=
  (point = .begun ∨ (∃ call, point = .calling call) ∨ point = .over ∨ point = .stuck) ∧
    here.channel.pending = pending

private theorem Quiet.move {pending : Bytes} {next : Point} {there : Session σ}
    (full : service.bufferSize ≤ pending.length) (move : Move service point here next there)
    (quiet : Quiet pending point here) : Quiet pending next there := by
  obtain ⟨stands, same⟩ := quiet
  cases move with
  | opens | idles | overflows => exact ⟨.inr (.inl ⟨_, rfl⟩), same⟩
  | closes =>
    refine ⟨.inr (.inl ⟨_, rfl⟩), ?_⟩
    rw [updateChannel, Channel.release_eq]
    exact same
  | reads _ found =>
    -- Without room nothing is ever read.
    obtain ⟨_, _, some, taken, _⟩ := Channel.probe_data found
    have none : service.room here.channel = 0 := by
      rw [Service.room, same]
      exact Nat.sub_eq_zero_of_le full
    rw [none, List.take_zero] at taken
    exact absurd taken some
  | joins | joinFails | runs | runHangs | keeps | keepFails => simp at stands
  | @calls reached result _ call ran =>
    have work := Run.attempt_handled ran
    have still : reached.channel.pending = pending := work.sameInward.pending.trans same
    refine ⟨?_, by cases call <;> exact still⟩
    rcases call.next_cases service.bufferSize reached.channel.pending result with
      ended | ⟨_, _, reports⟩
    · exact .inr (.inr (.inl ended))
    · exact .inr (.inl ⟨_, reports⟩)
  | callHangs call ran =>
    exact ⟨.inr (.inr (.inr rfl)), (Run.attempt_handled ran).sameInward.pending.trans same⟩

theorem full_step (full : service.bufferSize ≤ session.channel.pending.length) (step : Step) :
    (session.step service step).channel.pending = session.channel.pending := by
  cases step with
  | arrive bytes =>
    obtain ⟨unread, same⟩ := session.arrive_channel service bytes
    rw [same]
  | peerEnds | breaks => rfl
  | act action => exact (session.perform_handled action).sameInward.pending
  | visit closing =>
    exact visit_keeps (Quiet session.channel.pending)
      (fun last => last.channel.pending = session.channel.pending)
      (fun _ => ⟨.inl rfl, session.begin_pending closing⟩) (fun _ => Quiet.move full)
      (fun _ quiet => quiet.2) (fun _ _ quiet => quiet.2) rfl rfl

theorem full_live (full : service.bufferSize ≤ session.channel.pending.length)
    (steps : List Step) :
    (session.live service steps).channel.pending = session.channel.pending := by
  induction steps generalizing session with
  | nil => rfl
  | cons first rest ih =>
    have same := full_step full first
    exact (ih (by rw [same]; exact full)).trans same

/-! ### Jams -/

/-- A full buffer is offered to the chain, and the allocator refuses to keep what is left. -/
def Jams (service : Service σ) (session : Session σ) (closing : Bool) : Prop :=
  ∃ result rest offered here,
    session.Passes service closing (.chained result rest offered) here ∧
      service.Refuses (.compact rest offered) here ∧ service.bufferSize ≤ offered

def JamsIn (service : Service σ) (session : Session σ) (steps : List Step) : Prop :=
  ∃ earlier closing later, steps = earlier ++ .visit closing :: later ∧
    (session.live service earlier).Jams service closing

/-- While a buffer is with the chain it is what is pending. -/
def Holds : Point → Session σ → Prop
  | .offered buffer, here => here.channel.pending = buffer
  | .chained _ _ offered, here => here.channel.pending.length = offered
  | _, _ => True

theorem Holds.move {next : Point} {there : Session σ} (move : Move service point here next there)
    (held : Holds point here) : Holds next there := by
  cases move with
  | opens | closes | idles | overflows | reads | joinFails | runHangs | keeps | keepFails
  | callHangs => trivial
  | joins => rfl
  | runs ran => exact congrArg List.length ((Service.chain_pending ran).trans held)
  | @calls reached result _ call _ =>
    rcases call.next_cases service.bufferSize reached.channel.pending result with
      same | ⟨_, _, same⟩ <;> rw [same] <;> trivial

theorem Passes.holds (passes : session.Passes service closing point here) : Holds point here :=
  passes.reached.keeps Holds Holds.move trivial

/-- The unit has room at the point, or the channel is stopped. -/
def Roomy (service : Service σ) : Point → Session σ → Prop
  | .read .., here => here.channel.pending.length < service.bufferSize
  | .begun, here | .calling _, here | .over, here =>
    here.channel.Stopped ∨ here.channel.pending.length < service.bufferSize
  | .offered _, _ | .chained .., _ | .stuck, _ => True

theorem Roomy.move {next : Point} {there : Session σ} (move : Move service point here next there)
    (held : Holds point here)
    (unjammed : ∀ result rest offered, point = .chained result rest offered →
      service.Refuses (.compact rest offered) here → offered < service.bufferSize)
    (roomy : Roomy service point here) : Roomy service next there := by
  have flags := move.onward.flags
  cases move with
  | opens | idles | overflows => exact roomy
  | closes =>
    rw [updateChannel, Channel.release_eq]
    exact .inl (.inl rfl)
  | reads _ found =>
    obtain ⟨live, unasked, _, _, rfl⟩ := Channel.probe_data found
    have space : here.channel.pending.length < service.bufferSize := by
      simpa [Roomy, Channel.Stopped, live, unasked] using roomy
    exact space
  | joins | runs | runHangs | callHangs => trivial
  | joinFails placed =>
    refine .inr ?_
    rw [(Service.place_after placed).1]
    exact roomy
  | @keeps _ _ _ placed left _ _ =>
    by_cases full : service.bufferSize ≤ left.length
    · exact .inl (.inr (by simp [updateChannel, Channel.keep, full]))
    · exact .inr (Nat.lt_of_not_le full)
  | @keepFails rest offered _ _ _ result placed =>
    have space := unjammed result rest offered rfl ⟨_, _, placed⟩
    refine .inr ?_
    rw [(Service.place_after placed).1]
    exact held.symm ▸ space
  | @calls reached result _ call ran =>
    have pending : (call.mark reached.channel).pending = here.channel.pending := by
      have same := (Run.attempt_handled ran).sameInward.pending
      cases call <;> exact same
    have kept : (call.mark reached.channel).Stopped ∨
        (call.mark reached.channel).pending.length < service.bufferSize := by
      rw [pending]
      exact roomy.imp_left flags.stopped
    rcases call.next_cases service.bufferSize reached.channel.pending result with
      same | ⟨_, _, same⟩ <;> rw [same] <;> exact kept

/-- Between units: work that hangs, a channel that is stopped, or room. -/
def HasRoom (service : Service σ) (session : Session σ) : Prop :=
  session.channel.locked = true ∨ session.channel.Stopped ∨
    session.channel.pending.length < service.bufferSize

theorem visit_hasRoom (unjammed : ¬ session.Jams service closing)
    (room : session.HasRoom service) : (session.step service (.visit closing)).HasRoom service := by
  refine visit_keeps (Roomy service) (HasRoom service) (fun free => ?_)
    (fun passes move roomy => roomy.move move passes.holds ?_) (fun _ roomy => .inr roomy)
    (fun _ passes _ => .inl passes.locked) room (.inr (.inl (.inr rfl)))
  · rcases room.resolve_left (by simp [free]) with stopped | space
    · exact .inl ((begin_onward closing session).flags.stopped stopped)
    · exact .inr (by rwa [begin_pending])
  · rintro result rest offered rfl refuses
    by_contra full
    exact unjammed ⟨result, rest, offered, _, passes, refuses, Nat.le_of_not_lt full⟩

theorem step_hasRoom (session : Session σ) (step : Step)
    (unjammed : ∀ closing, step = .visit closing → ¬ session.Jams service closing)
    (room : session.HasRoom service) : (session.step service step).HasRoom service := by
  cases step with
  | arrive bytes =>
    obtain ⟨unread, same⟩ := session.arrive_channel service bytes
    rw [HasRoom, same]
    exact room
  | peerEnds | breaks => exact room
  | act action =>
    have flags := (session.perform_handled action).onward.flags
    obtain ⟨_, _, _, _, same⟩ := (session.perform_handled action).sameInward
    refine room.imp (fun locked => ?_) fun still => still.imp flags.stopped fun space => ?_
    · simp only [Session.step, same]
      exact locked
    · simp only [Session.step, same]
      exact space
  | visit closing => exact visit_hasRoom (unjammed closing rfl) room

theorem live_hasRoom {steps : List Step} (unjammed : ¬ session.JamsIn service steps)
    (room : session.HasRoom service) : (session.live service steps).HasRoom service :=
  live_keeps_spared (fun session => session.Jams service) (HasRoom service) step_hasRoom unjammed
    room

theorem Jams.full (jams : session.Jams service closing) :
    service.bufferSize ≤ (session.step service (.visit closing)).channel.pending.length := by
  obtain ⟨result, rest, offered, here, passes, ⟨payload, failed, placed⟩, full⟩ := jams
  have held : here.channel.pending.length = offered := passes.holds
  obtain ⟨last, final, course, isLast, same⟩ :=
    (passes.next (.keepFails placed)).ends
  have still : failed.channel.pending = here.channel.pending := by
    rw [(Service.place_after placed).1]
  have quiet := course.keeps (Quiet failed.channel.pending)
    (Quiet.move (by rw [still, held]; exact full)) ⟨.inr (.inl ⟨_, rfl⟩), rfl⟩
  rw [same, Point.left_pending, quiet.2, still, held]
  exact full

theorem JamsIn.full {steps : List Step} (jams : session.JamsIn service steps) :
    service.bufferSize ≤ (session.live service steps).channel.pending.length := by
  obtain ⟨earlier, closing, later, rfl, jams⟩ := jams
  have full := jams.full
  rw [live_append]
  exact (full_live full later) ▸ full

/-! ### What the next cycle notices -/

/-- The next receive cycle has room, reads what is there at the front of what is unread, and finds
the end of the stream once everything is read, or at once if the connection failed. -/
structure Notices (service : Service σ) (session : Session σ) : Prop where
  room : 0 < service.room session.channel
  data : session.channel.connection.broken = false → session.channel.connection.unread ≠ [] →
    ∃ here fresh, session.Passes service false (.read session.channel.pending fresh) here ∧
      fresh ≠ [] ∧ fresh = session.channel.connection.unread.take (service.room session.channel)
  ended : session.channel.connection.broken = true ∨
      session.channel.connection.unread = [] ∧ session.channel.connection.ended = true →
    session.Begins service false (.closing session.channel.pending)

private theorem probe_unread {channel : Channel} {journal : Journal} {room : Nat}
    (coherent : Coherent channel journal) (live : ¬ channel.Stopped) (space : 0 < room)
    (fits : room ≤ Word.maxCapacity) (whole : channel.connection.broken = false)
    (some : channel.connection.unread ≠ []) :
    ∃ after, channel.probe room = (.ok (.data (channel.connection.unread.take room)), after) := by
  rcases channel.probe_cases room with ⟨shut | asked | given | broken | ⟨none, _⟩, _⟩ |
      ⟨⟨_, _, zero | ⟨none, _⟩⟩, _⟩ | ⟨⟨_, _, much⟩, _⟩ | ⟨_, same⟩
  · exact absurd (.inl shut) live
  · exact absurd (.inr asked) live
  · exact absurd (.inl (coherent.given given)) live
  · simp [whole] at broken
  · exact absurd none some
  · omega
  · exact absurd none some
  · omega
  · exact ⟨_, same⟩

private theorem probe_ended {channel : Channel} {room : Nat} (space : 0 < room)
    (fits : room ≤ Word.maxCapacity)
    (gone : channel.connection.broken = true ∨
      channel.connection.unread = [] ∧ channel.connection.ended = true) :
    (channel.probe room).1 = .ok .closed := by
  have some : room ≠ 0 := Nat.ne_of_gt space
  rw [Channel.probe, if_neg some, if_neg (Nat.not_lt_of_le fits)]
  split
  · rfl
  · split
    · rfl
    · split
      · rfl
      · rcases gone with broken | ⟨none, ended⟩
        · exact absurd broken ‹_›
        · simp [none, ended]

theorem unfired_of_live (coherent : Coherent session.channel session.journal)
    (live : ¬ session.channel.Stopped) : session.channel.closeFired = false := by
  by_contra fired
  exact live (.inl (coherent.given (coherent.fired (by simpa using fired)).2))

theorem notices (coherent : Coherent session.channel session.journal)
    (live : ¬ session.channel.Stopped) (free : session.channel.locked = false)
    (opened : session.channel.opened = true) (fits : service.bufferSize ≤ Word.maxCapacity)
    (space : session.channel.pending.length < service.bufferSize) : session.Notices service := by
  have room : 0 < service.room session.channel := Nat.sub_pos_of_lt space
  have bounded : service.room session.channel ≤ Word.maxCapacity :=
    Nat.le_trans (Nat.sub_le ..) fits
  have begun : session.Passes service false .begun (session.begin false) :=
    .begun (unfired_of_live coherent live) free false
  have begins := coherent.begun false
  refine ⟨room, fun whole some => ?_, fun gone => ?_⟩
  · obtain ⟨after, found⟩ := probe_unread begins live room bounded whole some
    exact ⟨_, _, begun.next (.reads opened found), (Channel.probe_data found).2.2.1, rfl⟩
  · exact Passes.begins begun (.closes opened (probe_ended room bounded gone))

/-- Where the room is more than any buffer has, the next receive cycle reports that and does not
read. -/
theorem begins_report (coherent : Coherent session.channel session.journal)
    (live : ¬ session.channel.Stopped) (free : session.channel.locked = false)
    (opened : session.channel.opened = true)
    (much : Word.maxCapacity < service.room session.channel) :
    session.Begins service false
      (.report (.panic (.text "capacity overflow")) session.channel.pending) := by
  have begun : session.Passes service false .begun (session.begin false) :=
    .begun (unfired_of_live coherent live) free false
  have running : ¬ session.channel.closed = true ∧ ¬ session.channel.closeRequested = true :=
    not_or.mp live
  have reading : session.channel.reading = true := by
    by_contra given
    exact live (.inl (coherent.given (by simpa using given)))
  have found : ((session.begin false).channel.probe
      (service.room (session.begin false).channel)).1 = .error (.text "capacity overflow") := by
    have most : Word.maxCapacity < service.room (session.begin false).channel := much
    rw [Channel.probe_oversized _ most]
    simp [begin, lock, updateChannel, running, reading]
  exact Passes.begins begun (.overflows opened found)

/-- Without room the next receive cycle is idle, whatever the peer has done. -/
theorem begins_idle (coherent : Coherent session.channel session.journal)
    (live : ¬ session.channel.Stopped) (free : session.channel.locked = false)
    (opened : session.channel.opened = true)
    (full : service.bufferSize ≤ session.channel.pending.length) :
    session.Begins service false (.idle session.channel.pending) := by
  have begun : session.Passes service false .begun (session.begin false) :=
    .begun (unfired_of_live coherent live) free false
  have none : service.room (session.begin false).channel = 0 := Nat.sub_eq_zero_of_le full
  have found : ((session.begin false).channel.probe
      (service.room (session.begin false).channel)).1 = .ok .empty := by
    have running : ¬ (session.begin false).channel.Stopped := live
    rw [none, Channel.probe_full running]
  exact Passes.begins begun (.idles opened found)

end Session

/-! ### Room in every life -/

/-- Room in every life, with whatever chain, callbacks and allocator. As long as the channel is not
stopped and no work on it hangs, it has room exactly if it was never jammed. With room, its next
receive cycle notices whatever the peer does, unless buffers are larger than memory allows: then it
only reports that. Once jammed, its pending bytes stay as they are in every later life, and every
receive cycle is idle. -/
theorem Service.room_unless_jammed (service : Service σ) (sized : 0 < service.bufferSize) (id : Nat)
    (steps : List Session.Step) :
    let session := (service.session id).live service steps
    (¬ session.channel.Stopped → session.channel.locked = false →
      (session.channel.pending.length < service.bufferSize ↔
        ¬ (service.session id).JamsIn service steps) ∧
      (¬ (service.session id).JamsIn service steps → session.channel.opened = true →
        (service.bufferSize ≤ Word.maxCapacity → session.Notices service) ∧
        (Word.maxCapacity < service.bufferSize → session.Begins service false
          (.report (.panic (.text "capacity overflow")) session.channel.pending)))) ∧
    ((service.session id).JamsIn service steps → ∀ later,
      let final := session.live service later
      final.channel.pending = session.channel.pending ∧
      (¬ final.channel.Stopped → final.channel.locked = false → final.channel.opened = true →
        final.Begins service false (.idle session.channel.pending))) := by
  intro session
  have roomy (live : ¬ session.channel.Stopped) (free : session.channel.locked = false)
      (unjammed : ¬ (service.session id).JamsIn service steps) :
      session.channel.pending.length < service.bufferSize := by
    have fresh : (service.session id).HasRoom service := .inr (.inr sized)
    rcases Session.live_hasRoom unjammed fresh with locked | stopped | room
    · exact absurd (locked.symm.trans free) (by decide)
    · exact absurd stopped live
    · exact room
  have coherent := Coherent.of_lived (Session.live_lived service id steps)
  refine ⟨fun live free => ⟨⟨fun room jams => ?_, roomy live free⟩, fun unjammed opened => ?_⟩,
    fun jams later => ?_⟩
  · exact Nat.not_lt_of_le jams.full room
  · refine ⟨fun fits => Session.notices coherent live free opened fits (roomy live free unjammed),
      fun much => Session.begins_report coherent live free opened ?_⟩
    have nothing := (service.oversized_deaf much id steps).1.pending
    rwa [Service.room, nothing, List.length_nil, Nat.sub_zero]
  · intro final
    have still : final.channel.pending = session.channel.pending :=
      Session.full_live jams.full later
    refine ⟨still, fun live free opened => ?_⟩
    have behind : Coherent final.channel final.journal := by
      have lived := Session.live_lived service id (steps ++ later)
      rw [Session.live_append] at lived
      exact Coherent.of_lived lived
    rw [← still]
    exact Session.begins_idle behind live free opened (by rw [still]; exact jams.full)

/-- The chain takes the byte 1 of three, and what is left finds room. -/
theorem Service.room_unless_jammed_staged :
    let service := staged [.take 1] (· == 7)
    let session := (service.session 0).live service [.visit false, .arrive [1, 2, 3], .visit false]
    0 < service.bufferSize ∧ session.channel.pending = [2, 3] ∧ session.channel.opened = true ∧
      ¬ (service.session 0).JamsIn service [.visit false, .arrive [1, 2, 3], .visit false] ∧
      session.Notices service := by
  intro service session
  have sized : 0 < service.bufferSize := by decide
  have live : ¬ session.channel.Stopped := by
    rintro (closed | requested)
    · exact absurd closed (by decide)
    · exact absurd requested (by decide)
  obtain ⟨⟨unjammed, notices⟩, _⟩ := (service.room_unless_jammed sized 0 [.visit false,
    .arrive [1, 2, 3], .visit false]).imp_left fun roomy => roomy live (by decide)
  have roomy := unjammed.mp (by decide)
  exact ⟨sized, by decide, by decide, roomy, (notices roomy (by decide)).1 (by decide)⟩

/-- The chain takes the byte 1 of a full buffer, and the allocator refuses to keep the other seven.
The channel is neither closed nor asked to close, and when the peer sends one byte more and ends,
the byte stays unread and the end unnoticed. -/
theorem Service.jam_goes_unnoticed :
    let service := staged [.take 1] (· == 7)
    let jammed := (service.session 0).live service [.visit false,
      .arrive [1, 2, 3, 4, 5, 6, 7, 8], .visit false]
    let later := jammed.live service [.arrive [9], .peerEnds, .visit false, .visit false]
    0 < service.bufferSize ∧ service.allocator.EmptyOrPanics ∧
      jammed.channel.opened = true ∧ jammed.channel.locked = false ∧
      jammed.channel.closed = false ∧ jammed.channel.closeRequested = false ∧
      jammed.channel.pending.length = service.bufferSize ∧ ¬ jammed.Notices service ∧
      later.channel.connection.unread = [9] ∧ later.channel.connection.ended = true ∧
      later.channel.closed = false ∧ later.channel.closeRequested = false :=
  ⟨by decide, Allocator.refusing_emptyOrPanics _, by decide, by decide, by decide, by decide,
    by decide, fun notices => absurd notices.room (by decide), by decide, by decide, by decide,
    by decide⟩

end StreamDispatch
