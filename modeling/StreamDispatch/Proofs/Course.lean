import StreamDispatch.Proofs.Application

/-! Units of work as courses of moves. A unit reads, places bytes, runs the chain and calls back;
`Move` says once what each of these can do, and a unit is a row of moves from its beginning to its
end. What holds of all moves therefore holds of every unit. -/
namespace StreamDispatch

variable {σ α : Type}

/-- A callback with what it is given. -/
inductive Call where
  | opening
  | idle (pending : Bytes)
  | fed (left : Bytes)
  | closing (leftover : Bytes)
  | report (error : Error) (pending : Bytes)
  deriving DecidableEq

/-- Where a unit of work stands. -/
inductive Point where
  | begun
  /-- New bytes were read and are to go behind the pending ones. -/
  | read (pending fresh : Bytes)
  | offered (buffer : Bytes)
  /-- The chain is over, and what it left is to be kept. -/
  | chained (result : Except Error Unit) (rest : Bytes) (offered : Nat)
  | calling (call : Call)
  | over
  | stuck

namespace Call

def event : Call → Event
  | opening => .opened
  | idle pending => .looped false pending
  | fed left => .looped true left
  | closing leftover => .closed leftover
  | report error pending => .failed error pending

def program (callbacks : Callbacks σ) : Call → Program σ Unit
  | opening => callbacks.onOpen
  | idle pending => callbacks.onLoop false pending
  | fed left => callbacks.onLoop true left
  | closing leftover => callbacks.onClose leftover
  | report error pending => callbacks.onException error pending

/-- What is marked once the callback is over, even if it panicked. -/
def mark : Call → Channel → Channel
  | opening, channel => { channel with opened := true }
  | closing _, channel => { channel with closeFired := true }
  | idle _, channel | fed _, channel | report .., channel => channel

/-- Where the unit goes on once the callback is over. Panics are reported, those of the exception
callback itself excepted. -/
def next (bufferSize : Nat) (pending : Bytes) : Call → Except Panic Unit → Point
  | report .., _ => .over
  | opening, .error payload => .calling (.report (.panic payload) [])
  | idle _, .error payload | fed _, .error payload | closing _, .error payload =>
    .calling (.report (.panic payload) pending)
  | fed left, .ok () =>
    if bufferSize ≤ left.length then .calling (.report (.bufferFull bufferSize) pending) else .over
  | opening, .ok () | idle _, .ok () | closing _, .ok () => .over

/-- The callback that follows a chain run whose rest is kept. -/
def ofResult (left : Bytes) : Except Error Unit → Call
  | .ok () => fed left
  | .error error => report error left

end Call

/-- Keeps what a chain run left; a full buffer asks for a close. -/
def Channel.keep (bufferSize : Nat) (left : Bytes) (channel : Channel) : Channel :=
  { channel with
    pending := left
    closeRequested := channel.closeRequested || decide (bufferSize ≤ left.length) }

/-- One move of a unit of work. -/
inductive Move (service : Service σ) : Point → Session σ → Point → Session σ → Prop where
  | opens (unopened : session.channel.opened = false) :
      Move service .begun session (.calling .opening) session
  | closes (opened : session.channel.opened = true)
      (found : (session.channel.probe (service.room session.channel)).1 = .ok .closed) :
      Move service .begun session (.calling (.closing session.channel.pending))
        (session.updateChannel Channel.release)
  | idles (opened : session.channel.opened = true)
      (found : (session.channel.probe (service.room session.channel)).1 = .ok .empty) :
      Move service .begun session (.calling (.idle session.channel.pending)) session
  | overflows (opened : session.channel.opened = true)
      (found : (session.channel.probe (service.room session.channel)).1 = .error payload) :
      Move service .begun session (.calling (.report (.panic payload) session.channel.pending))
        session
  | reads (opened : session.channel.opened = true)
      (found : session.channel.probe (service.room session.channel) = (.ok (.data fresh), channel)) :
      Move service .begun session (.read session.channel.pending fresh)
        (Session.record { session with channel } (.read fresh))
  | joins (placed : service.place (.extend pending fresh) session = (.done buffer, after)) :
      Move service (.read pending fresh) session (.offered buffer)
        (after.updateChannel ({ · with pending := buffer }))
  | joinFails
      (placed : service.place (.extend pending fresh) session = (.panicked payload, after)) :
      Move service (.read pending fresh) session
        (.calling (.report (.panic payload) after.channel.pending)) after
  | runs (ran : service.chain buffer session = (.done (result, rest), after)) :
      Move service (.offered buffer) session (.chained result rest buffer.length) after
  | runHangs (ran : service.chain buffer session = (.hung, after)) :
      Move service (.offered buffer) session .stuck after
  | keeps (placed : service.place (.compact rest offered) session = (.done left, after)) :
      Move service (.chained result rest offered) session (.calling (.ofResult left result))
        (after.updateChannel (·.keep service.bufferSize left))
  | keepFails
      (placed : service.place (.compact rest offered) session = (.panicked payload, after)) :
      Move service (.chained result rest offered) session
        (.calling (.report (.panic payload) after.channel.pending)) after
  | calls (call : Call)
      (ran : Run.attempt (call.program service.callbacks).run (session.record call.event) =
        (.done result, after)) :
      Move service (.calling call) session
        (call.next service.bufferSize after.channel.pending result) (after.updateChannel call.mark)
  | callHangs (call : Call)
      (ran : Run.attempt (call.program service.callbacks).run (session.record call.event) =
        (.hung, after)) :
      Move service (.calling call) session .stuck after

/-- A row of moves. -/
inductive Course (service : Service σ) : Point → Session σ → Point → Session σ → Prop where
  | rest : Course service point session point session
  | move (first : Move service point session middle between)
      (later : Course service middle between last after) : Course service point session last after

namespace Course

variable {service : Service σ} {point middle last : Point} {session between after : Session σ}

theorem single (move : Move service point session last after) :
    Course service point session last after := .move move .rest

theorem trans (first : Course service point session middle between)
    (second : Course service middle between last after) :
    Course service point session last after := by
  induction first with
  | rest => exact second
  | move move _ ih => exact .move move (ih second)

theorem keeps (holds : Point → Session σ → Prop)
    (move : ∀ {point session next after}, Move service point session next after →
      holds point session → holds next after)
    (course : Course service point session last after) (start : holds point session) :
    holds last after := by
  induction course with
  | rest => exact start
  | move first _ ih => exact ih (move first start)

end Course

/-! ### What the parts of a unit do -/

def Placement.events (placement : Placement) : Journal := placement.request?.toList.map .asked

theorem Placement.written_events (placement : Placement) : placement.events.written = [] := by
  cases placement <;> rfl

theorem Placement.frames_events (placement : Placement) : placement.events.frames = [] := by
  cases placement <;> rfl

theorem Placement.events_own (placement : Placement) :
    ∀ event ∈ placement.events, event.isOwn = true := by
  cases placement <;> simp [events, request?, Event.isOwn]

namespace Service

variable {service : Service σ} {session after : Session σ}

/-- Placing bytes asks the allocator at most once and leaves the channel alone. -/
theorem place_after {placement : Placement} {outcome : Outcome Bytes}
    (placed : service.place placement session = (outcome, after)) :
    after.channel = session.channel ∧ after.journal = session.journal ++ placement.events := by
  unfold place at placed
  simp only at placed
  split at placed <;> obtain rfl := (Prod.mk.inj placed).2 <;> exact ⟨rfl, rfl⟩

theorem place_of_handsOutEmpty (empty : service.allocator.HandsOutEmpty) (placement : Placement)
    (session : Session σ) : (service.place placement session).1 = .done placement.bytes := by
  have answer := Placement.place_of_handsOutEmpty empty placement session.state
  unfold place
  split <;> rename_i placed <;> rw [placed] at answer
  · rw [Except.ok.inj answer]
  · simp at answer

/-- Where empty buffers are handed out bytes are placed as they are. -/
theorem placed_of_handsOutEmpty (empty : service.allocator.HandsOutEmpty) {placement : Placement}
    {bytes : Bytes} (placed : service.place placement session = (.done bytes, after)) :
    bytes = placement.bytes := by
  have answer := place_of_handsOutEmpty empty placement session
  rw [placed] at answer
  exact Outcome.done.inj answer

theorem not_panicked_of_handsOutEmpty (empty : service.allocator.HandsOutEmpty)
    {placement : Placement} {payload : Panic} :
    service.place placement session ≠ (.panicked payload, after) := by
  intro placed
  have answer := place_of_handsOutEmpty empty placement session
  simp [placed] at answer

/-- A chain run that is over: application code, then a note of what was offered, left and failed
with. Only a panic asks for a close. -/
theorem chain_after {buffer rest : Bytes} {result : Except Error Unit}
    (ran : service.chain buffer session = (.done (result, rest), after)) :
    ∃ ended middle,
      Run.lend buffer (Handler.runBuffer service.handlers) session = (.done (ended, rest), middle) ∧
      session.Handled middle ∧
      after.journal = middle.journal ++ [.chained buffer rest (fault? result)] ∧
      (ended = .ok result ∧ after.channel = middle.channel ∨
        ∃ payload, ended = .error payload ∧ result = .error (.panic payload) ∧
          after.channel = { middle.channel with closeRequested := true }) := by
  have handled := Run.lend_handled (Handler.runBuffer service.handlers) buffer session
    (Handler.runBuffer_handled service.handlers)
  unfold chain at ran
  rw [Run.bind_apply] at ran
  rcases lent : Run.lend buffer (Handler.runBuffer service.handlers) session with
    ⟨⟨ended | payload, left⟩ | _ | _, middle⟩ <;> rw [lent] at ran handled
  · obtain ⟨same, rfl⟩ := Prod.mk.inj ran
    obtain ⟨rfl, rfl⟩ := Prod.mk.inj (Outcome.done.inj same)
    exact ⟨_, _, rfl, handled, rfl, .inr ⟨_, rfl, rfl, rfl⟩⟩
  · obtain ⟨same, rfl⟩ := Prod.mk.inj ran
    obtain ⟨rfl, rfl⟩ := Prod.mk.inj (Outcome.done.inj same)
    exact ⟨_, _, rfl, handled, rfl, .inl ⟨rfl, rfl⟩⟩
  · simp at ran
  · simp at ran

theorem chain_hung {buffer : Bytes} (ran : service.chain buffer session = (.hung, after)) :
    session.Handled after := by
  have handled := Run.lend_handled (Handler.runBuffer service.handlers) buffer session
    (Handler.runBuffer_handled service.handlers)
  unfold chain at ran
  rw [Run.bind_apply] at ran
  rcases lent : Run.lend buffer (Handler.runBuffer service.handlers) session with
    ⟨⟨ended | payload, left⟩ | _ | _, middle⟩ <;> rw [lent] at ran handled
  · simp [Run.bind_apply, Run.record, requestClose, Run.update, Run.pure_apply] at ran
  · simp [Run.bind_apply, Run.record, Run.pure_apply] at ran
  · simp at ran
  · obtain rfl := (Prod.mk.inj ran).2
    exact handled

end Service

theorem Run.attempt_handled {program : Program σ α} {session after : Session σ}
    {outcome : Outcome (Except Panic α)}
    (ran : Run.attempt program.run session = (outcome, after)) :
    session.Handled after := by
  have handled := program.run_handled session
  unfold Run.attempt at ran
  split at ran <;> obtain rfl := (Prod.mk.inj ran).2 <;> rename_i same <;> rw [same] at handled <;>
    exact handled

/-! ### Units are courses -/

namespace Run

theorem attempt_ok {work : Run σ α} {session after : Session σ} {value : α}
    (ran : work session = (.done value, after)) :
    attempt work session = (.done (.ok value), after) := by
  simp only [attempt, ran]

theorem attempt_error {work : Run σ α} {session after : Session σ} {payload : Panic}
    (ran : work session = (.panicked payload, after)) :
    attempt work session = (.done (.error payload), after) := by
  simp only [attempt, ran]

theorem attempt_hung {work : Run σ α} {session after : Session σ}
    (ran : work session = (.hung, after)) : attempt work session = (.hung, after) := by
  simp only [attempt, ran]

end Run

def Outcome.point : Outcome Unit → Point
  | .hung => .stuck
  | .done () | .panicked _ => .over

/-- Where a unit stands when its cycle is left with an outcome. -/
def Outcome.cyclePoint (pending : Bytes) : Outcome (Except Error Unit) → Point
  | .done (.ok ()) => .over
  | .done (.error error) => .calling (.report error pending)
  | .panicked payload => .calling (.report (.panic payload) pending)
  | .hung => .stuck

namespace Service

variable (service : Service σ) (session : Session σ)

theorem report_course (error : Error) (pending : Bytes) :
    Course service (.calling (.report error pending)) session
      (service.report error pending session).1.point (service.report error pending session).2 := by
  rcases ran : (service.callbacks.onException error pending).run
      (session.record (.failed error pending)) with ⟨_ | payload | _, after⟩
  · have caught := Run.attempt_ok ran
    have same : service.report error pending session = (.done (), after) := by
      simp only [report, Run.bind_apply, Run.record, caught]
      rfl
    rw [same]
    exact .single (.calls (.report error pending) caught)
  · have caught := Run.attempt_error ran
    have same : service.report error pending session = (.done (), after) := by
      simp only [report, Run.bind_apply, Run.record, caught]
      rfl
    rw [same]
    exact .single (.calls (.report error pending) caught)
  · have lost := Run.attempt_hung ran
    have same : service.report error pending session = (.hung, after) := by
      simp only [report, Run.bind_apply, Run.record, lost]
    rw [same]
    exact .single (.callHangs (.report error pending) lost)

theorem opening_course (unopened : session.channel.opened = false) :
    Course service .begun session (service.opening session).1.point
      (service.opening session).2 := by
  apply Course.move (.opens unopened)
  rcases ran : service.callbacks.onOpen.run (session.record .opened) with
    ⟨_ | payload | _, after⟩
  · have caught := Run.attempt_ok ran
    have same : service.opening session =
        (.done (), after.updateChannel ({ · with opened := true })) := by
      simp only [opening, Run.bind_apply, Run.record, Run.update, caught]
      rfl
    rw [same]
    exact .single (.calls .opening caught)
  · have caught := Run.attempt_error ran
    have same : service.opening session =
        service.report (.panic payload) [] (after.updateChannel ({ · with opened := true })) := by
      simp only [opening, Run.bind_apply, Run.record, Run.update, caught]
    rw [same]
    exact .move (.calls .opening caught) (service.report_course _ _ _)
  · have lost := Run.attempt_hung ran
    have same : service.opening session = (.hung, after) := by
      simp only [opening, Run.bind_apply, Run.record, lost]
    rw [same]
    exact .single (.callHangs .opening lost)

/-- A read as a cycle makes it. -/
theorem probe_apply :
    probe (service.room session.channel) session =
      match session.channel.probe (service.room session.channel) with
      | (.ok (.data bytes), channel) =>
        (.done (.data bytes), Session.record { session with channel } (.read bytes))
      | (.ok other, _) => (.done other, session)
      | (.error payload, _) => (.panicked payload, session) := by
  have unchanged := Channel.probe_unchanged session.channel (service.room session.channel)
  unfold probe
  rcases found : session.channel.probe (service.room session.channel) with
    ⟨_ | _ | _ | _, channel⟩ <;> simp only [found] at unchanged ⊢
  · rw [unchanged (by simp)]
  · rw [unchanged (by simp)]
  · rw [unchanged (by simp)]

theorem finish_course :
    let left := (service.finish >>= fun _ => pure (.ok ())) session
    Course service (.calling (.closing session.channel.pending))
      (session.updateChannel Channel.release)
      (left.1.cyclePoint left.2.channel.pending) left.2 := by
  have kept : (session.updateChannel Channel.release).channel.pending =
      session.channel.pending := by
    rw [Session.updateChannel, Channel.release_eq]
    rfl
  rcases ran : (service.callbacks.onClose session.channel.pending).run
      ((session.updateChannel Channel.release).record (.closed session.channel.pending)) with
    ⟨_ | payload | _, after⟩
  · have caught := Run.attempt_ok ran
    have same : service.finish session =
        (.done (), after.updateChannel ({ · with closeFired := true })) := by
      simp only [finish, Run.bind_apply, Run.update, Run.channel, Run.record, kept, caught]
      rfl
    simp only [Run.bind_apply, same]
    exact .single (.calls (.closing session.channel.pending) caught)
  · have caught := Run.attempt_error ran
    have same : service.finish session =
        (.panicked payload, after.updateChannel ({ · with closeFired := true })) := by
      simp only [finish, Run.bind_apply, Run.update, Run.channel, Run.record, kept, caught]
      rfl
    simp only [Run.bind_apply, same]
    exact .single (.calls (.closing session.channel.pending) caught)
  · have lost := Run.attempt_hung ran
    have same : service.finish session = (.hung, after) := by
      simp only [finish, Run.bind_apply, Run.update, Run.channel, Run.record, kept, lost]
    simp only [Run.bind_apply, same]
    exact .single (.callHangs (.closing session.channel.pending) lost)

theorem idle_course (pending : Bytes) :
    let left := (service.loop false pending >>= fun _ => pure (.ok ())) session
    Course service (.calling (.idle pending)) session
      (left.1.cyclePoint left.2.channel.pending) left.2 := by
  rcases ran : (service.callbacks.onLoop false pending).run
      (session.record (.looped false pending)) with ⟨_ | payload | _, after⟩
  · simp only [Run.bind_apply, loop, Run.record, ran]
    exact .single (.calls (.idle pending) (Run.attempt_ok ran))
  · simp only [Run.bind_apply, loop, Run.record, ran]
    exact .single (.calls (.idle pending) (Run.attempt_error ran))
  · simp only [Run.bind_apply, loop, Run.record, ran]
    exact .single (.callHangs (.idle pending) (Run.attempt_hung ran))

theorem conclude_course (left : Bytes) (result : Except Error Unit)
    (kept : session.channel.pending = left) :
    let ended := service.conclude left result session
    Course service (.calling (.ofResult left result)) session
      (ended.1.cyclePoint ended.2.channel.pending) ended.2 := by
  match result with
  | .error error =>
    subst kept
    exact .rest
  | .ok () =>
    rcases ran : (service.callbacks.onLoop true left).run
        (session.record (.looped true left)) with ⟨_ | payload | _, after⟩
    · have called := Move.calls (.fed left) (Run.attempt_ok ran)
      simp only [conclude, Run.bind_apply, loop, Run.record, ran]
      split
      · rename_i full
        rw [Call.next, if_pos full] at called
        exact .single called
      · rename_i space
        rw [Call.next, if_neg space] at called
        exact .single called
    · simp only [conclude, Run.bind_apply, loop, Run.record, ran]
      exact .single (.calls (.fed left) (Run.attempt_error ran))
    · simp only [conclude, Run.bind_apply, loop, Run.record, ran]
      exact .single (.callHangs (.fed left) (Run.attempt_hung ran))

theorem place_cases (placement : Placement) :
    (∃ bytes after, service.place placement session = (.done bytes, after)) ∨
      ∃ payload after, service.place placement session = (.panicked payload, after) := by
  unfold place
  simp only
  split
  · exact .inl ⟨_, _, rfl⟩
  · exact .inr ⟨_, _, rfl⟩

theorem chain_cases (buffer : Bytes) :
    (∃ result rest after, service.chain buffer session = (.done (result, rest), after)) ∨
      ∃ after, service.chain buffer session = (.hung, after) := by
  unfold chain
  rw [Run.bind_apply]
  rcases ran : Run.lend buffer (Handler.runBuffer service.handlers) session with
    ⟨⟨_ | _, _⟩ | _ | _, _⟩
  · exact .inl ⟨_, _, _, rfl⟩
  · exact .inl ⟨_, _, _, rfl⟩
  · unfold Run.lend at ran
    split at ran <;> simp at ran
  · exact .inr ⟨_, rfl⟩

theorem keep_apply (left : Bytes) :
    service.keep left session =
      (.done (), session.updateChannel (·.keep service.bufferSize left)) := by
  unfold keep
  rw [Run.bind_apply]
  by_cases full : service.bufferSize ≤ left.length
  · simp [publish, requestClose, Run.update, Session.updateChannel, Channel.keep, full]
  · simp [publish, Run.update, Session.updateChannel, Channel.keep, full, Run.pure_apply]

theorem digest_course (pending fresh : Bytes) :
    let ended := service.digest pending fresh session
    Course service (.read pending fresh) session
      (ended.1.cyclePoint ended.2.channel.pending) ended.2 := by
  rcases service.place_cases session (.extend pending fresh) with
    ⟨buffer, placed, first⟩ | ⟨payload, placed, first⟩
  · apply Course.move (.joins first)
    rcases service.chain_cases (placed.updateChannel ({ · with pending := buffer })) buffer with
      ⟨result, rest, chained, ran⟩ | ⟨chained, ran⟩
    · apply Course.move (.runs ran)
      rcases service.place_cases chained (.compact rest buffer.length) with
        ⟨left, kept, second⟩ | ⟨payload, kept, second⟩
      · apply Course.move (.keeps second)
        simp only [digest, Run.bind_apply, first, publish, Run.update, ran, second, keep_apply]
        exact service.conclude_course _ left result rfl
      · simp only [digest, Run.bind_apply, first, publish, Run.update, ran, second]
        exact .single (.keepFails second)
    · simp only [digest, Run.bind_apply, first, publish, Run.update, ran]
      exact .single (.runHangs ran)
  · simp only [digest, Run.bind_apply, first]
    exact .single (.joinFails first)

theorem cycle_course (opened : session.channel.opened = true) :
    let ended := service.cycle session
    Course service .begun session (ended.1.cyclePoint ended.2.channel.pending) ended.2 := by
  simp only [cycle, Run.bind_apply, Run.channel, probe_apply]
  rcases found : session.channel.probe (service.room session.channel) with
    ⟨payload | fresh | _ | _, channel⟩
  · exact .single (.overflows opened (by rw [found]))
  · exact .move (.reads opened found) (service.digest_course _ _ _)
  · exact .move (.idles opened (by rw [found])) (service.idle_course _ _)
  · exact .move (.closes opened (by rw [found])) (service.finish_course _)

/-- Every unit of work is a course of moves from its beginning to its end. -/
theorem unit_course :
    Course service .begun session (service.unit session).1.point (service.unit session).2 := by
  have same : service.unit session =
      (if session.channel.opened then service.receive else service.opening) session := rfl
  rw [same]
  cases opened : session.channel.opened with
  | false => exact service.opening_course session opened
  | true =>
    have cycle := service.cycle_course session opened
    simp only [if_true, receive, Run.bind_apply, Run.attempt]
    rcases ran : service.cycle session with ⟨⟨_ | _⟩ | _ | _, after⟩ <;> rw [ran] at cycle
    · exact cycle.trans (service.report_course _ _ _)
    · exact cycle
    · exact cycle.trans (service.report_course _ _ _)
    · exact cycle

end Service

/-! ### What no unit changes -/

/-- The identity, the lock and the peer's side stay, what is unread only shrinks, and no mark is ever
taken back. -/
structure Channel.Steady (before after : Channel) : Prop where
  id : after.id = before.id
  locked : after.locked = before.locked
  ended : after.connection.ended = before.connection.ended
  broken : after.connection.broken = before.connection.broken
  unread : after.connection.unread <:+ before.connection.unread
  opened : before.opened = true → after.opened = true
  fired : before.closeFired = true → after.closeFired = true

namespace Channel

theorem Steady.refl (channel : Channel) : channel.Steady channel :=
  ⟨rfl, rfl, rfl, rfl, List.suffix_refl _, fun opened => opened, fun fired => fired⟩

theorem Steady.trans {first second third : Channel} (left : first.Steady second)
    (right : second.Steady third) : first.Steady third :=
  ⟨right.id.trans left.id, right.locked.trans left.locked, right.ended.trans left.ended,
    right.broken.trans left.broken, right.unread.trans left.unread,
    fun opened => right.opened (left.opened opened), fun fired => right.fired (left.fired fired)⟩

theorem SameInward.steady {before after : Channel} (same : before.SameInward after) :
    before.Steady after := by
  obtain ⟨_, _, _, _, rfl⟩ := same
  exact { Steady.refl before with }

theorem probe_locked (channel : Channel) (room : Nat) :
    (({ channel with locked := true } : Channel).probe room).1 = (channel.probe room).1 := by
  simp only [probe]
  split
  · rfl
  · split
    · rfl
    · split
      · rfl
      · split
        · rfl
        · split
          · rfl
          · split <;> rfl

end Channel

theorem Move.steady {service : Service σ} {point next : Point} {session after : Session σ}
    (move : Move service point session next after) : session.channel.Steady after.channel := by
  have still := Channel.Steady.refl session.channel
  cases move with
  | opens | idles | overflows => exact still
  | closes =>
    rw [Session.updateChannel, Channel.release_eq]
    exact { still with }
  | reads _ found =>
    obtain ⟨_, _, _, _, rfl⟩ := Channel.probe_data found
    exact { still with unread := List.drop_suffix .. }
  | joins placed | keeps placed =>
    have same := (Service.place_after placed).1
    simp only [Session.updateChannel, same]
    exact { still with }
  | joinFails placed | keepFails placed =>
    rw [(Service.place_after placed).1]
    exact still
  | runs ran =>
    obtain ⟨_, _, _, work, _, ⟨_, same⟩ | ⟨_, _, _, same⟩⟩ := Service.chain_after ran <;> rw [same]
    · exact work.sameInward.steady
    · exact { work.sameInward.steady with }
  | runHangs ran => exact (Service.chain_hung ran).sameInward.steady
  | calls call ran =>
    have still := (Run.attempt_handled ran).sameInward.steady
    cases call with
    | opening => exact { still with opened := fun _ => rfl }
    | closing _ => exact { still with fired := fun _ => rfl }
    | idle _ | fed _ | report _ _ => exact still
  | callHangs call ran => exact (Run.attempt_handled ran).sameInward.steady

theorem Course.steady {service : Service σ} {point last : Point} {session after : Session σ}
    (course : Course service point session last after) :
    session.channel.Steady after.channel := by
  induction course with
  | rest => exact .refl _
  | move first _ ih => exact first.steady.trans ih

end StreamDispatch
