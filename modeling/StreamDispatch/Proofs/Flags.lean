import StreamDispatch.Proofs.Moments

/-! The flags of a channel. None is ever taken back, and what they say about each other and about
the two sides of the connection holds at every moment. A channel that is closed refuses to send,
one that was closed or asked to close reads nothing and offers nothing more, and its next unit of
work is the close. -/
namespace StreamDispatch

variable {σ τ : Type}

namespace Channel

/-- What the flags say about each other and about the two sides. -/
structure Sound (channel : Channel) : Prop where
  fired : channel.closeFired = true → channel.opened = true ∧ channel.closed = true ∧
    channel.output = none ∧ channel.reading = false
  closed : channel.closed = true ↔ channel.output = none

/-- The channel was closed or asked to close. -/
def Stopped (channel : Channel) : Prop := channel.closed = true ∨ channel.closeRequested = true

theorem probe_stopped {channel : Channel} (stopped : channel.Stopped) (room : Nat) :
    (channel.probe room).1 = .ok .closed := by
  rw [Stopped, ← Bool.or_eq_true] at stopped
  rw [probe, if_pos stopped]

theorem FlagsStay.stopped {before after : Channel} (flags : before.FlagsStay after)
    (stopped : before.Stopped) : after.Stopped := stopped.imp flags.closed flags.closeRequested

end Channel

theorem Coherent.sound {channel : Channel} {journal : Journal}
    (coherent : Coherent channel journal) : channel.Sound where
  fired := by
    intro fired
    obtain ⟨opened, given⟩ := coherent.fired fired
    have closed := coherent.given given
    exact ⟨opened, closed, Option.isNone_iff_eq_none.mp (coherent.output.symm.trans closed), given⟩
  closed := by rw [coherent.output, Option.isNone_iff_eq_none]

/-! ### Deeds on a closed channel -/

def Action.closes : Action → Bool
  | close | closeNow => true
  | send _ | flush | sendAndFlush _ => false

theorem Channel.openOutput_closed {channel : Channel} (closed : channel.closed = true) :
    channel.openOutput = .error .channelClosed := by
  simp [openOutput, closed]

theorem Action.apply_refused {action : Action} (other : action.closes = false) {channel : Channel}
    (closed : channel.closed = true) : action.apply channel = .error .channelClosed := by
  have shut := Channel.openOutput_closed closed
  cases action with
  | send data => simp [apply, Channel.send, shut, bind, Except.bind]
  | flush => simp [apply, Channel.flush, shut, bind, Except.bind]
  | sendAndFlush data => simp [apply, Channel.sendAndFlush, Channel.send, shut, bind, Except.bind]
  | close | closeNow => simp [closes] at other

/-- What a deed comes to on a closed channel, in a life that goes on to the last session. -/
structure Deed.Idle (deed : Deed) (last : Session σ) : Prop where
  refused : deed.action.closes = false →
    deed.result = .error .channelClosed ∧ deed.after = deed.moment
  /-- A second close succeeds, and the most it does is to mark output as dropped that is gone. -/
  harmless : deed.action.closes = true → deed.result = .ok () ∧
    deed.after.journal = deed.moment.journal ∧
    deed.after.channel = { deed.moment.channel with discard := deed.after.channel.discard }
  silent : last.channel.connection.delivered = deed.moment.channel.connection.delivered ∧
    last.journal.written = deed.moment.journal.written

theorem Deed.idle {deed : Deed} {last : Session σ} (sound : deed.moment.channel.Sound)
    (closed : deed.moment.channel.closed = true) (onward : deed.after.Onward last) :
    deed.Idle last where
  refused := by
    intro other
    have refused := Action.apply_refused other closed
    rcases deed.cases with ⟨error, applied, result, same⟩ | ⟨_, applied, _, _⟩ <;>
      rw [refused] at applied
    · obtain rfl := Except.error.inj applied
      exact ⟨result, same⟩
    · simp at applied
  harmless := by
    intro closes
    rcases deed.cases with ⟨_, applied, _, _⟩ | ⟨channel, applied, done, same⟩ <;>
      cases action : deed.action <;> rw [action] at applied closes <;>
      simp only [Action.closes, Bool.false_eq_true] at closes <;>
      simp only [Action.apply, reduceCtorEq, Except.ok.injEq] at applied
    · rw [same, action, ← applied, Channel.close_of_closed closed]
      exact ⟨done, List.append_nil _, rfl⟩
    · rw [same, action, ← applied, Channel.closeNow_of_closed closed]
      exact ⟨done, List.append_nil _, rfl⟩
  silent := ((deed.handled.onward.trans onward).silent (sound.closed.mp closed)).2

/-! ### Stopped channels -/

/-- New bytes are in hand, or they are offered to the chain. -/
def Point.feeds : Point → Bool
  | .read .. | .offered _ => true
  | _ => false

namespace Session

variable {service : Service σ} {session here : Session σ} {closing : Bool} {point : Point}

/-- Nothing is read and nothing offered on a channel that is stopped. -/
theorem Passes.unstopped (passes : session.Passes service closing point here)
    (feeds : point.feeds = true) : ¬ here.channel.Stopped := by
  have read {pending fresh : Bytes} {here : Session σ}
      (passes : session.Passes service closing (.read pending fresh) here) :
      ¬ here.channel.Stopped := by
    cases passes.entered rfl with
    | reads _ found =>
      obtain ⟨live, unasked, _, _, rfl⟩ := Channel.probe_data found
      simp [Channel.Stopped, record, live, unasked]
  cases point with
  | read pending fresh => exact read passes
  | offered buffer =>
    obtain ⟨pending, fresh, before, earlier, move⟩ := passes.joined
    cases move with
    | joins placed =>
      have still := read earlier
      rw [← (Service.place_after placed).1] at still
      exact still
  | begun | chained | calling | _ => simp [Point.feeds] at feeds

/-- Some step of a life reads or offers. -/
def Feeds (service : Service σ) (session : Session σ) (steps : List Step) : Prop :=
  ∃ earlier closing later point here, steps = earlier ++ .visit closing :: later ∧
    (session.live service earlier).Passes service closing point here ∧ point.feeds = true

theorem not_feeds (stopped : session.channel.Stopped) (steps : List Step) :
    ¬ session.Feeds service steps := by
  rintro ⟨earlier, closing, later, point, here, rfl, passes, feeds⟩
  have behind := (session.live_onward service earlier).trans passes.onward.1
  exact passes.unstopped feeds (behind.flags.stopped stopped)

end Session

theorem Session.Handled.received {before : Session σ} {after : Session τ}
    (work : before.Handled after) : after.journal.received = before.journal.received := by
  obtain ⟨events, grown, own⟩ := work.grows
  rw [grown, Journal.received_append, Journal.received_own own, List.append_nil]

namespace Move

variable {service : Service σ} {point next : Point} {session after : Session σ}

/-- A unit reads in its first move only, and not at all on a stopped channel. -/
theorem received (move : Move service point session next after)
    (stopped : point = .begun → session.channel.Stopped) :
    after.journal.received = session.journal.received := by
  have asked {placement : Placement} {outcome : Outcome Bytes} {last : Session σ}
      (placed : service.place placement session = (outcome, last)) :
      last.journal.received = session.journal.received := by
    rw [(Service.place_after placed).2, Journal.received_append,
      Journal.received_own (Placement.events_own _), List.append_nil]
  have called (call : Call) :
      (session.record call.event).journal.received = session.journal.received := by
    rw [Session.record, Journal.received_append]
    cases call <;> exact List.append_nil _
  cases move with
  | opens | closes | idles | overflows => rfl
  | reads _ found =>
    obtain ⟨live, unasked, _⟩ := Channel.probe_data found
    have stands := stopped rfl
    simp [Channel.Stopped, live, unasked] at stands
  | joins placed | keeps placed =>
    have same := asked placed
    exact same
  | joinFails placed | keepFails placed => exact asked placed
  | runs ran =>
    obtain ⟨_, middle, _, work, grown, _⟩ := Service.chain_after ran
    rw [grown, Journal.received_append, ← work.received]
    exact List.append_nil _
  | runHangs ran => exact (Service.chain_hung ran).received
  | calls call ran => exact (Run.attempt_handled ran).received.trans (called call)
  | callHangs call ran => exact (Run.attempt_handled ran).received.trans (called call)

end Move

theorem Course.received {service : Service σ} {point last : Point} {session after : Session σ}
    (course : Course service point session last after)
    (stopped : point = .begun → session.channel.Stopped) :
    after.journal.received = session.journal.received := by
  induction course with
  | rest => rfl
  | move first _ ih =>
    have later := ih fun begun => absurd begun first.not_begun
    exact later.trans (first.received stopped)

namespace Session

variable {service : Service σ} {session here : Session σ} {closing : Bool} {point : Point}

theorem Passes.received (passes : session.Passes service closing point here)
    (stopped : here.channel.Stopped) :
    (session.step service (.visit closing)).journal.received = here.journal.received := by
  obtain ⟨last, final, course, _, same⟩ := passes.ends
  rw [same, Point.left_journal]
  exact course.received fun _ => stopped

theorem step_received (session : Session σ) (stopped : session.channel.Stopped) (step : Step) :
    (session.step service step).journal.received = session.journal.received := by
  cases step with
  | arrive bytes =>
    simp only [Session.step, arrive]
    split <;> simp [record, updateChannel, Journal.received]
  | peerEnds => simp [Session.step, peerEnds, record, updateChannel, Journal.received]
  | breaks => rfl
  | act action => exact (session.perform_handled action).received
  | visit closing =>
    rcases session.visit_cases service closing with ⟨unfired, free⟩ | ⟨_, same | same⟩
    · have begun : session.Passes service closing .begun (session.begin closing) :=
        .begun unfired free closing
      rw [begun.received ((begin_onward closing session).flags.stopped stopped), begin_journal]
    · rw [same]
    · rw [same]
      rfl

theorem live_received (session : Session σ) (stopped : session.channel.Stopped)
    (steps : List Step) :
    (session.live service steps).journal.received = session.journal.received := by
  induction steps generalizing session with
  | nil => rfl
  | cons first rest ih =>
    have still := (session.step_onward service first).flags.stopped stopped
    exact (ih _ still).trans (session.step_received stopped first)

/-- Whatever a step reads it has read before its first deed. -/
theorem Does.received {deed : Deed} {step : Step} (does : session.Does service deed step) :
    (session.step service step).journal.received = deed.moment.journal.received := by
  cases step with
  | arrive bytes | peerEnds | breaks => exact absurd does id
  | act action =>
    obtain rfl := does
    exact (session.perform_handled action).received
  | visit closing =>
    obtain ⟨point, here, passes, member⟩ := does
    obtain ⟨last, final, course, _, same⟩ := passes.ends
    obtain ⟨events, _, silent, work⟩ := Point.deeds_handled member
    have later : point ≠ .begun := by
      rintro rfl
      simp [Point.deeds] at member
    have found : deed.moment.journal.received = here.journal.received := by
      obtain ⟨own, grown, mine⟩ := work.grows
      rw [grown, Journal.received_append, Journal.received_append, silent,
        Journal.received_own mine, List.append_nil, List.append_nil]
    rw [same, Point.left_journal, course.received fun begun => absurd begun later, found]

theorem Sees.received {step : Step} {moment : Moment} (sees : session.Sees service step moment)
    (stopped : moment.channel.Stopped) :
    (session.step service step).journal.received = moment.journal.received := by
  cases sees with
  | begins => exact session.step_received stopped step
  | passes passes => exact passes.received stopped
  | finds does => exact does.received
  | @leaves deed _ does => exact does.received.trans deed.handled.received.symm
  | ends => rfl

/-! ### The chain breaks off -/

/-- A chain run of the visit panicked, or what it left was kept and still fills the buffer. -/
inductive BreaksOff (service : Service σ) (session : Session σ) (closing : Bool) : Prop where
  | panicked {buffer rest : Bytes} {payload : Panic} {here middle : Session σ}
      (passes : session.Passes service closing (.offered buffer) here)
      (ran : Run.lend buffer (Handler.runBuffer service.handlers) here =
        (.done (.error payload, rest), middle))
  | stalled {result : Except Error Unit} {rest left : Bytes} {offered : Nat}
      {here placed : Session σ}
      (passes : session.Passes service closing (.chained result rest offered) here)
      (kept : service.place (.compact rest offered) here = (.done left, placed))
      (full : service.bufferSize ≤ left.length)

theorem BreaksOff.stopped (breaks : session.BreaksOff service closing) :
    (session.step service (.visit closing)).channel.Stopped := by
  refine .inr ?_
  cases breaks with
  | @panicked buffer rest payload here middle passes ran =>
    have chained : service.chain buffer here = (.done (.error (.panic payload), rest),
        (middle.record (.chained buffer rest (some (.panic payload)))).request) := by
      simp only [Service.chain, Run.bind_apply, ran]
      rfl
    exact (passes.next (.runs chained)).onward.2.flags.closeRequested rfl
  | stalled passes kept full =>
    refine (passes.next (.keeps kept)).onward.2.flags.closeRequested ?_
    simp [updateChannel, Channel.keep, full]

/-! ### The next unit -/

/-- The unit that a visit runs comes to the callback first, and to no other work. -/
def Begins (service : Service σ) (session : Session σ) (closing : Bool) (call : Call) : Prop :=
  (∃ here, session.Passes service closing (.calling call) here) ∧
    ∀ point here, session.Passes service closing point here → point.isEntry = true →
      point = .calling call

theorem Passes.begins {call : Call} {there : Session σ}
    (begun : session.Passes service closing .begun (session.begin closing))
    (move : Move service .begun (session.begin closing) (.calling call) there) :
    session.Begins service closing call :=
  ⟨⟨there, begun.next move⟩, fun _ _ passes entry => ((passes.entered entry).unique move).1.symm⟩

theorem begins_closing (stopped : (session.begin closing).channel.Stopped)
    (unfired : session.channel.closeFired = false) (free : session.channel.locked = false)
    (opened : session.channel.opened = true) :
    session.Begins service closing (.closing session.channel.pending) := by
  have still : (session.begin closing).channel.opened = true := by rw [begin_opened, opened]
  have move := Move.closes still (Channel.probe_stopped stopped (service.room _))
  rw [begin_pending] at move
  exact Passes.begins (.begun unfired free closing) move

theorem begins_opening (unfired : session.channel.closeFired = false)
    (free : session.channel.locked = false) (unopened : session.channel.opened = false) :
    session.Begins service closing .opening := by
  have still : (session.begin closing).channel.opened = false := by rw [begin_opened, unopened]
  exact Passes.begins (.begun unfired free closing) (.opens still)

/-- The open callback has run, or the unit has it before it, or it never came back. -/
private def Opens (point : Point) (here : Session σ) : Prop :=
  point = .begun ∨ point = .calling .opening ∨ point = .stuck ∨ here.channel.opened = true

private theorem Opens.move {next : Point} {there : Session σ}
    (move : Move service point here next there) (opens : Opens point here) : Opens next there := by
  have steady := move.steady
  rcases opens with rfl | rfl | rfl | opened
  · cases move with
    | opens => exact .inr (.inl rfl)
    | closes opened _ | idles opened _ | overflows opened _ | reads opened _ =>
      exact .inr (.inr (.inr (steady.opened opened)))
  · cases move with
    | calls => exact .inr (.inr (.inr rfl))
    | callHangs => exact .inr (.inr (.inl rfl))
  · cases move
  · exact .inr (.inr (.inr (steady.opened opened)))

theorem visit_opened (unfired : session.channel.closeFired = false)
    (free : session.channel.locked = false)
    (returned : (session.step service (.visit closing)).channel.locked = false) :
    (session.step service (.visit closing)).channel.opened = true := by
  obtain ⟨last, final, course, isLast, same⟩ := visit_course unfired free closing
  rw [same] at returned ⊢
  have opens : Opens last final := course.keeps Opens Opens.move (.inl rfl)
  rcases Point.eq_of_isLast isLast with rfl | rfl
  · have opened : final.channel.opened = true := by simpa [Opens] using opens
    exact opened
  · have passes : session.Passes service closing .stuck final := ⟨unfired, free, course⟩
    simp [Point.left, passes.locked] at returned

end Session

/-! ### The flags in every life -/

/-- The flags of a channel in every life, whoever acts on it and however often its handlers and
callbacks panic. From one moment of a step to the next no flag is taken back, and at every moment
the flags are sound. Deeds on a closed channel are idle. Once the channel is stopped, be it because
its chain broke off, nothing more is read and nothing more offered to the chain; and the next unit
of work is the close, or the open and then the close. -/
theorem Service.flags_kept (service : Service σ) (id : Nat) (steps : List Session.Step) :
    let final := (service.session id).live service steps
    final.channel.Sound ∧
    ∀ earlier step later, steps = earlier ++ step :: later →
      let before := (service.session id).live service earlier
      let after := before.step service step
      (∃ moments : List Moment,
        (∀ moment, moment ∈ moments ↔ before.Sees service step moment) ∧
        moments.Pairwise fun first second => first.channel.FlagsStay second.channel) ∧
      (∀ moment, before.Sees service step moment →
        moment.channel.Sound ∧ moment.channel.FlagsStay final.channel ∧
        (moment.channel.Stopped → final.journal.received = moment.journal.received ∧
          ¬ after.Feeds service later)) ∧
      (∀ deed, before.Does service deed step → deed.moment.channel.closed = true →
        deed.Idle final) ∧
      ∀ closing, step = .visit closing →
        (∀ point here, before.Passes service closing point here → point.feeds = true →
          ¬ here.channel.Stopped) ∧
        (before.BreaksOff service closing → ¬ after.Feeds service later) ∧
        ((before.begin closing).channel.Stopped → before.channel.closeFired = false →
          before.channel.locked = false →
          if before.channel.opened then
            before.Begins service closing (.closing before.channel.pending)
          else before.Begins service closing .opening ∧
            (after.channel.locked = false → after.channel.opened = true)) := by
  refine ⟨(Coherent.of_lived ⟨id, steps, rfl⟩).sound, ?_⟩
  rintro earlier step later rfl before after
  have coherent := Coherent.of_lived (Session.live_lived service id earlier)
  have onward : after.Onward (after.live service later) := after.live_onward service later
  rw [Session.live_append]
  refine ⟨?_, fun moment sees => ⟨(coherent.sees sees).sound,
    (sees.onward.2.trans onward).flags, fun stopped => ?_⟩, fun deed does closed => ?_, ?_⟩
  · obtain ⟨moments, all, ordered⟩ := before.step_moments service step
    exact ⟨moments, all, ordered.imp fun behind => behind.flags⟩
  · have still : after.channel.Stopped := sees.onward.2.flags.stopped stopped
    exact ⟨(after.live_received still later).trans (sees.received stopped),
      Session.not_feeds still later⟩
  · exact Deed.idle (coherent.does does).1.sound closed (does.onward.2.trans onward)
  · rintro closing rfl
    refine ⟨fun point here passes => passes.unstopped,
      fun breaks => Session.not_feeds breaks.stopped later, fun stopped unfired free => ?_⟩
    split
    · rename_i opened
      exact Session.begins_closing stopped unfired free opened
    · rename_i unopened
      exact ⟨Session.begins_opening unfired free (by simpa using unopened),
        Session.visit_opened unfired free⟩

end StreamDispatch
