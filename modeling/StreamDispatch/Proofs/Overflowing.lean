import StreamDispatch.Proofs.Handing
import StreamDispatch.Proofs.Parsing

/-! A frame that is longer than the buffer. The frames in front of it are delivered. Then the buffer
fills with its first bytes, which is reported once, right after the loop callback that was given
them, and the channel is closed with exactly these bytes. -/
namespace StreamDispatch

variable {σ α : Type}

/-! ### The stream -/

/-- Frames that fit a buffer in a row, and behind them the beginning of one that does not: the
buffer cannot even hold its header, or the header announces more than the buffer can hold. -/
structure Framing.Overflows (framing : Framing) (limit : Nat) (frames : List Bytes) (tail : Bytes) :
    Prop where
  formed : ∀ frame ∈ frames, framing.WellFormed frame
  fits : ∀ frame ∈ frames, frame.length ≤ limit
  enough : limit ≤ tail.length
  large : limit < framing.minLength ∨
    framing.announced tail ≤ maxLength ∧ limit < framing.minLength + framing.announced tail

namespace Framing.Overflows

variable {framing : Framing} {limit : Nat} {frames : List Bytes} {tail : Bytes}

/-- A part of the tail that the buffer can hold is an unfinished frame. -/
theorem front_tail (overflows : framing.Overflows limit frames tail) {part : Bytes}
    (front : part <+: tail) (short : part.length ≤ limit) : framing.front part = .incomplete := by
  obtain ⟨rest, rfl⟩ := front
  rw [front_eq]
  by_cases complete : framing.minLength ≤ part.length
  · obtain ⟨legal, large⟩ := overflows.large.resolve_left (by omega)
    rw [announced_append complete] at legal large
    rw [if_neg (by omega), if_neg (by omega), if_pos (by omega)]
  · rw [if_pos (by omega)]

/-- A front of the stream with no more of the tail than the buffer can hold is some of the frames
and an unfinished one. That fills the buffer only if it is the tail's. -/
theorem cut_front {got : Bytes} (overflows : framing.Overflows limit frames tail)
    (front : got <+: frames.flatten ++ tail) (short : got.length ≤ frames.flatten.length + limit) :
    ∃ row part, framing.cut got = ⟨row, part, .incomplete⟩ ∧ row <+: frames ∧
      part.length ≤ limit ∧ (part.length = limit → row = frames ∧ part = tail.take limit) := by
  induction frames generalizing got with
  | nil =>
    rw [List.flatten_nil, List.nil_append] at front
    rw [List.flatten_nil, List.length_nil, Nat.zero_add] at short
    have unfinished := overflows.front_tail front short
    refine ⟨[], got, ?_, List.nil_prefix, short, fun full => ⟨rfl, ?_⟩⟩
    · rw [cut_of_stop (stops_of_incomplete unfinished), unfinished]
    · rw [← full]
      exact List.prefix_iff_eq_take.mp front
  | cons frame later ih =>
    have whole := wellFormed_iff.mp (overflows.formed frame (List.mem_cons_self ..))
    have fits := overflows.fits frame (List.mem_cons_self ..)
    have others : framing.Overflows limit later tail :=
      { overflows with
        formed := fun other member => overflows.formed other (List.mem_cons_of_mem _ member)
        fits := fun other member => overflows.fits other (List.mem_cons_of_mem _ member) }
    rw [List.flatten_cons, List.append_assoc] at front
    by_cases past : frame <+: got
    · obtain ⟨more, rfl⟩ := past
      rw [List.flatten_cons, List.length_append, List.length_append] at short
      obtain ⟨row, part, cut, ahead, within, full⟩ :=
        ih others ((List.prefix_append_right_inj frame).mp front) (by omega)
      refine ⟨frame :: row, part, ?_, ?_, within, fun filled => ?_⟩
      · rw [cut_of_frame (whole.front_append more), List.drop_left, List.take_left, cut]
      · exact (List.prefix_append_right_inj [frame]).mpr ahead
      · obtain ⟨rfl, given⟩ := full filled
        exact ⟨rfl, given⟩
    · have inside := (List.prefix_or_prefix_of_prefix front
        (List.prefix_append frame (later.flatten ++ tail))).resolve_right past
      have other : got ≠ frame := by
        rintro rfl
        exact past (List.prefix_rfl)
      have unfinished := whole.front_part inside other
      have shorter : got.length < frame.length :=
        Nat.lt_of_le_of_ne inside.length_le fun same => other (inside.eq_of_length same)
      refine ⟨[], got, ?_, List.nil_prefix, by omega, fun full => by omega⟩
      rw [cut_of_stop (stops_of_incomplete unfinished), unfinished]

end Framing.Overflows

/-! ### The service -/

/-- A service that cuts frames and records them, and whose callbacks come back without closing. -/
structure Service.Collecting (service : Service σ) (framing : Framing) : Prop where
  chain : ∃ recorder others, Handler.Records recorder ∧
    service.handlers = framing.handler :: recorder :: others
  calm : ∀ call : Call, (call.program service.callbacks).Calm
  empty : service.allocator.HandsOutEmpty

namespace Program.Calm

variable {program : Program σ α}

theorem returns (calm : program.Calm) : program.Returns := by
  induction program with
  | done => trivial
  | panic | hang => exact calm.elim
  | look next ih => exact fun view state => ih view state (calm view state)
  | keep state next ih => exact ih calm
  | note entry next ih => exact ih calm.2
  | act action next ih => exact fun result => ih result (calm.2.2 result)

theorem writesNoFrames (calm : program.Calm) : program.WritesNoFrames := by
  induction program with
  | done => trivial
  | panic | hang => exact calm.elim
  | look next ih => exact fun view state => ih view state (calm view state)
  | keep state next ih => exact ih calm
  | note entry next ih => exact ⟨calm.1, ih calm.2⟩
  | act action next ih => exact fun result => ih result (calm.2.2 result)

end Program.Calm

/-- Nobody but the close of a visit has closed the channel: that gives the reading side back too. -/
def Session.Unforced (session : Session σ) : Prop :=
  session.channel.closed = true → session.channel.reading = false

namespace Service.Collecting

variable {service : Service σ} {framing : Framing} {session after : Session σ}

theorem reliable (collects : service.Collecting framing) : service.Reliable where
  returns :=
    { onOpen := (collects.calm .opening).returns
      onLoop := fun fresh pending => by
        cases fresh with
        | false => exact (collects.calm (.idle pending)).returns
        | true => exact (collects.calm (.fed pending)).returns
      onException := fun error pending => (collects.calm (.report error pending)).returns
      onClose := fun leftover => (collects.calm (.closing leftover)).returns }
  empty := collects.empty

theorem writes (collects : service.Collecting framing) : service.WritesHanded framing where
  chain := collects.chain
  quiet := fun call => (collects.calm call).writesNoFrames

theorem unforced_move (collects : service.Collecting framing) {point next : Point}
    (move : Move service point session next after) (unforced : session.Unforced) :
    after.Unforced := by
  have called (call : Call) {outcome : Outcome (Except Panic Unit)} {last : Session σ}
      (ran : Run.attempt (call.program service.callbacks).run (session.record call.event) =
        (outcome, last)) : last.Unforced := by
    obtain ⟨_, _, returned, closed, _⟩ := (collects.calm call).run (session.record call.event)
    obtain ⟨_, rfl⟩ := Prod.mk.inj ((Run.attempt_ok returned).symm.trans ran)
    intro shut
    rw [(Run.attempt_handled ran).sameInward.reading]
    exact unforced (closed.symm.trans shut)
  have placed {placement : Placement} {outcome : Outcome Bytes} {last : Session σ}
      (ran : service.place placement session = (outcome, last)) : last.Unforced := by
    intro shut
    rw [(Service.place_after ran).1] at shut ⊢
    exact unforced shut
  cases move with
  | opens | idles | overflows => exact unforced
  | reads opened found =>
    obtain ⟨_, _, _, _, rfl⟩ := Channel.probe_data found
    exact unforced
  | closes opened found =>
    intro _
    rw [Session.updateChannel, Channel.release_eq]
  | joins ran | joinFails ran | keeps ran | keepFails ran =>
    have kept := placed ran
    exact kept
  | @runs buffer _ _ _ _ ran | @runHangs buffer _ _ ran =>
    obtain ⟨_, same, _⟩ := collects.writes.chain_apply buffer session
    obtain ⟨_, rfl⟩ := Prod.mk.inj (ran.symm.trans same)
    exact unforced
  | calls call ran =>
    intro shut
    have kept := called call ran
    cases call <;> exact kept shut
  | callHangs call ran => exact called call ran

theorem unforced_step (collects : service.Collecting framing) {step : Session.Step}
    (quiet : step.IsQuiet) (unforced : session.Unforced) :
    (session.step service step).Unforced := by
  rcases session.step_cases service step with same | ⟨bytes, more, _, same⟩ | ⟨_, same⟩ |
      ⟨rfl, _⟩ | ⟨action, rfl, same⟩ | ⟨_, ⟨rfl, _, same⟩ | ⟨rfl, _, same⟩ | ⟨_, _, same⟩⟩ <;>
    try rw [same]
  · exact unforced
  · rw [Session.record, Session.updateChannel, Channel.arrive_of_open more]
    exact unforced
  · exact unforced
  · exact quiet.elim
  · intro shut
    rw [(session.perform_handled action).sameInward.reading]
    exact unforced ((session.perform_quiet quiet).1.symm.trans shut)
  · simp [Session.Step.IsQuiet] at quiet
  · simp [Session.Step.IsQuiet] at quiet
  · exact session.work_keeps Session.Unforced (fun _ => Session.Unforced) (fun unforced => unforced)
      (fun first => unforced_move collects first) (fun _ unforced => unforced)
      (fun _ unforced => unforced) unforced

end Service.Collecting

/-! ### How the buffer fills -/

/-- A full buffer is reported in the journal: once, and right after the loop callback that was given
all of it. Before that nothing is reported and nobody is told of a close. After it the chain does
not run, and no callback fires but the close callback, which is given the same bytes. -/
structure Journal.ReportsFull (journal : Journal) (capacity : Nat) (part : Bytes) (closed : Bool)
    (earlier later : Journal) : Prop where
  outline : journal.outline =
    earlier ++ [.looped true part, .failed (.bufferFull capacity) part] ++ later
  calm : ∀ error pending, .failed error pending ∉ earlier
  unclosed : ∀ leftover, .closed leftover ∉ earlier
  unrun : ∀ offered rest fault, .chained offered rest fault ∉ later
  closings : later.callbacks = if closed then [.closed part] else []

namespace Session

/-- Where a channel stands between two units of work. -/
inductive Stage (limit : Nat) (part : Bytes) (session : Session σ) : Prop where
  | flows (reading : session.channel.reading = true)
      (unasked : session.channel.closeRequested = false)
      (unfired : session.channel.closeFired = false) (room : session.channel.pending.length < limit)
      (calm : ∀ error pending, .failed error pending ∉ session.journal.outline)
      (unclosed : ∀ leftover, .closed leftover ∉ session.journal.outline)
  | ended (exhausted : session.Exhausted) (fired : session.channel.closeFired = true)
      (room : session.channel.pending.length < limit)
      (calm : ∀ error pending, .failed error pending ∉ session.journal.outline)
  | full (asked : session.channel.closeRequested = true) (given : session.channel.pending = part)
      (sized : part.length = limit)
      (reported : ∃ earlier later,
        session.journal.ReportsFull limit part session.channel.closeFired earlier later)

/-- So much of a stream has been read, and so it was dealt with. -/
structure Filling (framing : Framing) (limit : Nat) (frames : List Bytes) (tail : Bytes)
    (session : Session σ) : Prop where
  free : session.channel.locked = false
  unforced : session.Unforced
  unbroken : session.channel.connection.broken = false
  sliced : session.Sliced framing limit
  front : framing.handed session.journal <+: frames
  stage : session.Stage limit (tail.take limit)

variable {service : Service σ} {framing : Framing} {limit : Nat} {frames : List Bytes}
  {tail part : Bytes} {session after : Session σ} {events : Journal}

theorem Stage.extend (stage : session.Stage limit part)
    (outline : after.journal.outline = session.journal.outline ++ events)
    (silent : events.callbacks = [])
    (unrun : ∀ offered rest fault, .chained offered rest fault ∉ events)
    (reading : after.channel.reading = session.channel.reading)
    (asked : after.channel.closeRequested = session.channel.closeRequested)
    (fired : after.channel.closeFired = session.channel.closeFired)
    (pending : after.channel.pending = session.channel.pending)
    (exhausted : session.Exhausted → after.Exhausted) : after.Stage limit part := by
  have quiet (event : Event) (callback : event.isCallback = true) : event ∉ events := by
    intro member
    have fires : event ∈ events.callbacks := List.mem_filter.mpr ⟨member, callback⟩
    simp [silent] at fires
  have still (event : Event) (callback : event.isCallback = true)
      (never : event ∉ session.journal.outline) : event ∉ after.journal.outline := by
    rw [outline, List.mem_append]
    exact fun member => member.elim never (quiet event callback)
  cases stage with
  | flows reads unasked unfired room calm unclosed =>
    exact .flows (reading.trans reads) (asked.trans unasked) (fired.trans unfired)
      (by rwa [pending]) (fun error given => still _ rfl (calm error given))
      fun leftover => still _ rfl (unclosed leftover)
  | ended exhausts done room calm =>
    exact .ended (exhausted exhausts) (fired.trans done) (by rwa [pending])
      fun error given => still _ rfl (calm error given)
  | full requested given sized reported =>
    obtain ⟨earlier, later, report⟩ := reported
    refine .full (asked.trans requested) (pending.trans given) sized
      ⟨earlier, later ++ events, ?_, report.calm, report.unclosed, fun offered rest fault => ?_, ?_⟩
    · rw [outline, report.outline, List.append_assoc]
    · rw [List.mem_append]
      exact fun member => member.elim (report.unrun _ _ _) (unrun _ _ _)
    · rw [Journal.callbacks_append, silent, List.append_nil, fired, report.closings]

/-- The frames of a channel that nobody asked to close go on coming after callbacks that are neither
reports nor closes. -/
theorem Stage.goes_on (stage : session.Stage limit part)
    (outline : after.journal.outline = session.journal.outline ++ events)
    (unfired : session.channel.closeFired = false)
    (unasked : session.channel.closeRequested = false)
    (calm : ∀ error pending, .failed error pending ∉ events)
    (unclosed : ∀ leftover, .closed leftover ∉ events)
    (reading : after.channel.reading = session.channel.reading)
    (asked : after.channel.closeRequested = session.channel.closeRequested)
    (fired : after.channel.closeFired = session.channel.closeFired)
    (pending : after.channel.pending = session.channel.pending) : after.Stage limit part := by
  cases stage with
  | flows reads _ _ room quiet unshut =>
    refine .flows (reading.trans reads) (asked.trans unasked) (fired.trans unfired)
      (by rwa [pending]) (fun error given => ?_) fun leftover => ?_
    · rw [outline, List.mem_append]
      exact fun member => member.elim (quiet error given) (calm error given)
    · rw [outline, List.mem_append]
      exact fun member => member.elim (unshut leftover) (unclosed leftover)
  | ended _ done => simp [unfired] at done
  | full requested => simp [unasked] at requested

/-- A run of the chain that leaves the buffer full has it reported, right after the loop callback.
-/
theorem Stage.fills {fresh offered rest : Bytes} (stage : session.Stage limit part)
    (unfired : session.channel.closeFired = false)
    (unasked : session.channel.closeRequested = false)
    (outline : after.journal.outline = session.journal.outline ++
      ([.read fresh, .chained offered rest none] ++ (Call.fed rest).told limit))
    (full : limit ≤ rest.length → rest = part ∧ rest.length = limit)
    (reading : after.channel.reading = session.channel.reading)
    (asked : after.channel.closeRequested = decide (limit ≤ rest.length))
    (fired : after.channel.closeFired = session.channel.closeFired)
    (pending : after.channel.pending = rest) : after.Stage limit part := by
  cases stage with
  | flows reads _ _ room calm unclosed =>
    by_cases filled : limit ≤ rest.length
    · obtain ⟨rfl, sized⟩ := full filled
      rw [Call.told, if_pos filled] at outline
      refine .full (asked.trans (decide_eq_true filled)) pending sized
        ⟨session.journal.outline ++ [.read fresh, .chained offered rest none], [], ?_,
          fun error given => ?_, fun leftover => ?_, fun _ _ _ => List.not_mem_nil, ?_⟩
      · rw [outline, List.append_nil, List.append_assoc]
      · simpa using calm error given
      · simpa using unclosed leftover
      · rw [fired, unfired]
        rfl
    · rw [Call.told, if_neg filled] at outline
      refine .flows (reading.trans reads) (asked.trans (decide_eq_false filled))
        (fired.trans unfired) ?_ (fun error given => ?_) fun leftover => ?_
      · rw [pending]
        exact Nat.lt_of_not_le filled
      · simpa [outline] using calm error given
      · simpa [outline] using unclosed leftover
  | ended _ done => simp [unfired] at done
  | full requested => simp [unasked] at requested

/-- The close callback is given what is pending: at the end of all that was sent, or with a full
buffer. -/
theorem Stage.shuts {room : Nat} (stage : session.Stage limit part) (unforced : session.Unforced)
    (unbroken : session.channel.connection.broken = false)
    (found : (session.channel.probe room).1 = .ok .closed)
    (outline : after.journal.outline =
      session.journal.outline ++ [.closed session.channel.pending])
    (inner : after.channel.inner =
      { session.channel.inner with reading := false, closeFired := true })
    (unfired : session.channel.closeFired = false) : after.Stage limit part := by
  have fired : after.channel.closeFired = true := congrArg Channel.Inner.closeFired inner
  have pending : after.channel.pending = session.channel.pending :=
    congrArg Channel.Inner.pending inner
  cases stage with
  | flows reads unasked _ space calm _ =>
    have exhausted : session.Exhausted := by
      rcases Channel.probe_closed found with shut | requested | given | broken | ⟨none, ended⟩
      · simp [unforced shut] at reads
      · simp [unasked] at requested
      · simp [reads] at given
      · simp [unbroken] at broken
      · exact ⟨ended, none⟩
    refine .ended ⟨?_, ?_⟩ fired (by rwa [pending]) fun error given => ?_
    · exact (congrArg Channel.Inner.ended inner).trans exhausted.1
    · exact (congrArg Channel.Inner.unread inner).trans exhausted.2
    · simpa [outline] using calm error given
  | ended _ done => simp [unfired] at done
  | full requested given sized reported =>
    obtain ⟨earlier, later, report⟩ := reported
    have silent := report.closings
    rw [unfired] at silent
    refine .full ((congrArg Channel.Inner.closeRequested inner).trans requested)
      (pending.trans given) sized ⟨earlier, later ++ [.closed part], ?_, report.calm,
        report.unclosed, fun offered rest fault => ?_, ?_⟩
    · rw [outline, report.outline, given, List.append_assoc]
    · simpa using report.unrun offered rest fault
    · rw [Journal.callbacks_append, silent, fired]
      rfl

namespace Filling

theorem whole (filling : session.Filling framing limit frames tail) :
    session.journal.received =
      (framing.handed session.journal).flatten ++ session.channel.pending := by
  have read := framing.cut_flatten session.journal.received
  rw [filling.sliced.cut] at read
  exact read.symm

theorem received_within (filling : session.Filling framing limit frames tail) :
    session.journal.received.length ≤ frames.flatten.length + session.channel.pending.length := by
  obtain ⟨rest, same⟩ := filling.front
  rw [filling.whole, ← same, List.flatten_append, List.length_append, List.length_append]
  omega

theorem received_le (filling : session.Filling framing limit frames tail) :
    session.journal.received.length ≤ frames.flatten.length + limit :=
  Nat.le_trans filling.received_within (Nat.add_le_add_left filling.sliced.fits _)

theorem front_extend (filling : session.Filling framing limit frames tail)
    (outline : after.journal.outline = session.journal.outline ++ events)
    (unrun : framing.handed events = []) : framing.handed after.journal <+: frames := by
  rw [Framing.handed_of_outline outline, unrun, List.append_nil]
  exact filling.front

/-- New bytes are cut into more of the frames and a rest, which fills the buffer only if it is the
front of the tail. -/
theorem cut_fresh (filling : session.Filling framing limit frames tail)
    (overflows : framing.Overflows limit frames tail)
    (sent : session.journal.sent <+: frames.flatten ++ tail) {fresh unread : Bytes}
    (taken : fresh ++ unread = session.channel.connection.unread)
    (room : fresh.length ≤ limit - session.channel.pending.length) :
    ∃ more part, framing.cut (session.channel.pending ++ fresh) = ⟨more, part, .incomplete⟩ ∧
      framing.handed session.journal ++ more <+: frames ∧
      (limit ≤ part.length → part = tail.take limit ∧ part.length = limit) := by
  have front : session.journal.received ++ fresh <+: frames.flatten ++ tail := by
    refine List.IsPrefix.trans ⟨unread, ?_⟩ sent
    rw [List.append_assoc, taken, filling.sliced.whole]
  have short : (session.journal.received ++ fresh).length ≤ frames.flatten.length + limit := by
    have within := filling.received_within
    have fits := filling.sliced.fits
    rw [List.length_append]
    omega
  obtain ⟨row, part, cut, ahead, within, full⟩ := overflows.cut_front front short
  have split := framing.cut_append session.journal.received fresh
  rw [cut, filling.sliced.cut] at split
  obtain ⟨rfl, rest, stop⟩ := Framing.Cut.mk.inj split
  refine ⟨_, part, ?_, ahead, fun filled => ?_⟩
  · rw [rest, stop]
  · have sized : part.length = limit := Nat.le_antisymm within filled
    exact ⟨(full sized).2, sized⟩

theorem works (collects : service.Collecting framing) (positive : 0 < service.bufferSize)
    (fits : service.bufferSize ≤ Word.maxCapacity)
    (overflows : framing.Overflows service.bufferSize frames tail)
    (filling : session.Filling framing service.bufferSize frames tail)
    (sent : session.journal.sent <+: frames.flatten ++ tail)
    (unfired : session.channel.closeFired = false)
    (outline : after.journal.outline = session.journal.outline ++ events)
    (works : session.Works service events after.channel.locked after.channel.inner) :
    after.channel.locked = false ∧ framing.handed after.journal <+: frames ∧
      after.Stage service.bufferSize (tail.take service.bufferSize) := by
  generalize held : after.channel.locked = locked at works
  generalize same : after.channel.inner = inner at works
  have reading := congrArg Channel.Inner.reading same
  have asked := congrArg Channel.Inner.closeRequested same
  have fired := congrArg Channel.Inner.closeFired same
  have pending := congrArg Channel.Inner.pending same
  cases works with
  | opens unopened =>
    have unasked : session.channel.closeRequested = false := by
      cases filling.stage with
      | flows _ unasked => exact unasked
      | ended _ done => simp [unfired] at done
      | full _ given sized =>
        rw [← given, filling.sliced.unopened unopened, List.length_nil] at sized
        omega
    exact ⟨rfl, filling.front_extend outline rfl, filling.stage.goes_on outline unfired unasked
      (by simp) (by simp) reading asked fired pending⟩
  | closes opened found =>
    exact ⟨rfl, filling.front_extend outline rfl,
      filling.stage.shuts filling.unforced filling.unbroken found outline same unfired⟩
  | waits opened found =>
    obtain ⟨_, unasked, _⟩ := Channel.probe_empty found
    exact ⟨rfl, filling.front_extend outline rfl, filling.stage.goes_on outline unfired unasked
      (by simp) (by simp) reading asked fired pending⟩
  | overflows opened found => exact absurd fits (Service.not_fits_of_probe found)
  | @reads fresh unread rest result request middle chained opened found taken ran cause =>
    obtain ⟨_, unasked, _, short⟩ := Channel.probe_fresh found
    obtain ⟨more, part, cut, ahead, full⟩ := filling.cut_fresh overflows sent taken short
    obtain ⟨_, applied, fine⟩ :=
      collects.writes.chain_apply (session.channel.pending ++ fresh) middle
    obtain ⟨ended, _⟩ := Prod.mk.inj (ran.symm.trans applied)
    obtain ⟨rfl, rfl⟩ := Prod.mk.inj (Outcome.done.inj ended)
    rw [cut] at fine pending asked outline
    obtain rfl := fine rfl
    refine ⟨rfl, ?_, ?_⟩
    · rw [Framing.handed_of_outline outline, Framing.handed_append, Framing.handed_told]
      simpa [Framing.handed, cut] using ahead
    · -- The chain did not fail, so only a full buffer asks for a close.
      have calm : request = false := by
        cases request with
        | false => rfl
        | true => simp at cause
      rw [calm] at asked
      exact filling.stage.fills unfired unasked outline full reading asked fired pending
  | @hangs fresh unread middle chained opened found taken ran =>
    obtain ⟨_, applied, _⟩ := collects.writes.chain_apply (session.channel.pending ++ fresh) middle
    rw [applied] at ran
    simp at ran

theorem step (collects : service.Collecting framing) (positive : 0 < service.bufferSize)
    (fits : service.bufferSize ≤ Word.maxCapacity)
    (overflows : framing.Overflows service.bufferSize frames tail)
    (filling : session.Filling framing service.bufferSize frames tail) {step : Session.Step}
    (quiet : step.IsQuiet)
    (sent : (session.step service step).journal.sent <+: frames.flatten ++ tail) :
    (session.step service step).Filling framing service.bufferSize frames tail := by
  obtain ⟨_, _, _, first⟩ := collects.chain
  obtain ⟨events, outline, steps⟩ := session.step_steps collects.reliable step
  have framed := (Framed.free filling.free filling.sliced).step first collects.reliable step
  suffices kept : (session.step service step).channel.locked = false ∧
      framing.handed (session.step service step).journal <+: frames ∧
      (session.step service step).Stage service.bufferSize (tail.take service.bufferSize) by
    obtain ⟨free, front, stage⟩ := kept
    have unforced := collects.unforced_step quiet filling.unforced
    have unbroken : (session.step service step).channel.connection.broken = false :=
      (session.step_broken quiet.ne_breaks).trans filling.unbroken
    cases framed with
    | free _ sliced => exact ⟨free, unforced, unbroken, sliced, front, stage⟩
    | hung held _ => simp [free] at held
  cases steps with
  | refuses _ same | gone _ same =>
    rw [same]
    exact ⟨filling.free, filling.front, filling.stage⟩
  | arrives _ locked inner | ends locked inner | acts locked inner =>
    refine ⟨locked.trans filling.free, filling.front_extend outline rfl, ?_⟩
    exact filling.stage.extend outline rfl (by simp) (congrArg Channel.Inner.reading inner)
      (congrArg Channel.Inner.closeRequested inner) (congrArg Channel.Inner.closeFired inner)
      (congrArg Channel.Inner.pending inner) (Exhausted.step session _)
  | breaks => exact quiet.elim
  | busy _ held _ => simp [filling.free] at held
  | works unfired _ works =>
    obtain rfl := quiet
    have earlier := (sent_step collects.reliable session (.visit false)).trans sent
    exact filling.works collects positive fits overflows earlier unfired outline works

theorem live (collects : service.Collecting framing) (positive : 0 < service.bufferSize)
    (fits : service.bufferSize ≤ Word.maxCapacity)
    (overflows : framing.Overflows service.bufferSize frames tail)
    (filling : session.Filling framing service.bufferSize frames tail) {steps : List Session.Step}
    (quiet : ∀ step ∈ steps, step.IsQuiet)
    (sent : (session.live service steps).journal.sent <+: frames.flatten ++ tail) :
    (session.live service steps).Filling framing service.bufferSize frames tail := by
  induction steps using List.reverseRecOn with
  | nil => exact filling
  | append_singleton earlier last ih =>
    rw [live_snoc] at sent ⊢
    have before := ih (fun step member => quiet step (List.mem_append_left _ member))
      ((sent_step collects.reliable _ last).trans sent)
    exact before.step collects positive fits overflows (quiet last (by simp)) sent

theorem fresh (service : Service σ) (positive : 0 < service.bufferSize) (framing : Framing)
    (frames : List Bytes) (tail : Bytes) (id : Nat) :
    (service.session id).Filling framing service.bufferSize frames tail := by
  cases Framed.fresh service framing id with
  | free free sliced =>
    exact ⟨free, fun shut => by simp [Service.session] at shut, rfl, sliced, List.nil_prefix,
      .flows rfl rfl rfl positive (fun _ _ => List.not_mem_nil) fun _ => List.not_mem_nil⟩
  | hung held _ => simp [Service.session] at held

theorem complete (filling : session.Filling framing limit frames tail)
    (overflows : framing.Overflows limit frames tail)
    (sent : session.journal.sent <+: frames.flatten ++ tail)
    (full : session.channel.pending.length = limit) :
    framing.handed session.journal = frames := by
  have front : session.journal.received <+: frames.flatten ++ tail :=
    List.IsPrefix.trans ⟨_, filling.sliced.whole⟩ sent
  obtain ⟨row, part, cut, _, _, last⟩ := overflows.cut_front front filling.received_le
  rw [filling.sliced.cut] at cut
  obtain ⟨rfl, rfl, _⟩ := Framing.Cut.mk.inj cut
  exact (last full).1

/-- The full buffer is reported as soon as it is full and no byte earlier. -/
theorem outcome (filling : session.Filling framing limit frames tail)
    (overflows : framing.Overflows limit frames tail)
    (sent : session.journal.sent <+: frames.flatten ++ tail) :
    session.journal.received.length < frames.flatten.length + limit ∧
        (∀ error pending, .failed error pending ∉ session.journal) ∧
        (session.channel.closeFired = true → session.Exhausted) ∨
      session.journal.received.length = frames.flatten.length + limit ∧
        framing.handed session.journal = frames ∧
        ∃ earlier later, session.journal.ReportsFull limit (tail.take limit)
          session.channel.closeFired earlier later := by
  have within := filling.received_within
  cases filling.stage with
  | flows _ _ unfired room calm =>
    refine .inl ⟨by omega, fun error given member => ?_, fun fired => ?_⟩
    · exact calm error given (Journal.mem_outline.mpr ⟨member, rfl⟩)
    · simp [unfired] at fired
  | ended exhausted _ room calm =>
    refine .inl ⟨by omega, fun error given member => ?_, fun _ => exhausted⟩
    exact calm error given (Journal.mem_outline.mpr ⟨member, rfl⟩)
  | full _ given sized reported =>
    rw [← given] at sized
    have all := filling.complete overflows sent sized
    refine .inr ⟨?_, all, reported⟩
    rw [filling.whole, all, List.length_append, sized]

end Filling

/-! ### The close comes -/

/-- A bound on the visits that a channel needs until it is closed over a full buffer, if so many
bytes fill it: one opens it, each read takes a byte or more, and the last one closes it. -/
def owing (due : Nat) (session : Session σ) : Nat :=
  if session.channel.closeFired then 0
  else due - session.journal.received.length + if session.channel.opened then 1 else 2

theorem owing_le (due : Nat) (session : Session σ) :
    session.owing due ≤ due - session.journal.received.length + 2 := by
  unfold owing
  split
  · exact Nat.zero_le _
  · split <;> omega

theorem owing_pos (due : Nat) (unfired : session.channel.closeFired = false) :
    0 < session.owing due := by
  simp only [owing, unfired, Bool.false_eq_true, if_false]
  split <;> omega

theorem owing_same (due : Nat)
    (received : after.journal.received = session.journal.received)
    (opened : after.channel.opened = session.channel.opened)
    (fired : after.channel.closeFired = session.channel.closeFired) :
    after.owing due = session.owing due := by
  rw [owing, owing, received, opened, fired]

namespace Filling

theorem works_owing (filling : session.Filling framing limit frames tail)
    (next : after.Filling framing limit frames tail)
    (sized : limit = service.bufferSize) (fits : service.bufferSize ≤ Word.maxCapacity)
    (enough : frames.flatten.length + limit ≤ session.journal.sent.length)
    (unfired : session.channel.closeFired = false)
    (outline : after.journal.outline = session.journal.outline ++ events)
    (works : session.Works service events after.channel.locked after.channel.inner) :
    after.owing (frames.flatten.length + limit) <
      session.owing (frames.flatten.length + limit) := by
  have received := congrArg List.length (Journal.received_of_outline outline)
  have most := next.received_le
  rw [List.length_append] at received
  generalize held : after.channel.locked = locked at works
  generalize same : after.channel.inner = inner at works
  have opens := congrArg Channel.Inner.opened same
  have fires := congrArg Channel.Inner.closeFired same
  cases works with
  | opens unopened =>
    have opened : after.channel.opened = true := opens
    have still : after.channel.closeFired = false := fires.trans unfired
    have none : (Journal.received [.opened]).length = 0 := rfl
    simp only [owing, opened, unopened, unfired, still, Bool.false_eq_true, if_false, if_true]
    omega
  | closes _ _ =>
    have closed : after.channel.closeFired = true := fires
    rw [owing, if_pos closed]
    exact owing_pos _ unfired
  | waits _ found =>
    -- With room and without an end, nothing to read means that the stream has not come this far.
    obtain ⟨_, unasked, nothing⟩ := Channel.probe_empty found
    have whole := congrArg List.length filling.sliced.whole
    rw [List.length_append] at whole
    cases filling.stage with
    | flows _ _ _ room _ _ =>
      have within := filling.received_within
      rcases nothing with full | ⟨none, _⟩
      · rw [Service.room] at full
        omega
      · rw [none, List.length_nil] at whole
        omega
    | ended _ done => simp [unfired] at done
    | full requested => simp [unasked] at requested
  | overflows opened found => exact absurd fits (Service.not_fits_of_probe found)
  | @reads fresh _ rest result _ _ _ opened found _ _ _ =>
    obtain ⟨_, _, some, _⟩ := Channel.probe_fresh found
    have stays : after.channel.opened = true := opens.trans opened
    have still : after.channel.closeFired = false := fires.trans unfired
    have taken := List.length_pos_iff.mpr some
    have silent := ((Call.ofResult rest result).told_silent service.bufferSize).2
    rw [Journal.received_append, silent, List.append_nil] at received
    have came : (Journal.received [.read fresh,
        .chained (session.channel.pending ++ fresh) rest (Service.fault? result)]).length =
        fresh.length := by simp [Journal.received]
    simp only [owing, opened, stays, unfired, still, Bool.false_eq_true, if_false, if_true]
    omega
  | hangs => simp [next.free] at held

/-- Visits bring the close nearer, and nothing else puts it off. -/
theorem step_owing (collects : service.Collecting framing)
    (fits : service.bufferSize ≤ Word.maxCapacity)
    (filling : session.Filling framing service.bufferSize frames tail) {step : Session.Step}
    (quiet : step.IsQuiet)
    (next : (session.step service step).Filling framing service.bufferSize frames tail)
    (enough : frames.flatten.length + service.bufferSize ≤ session.journal.sent.length) :
    (session.step service step).owing (frames.flatten.length + service.bufferSize) ≤
      session.owing (frames.flatten.length + service.bufferSize) - [step].count (.visit false) := by
  obtain ⟨events, outline, steps⟩ := session.step_steps collects.reliable step
  have received := Journal.received_of_outline outline
  cases steps with
  | refuses _ same =>
    rw [same]
    exact Nat.le_refl _
  | gone fired same =>
    rw [same, owing, if_pos fired]
    exact Nat.zero_le _
  | arrives _ _ inner | ends _ inner | acts _ inner =>
    rw [owing_same _ (received.trans (List.append_nil _)) (congrArg Channel.Inner.opened inner)
      (congrArg Channel.Inner.closeFired inner)]
    exact Nat.le_refl _
  | breaks => exact quiet.elim
  | busy _ held _ => simp [filling.free] at held
  | works unfired _ works =>
    obtain rfl := quiet
    have less := filling.works_owing next rfl fits enough unfired outline works
    rw [List.count_singleton_self]
    omega

theorem live_owing (collects : service.Collecting framing) (positive : 0 < service.bufferSize)
    (fits : service.bufferSize ≤ Word.maxCapacity)
    (overflows : framing.Overflows service.bufferSize frames tail)
    (filling : session.Filling framing service.bufferSize frames tail) {steps : List Session.Step}
    (quiet : ∀ step ∈ steps, step.IsQuiet)
    (sent : (session.live service steps).journal.sent <+: frames.flatten ++ tail)
    (enough : frames.flatten.length + service.bufferSize ≤ session.journal.sent.length) :
    (session.live service steps).owing (frames.flatten.length + service.bufferSize) ≤
      session.owing (frames.flatten.length + service.bufferSize) - steps.count (.visit false) := by
  induction steps using List.reverseRecOn with
  | nil => exact Nat.le_refl _
  | append_singleton earlier last ih =>
    have early : ∀ step ∈ earlier, step.IsQuiet :=
      fun step member => quiet step (List.mem_append_left _ member)
    rw [live_snoc] at sent ⊢
    have sentBefore := (sent_step collects.reliable _ last).trans sent
    have before := filling.live collects positive fits overflows early sentBefore
    have next := before.step collects positive fits overflows (quiet last (by simp)) sent
    have more := (sent_live collects.reliable session earlier).length_le
    have less := before.step_owing collects fits (quiet last (by simp)) next (by omega)
    have bound := ih early sentBefore
    rw [List.count_append]
    omega

/-- With enough of the stream sent and enough visits, the buffer fills and the channel is closed. -/
theorem closes (collects : service.Collecting framing) (positive : 0 < service.bufferSize)
    (fits : service.bufferSize ≤ Word.maxCapacity)
    (overflows : framing.Overflows service.bufferSize frames tail)
    (filling : session.Filling framing service.bufferSize frames tail) {steps : List Session.Step}
    (quiet : ∀ step ∈ steps, step.IsQuiet)
    (sent : (session.live service steps).journal.sent <+: frames.flatten ++ tail)
    (enough : frames.flatten.length + service.bufferSize ≤ session.journal.sent.length)
    (visits : frames.flatten.length + service.bufferSize - session.journal.received.length + 2 ≤
      steps.count (.visit false)) :
    (session.live service steps).channel.closeFired = true ∧
      (session.live service steps).journal.received.length =
        frames.flatten.length + service.bufferSize := by
  have bound := filling.live_owing collects positive fits overflows quiet sent enough
  have within := session.owing_le (frames.flatten.length + service.bufferSize)
  have last := filling.live collects positive fits overflows quiet sent
  have fired : (session.live service steps).channel.closeFired = true := by
    by_contra unfired
    have left := owing_pos (frames.flatten.length + service.bufferSize)
      (Bool.eq_false_iff.mpr unfired)
    omega
  refine ⟨fired, ?_⟩
  rcases last.outcome overflows sent with ⟨short, _, exhausted⟩ | ⟨full, _⟩
  · -- Closed before the buffer was full, it would have read all that was sent.
    have read := congrArg List.length last.sliced.whole
    have ahead := (sent_live collects.reliable session steps).length_le
    rw [(exhausted fired).2, List.append_nil] at read
    omega
  · exact full

end Filling

end Session

/-- A frame that the buffer cannot hold is reported once and closes the channel with exactly its
first bytes, however the stream is cut into reads and whenever the channel is visited. Only the
frames before it are delivered. The report comes with the read that fills the buffer, and not a byte
earlier; by then all the frames are delivered. And it does come, with the close after it, once so
much of the stream has been sent and the channel is visited often enough. All this is so exactly for
the buffers that memory can hold: a larger one is deaf, and its visits report that. -/
theorem Service.overflow_reported_once (service : Service σ) (framing : Framing)
    (collects : service.Collecting framing) (positive : 0 < service.bufferSize)
    (frames : List Bytes) (tail : Bytes)
    (overflows : framing.Overflows service.bufferSize frames tail) (id : Nat)
    (steps : List Session.Step) (quiet : ∀ step ∈ steps, step.IsQuiet)
    (stream : ((service.session id).live service steps).journal.sent <+: frames.flatten ++ tail) :
    let session := (service.session id).live service steps
    let due := frames.flatten.length + service.bufferSize
    let part := tail.take service.bufferSize
    (service.bufferSize ≤ Word.maxCapacity →
      session.journal.frames <+: frames ∧
      (session.journal.sent.length < due →
        ∀ error pending, .failed error pending ∉ session.journal) ∧
      ((∃ error pending, .failed error pending ∈ session.journal) ↔
        session.journal.received.length = due) ∧
      (session.journal.received.length = due → session.journal.frames = frames ∧
        ∃ earlier later, session.journal.ReportsFull service.bufferSize part
          session.channel.closeFired earlier later) ∧
      ∀ first second, steps = first ++ second →
        let before := (service.session id).live service first
        due ≤ before.journal.sent.length →
        due - before.journal.received.length + 2 ≤ second.count (.visit false) →
        session.journal.frames = frames ∧ session.channel.closeFired = true ∧
          ∃ earlier later, session.journal.ReportsFull service.bufferSize part true
            earlier later) ∧
    (Word.maxCapacity < service.bufferSize →
      session.Deaf ∧ (session.Listening → session.Balks service)) := by
  intro session due part
  refine ⟨fun bounded => ?_, fun much => service.oversized_deaf much id steps⟩
  have begun := Session.Filling.fresh service positive framing frames tail id
  have filling : session.Filling framing service.bufferSize frames tail :=
    begun.live collects positive bounded overflows quiet stream
  have written : session.journal.frames = framing.handed session.journal :=
    collects.writes.frames_handed id steps
  have reported (full : session.journal.received.length = due) : session.journal.frames = frames ∧
      ∃ earlier later, session.journal.ReportsFull service.bufferSize part
        session.channel.closeFired earlier later := by
    rcases filling.outcome overflows stream with ⟨short, _⟩ | ⟨_, all, report⟩
    · exact absurd full (Nat.ne_of_lt short)
    · exact ⟨written.trans all, report⟩
  have calm (short : session.journal.received.length < due) (error : Error) (given : Bytes) :
      .failed error given ∉ session.journal := by
    rcases filling.outcome overflows stream with ⟨_, calm, _⟩ | ⟨full, _⟩
    · exact calm error given
    · exact absurd full (Nat.ne_of_lt short)
  refine ⟨?_, fun few => calm ?_, ⟨?_, fun full => ?_⟩, reported, ?_⟩
  · rw [written]
    exact filling.front
  · have read : session.journal.received <+: session.journal.sent := ⟨_, filling.sliced.whole⟩
    exact Nat.lt_of_le_of_lt read.length_le few
  · rintro ⟨error, given, member⟩
    refine Nat.le_antisymm filling.received_le (Nat.le_of_not_lt fun short => ?_)
    exact calm short error given member
  · obtain ⟨_, earlier, later, report⟩ := reported full
    have member : .failed (.bufferFull service.bufferSize) part ∈ session.journal.outline := by
      simp [report.outline]
    exact ⟨_, _, (Journal.mem_outline.mp member).1⟩
  · rintro first second rfl before enough visits
    have early := fun step member => quiet step (List.mem_append_left second member)
    have late := fun step member => quiet step (List.mem_append_right first member)
    have here : session = before.live service second := Session.live_append ..
    have rest : (before.live service second).journal.sent <+: frames.flatten ++ tail := by
      rwa [← here]
    have ahead := Session.sent_live collects.reliable before second
    have filling := begun.live collects positive bounded overflows early (ahead.trans rest)
    obtain ⟨fired, full⟩ := filling.closes collects positive bounded overflows late rest enough visits
    rw [← here] at fired full
    obtain ⟨all, report⟩ := reported full
    rw [fired] at report
    exact ⟨all, fired, report⟩

def Service.terse : Service Unit where
  handlers := [(Framing.lengthField 0 .one (by decide)).handler, Stage.collectHandler]
  bufferSize := 4
  fresh := ()

/-- A frame of three bytes and a length of nine, read together; four more bytes are sent, and the
channel is closed with the length and three of them. -/
theorem Service.overflow_reported_once_terse :
    let framing : Framing := .lengthField 0 .one (by decide)
    let tail : Bytes := [9, 1, 2, 3, 4]
    let first : List Session.Step :=
      [.visit false, .arrive [2, 7, 7, 9], .visit false, .arrive [1, 2, 3, 4]]
    let second : List Session.Step := List.replicate 5 (.visit false)
    let session := (terse.session 0).live terse (first ++ second)
    terse.Collecting framing ∧ terse.bufferSize ≤ Word.maxCapacity ∧
      framing.Overflows terse.bufferSize [[2, 7, 7]] tail ∧
      session.journal.sent <+: [[2, 7, 7]].flatten ++ tail ∧ session.journal.frames = [[2, 7, 7]] ∧
      session.channel.closeFired = true ∧
      ∃ earlier later, session.journal.ReportsFull 4 [9, 1, 2, 3] true earlier later := by
  intro framing tail first second session
  have collects : terse.Collecting framing :=
    ⟨⟨Stage.collectHandler, [], fun _ => rfl, rfl⟩, fun call => by cases call <;> trivial,
      Allocator.empty_handsOutEmpty⟩
  have overflows : framing.Overflows terse.bufferSize [[2, 7, 7]] tail :=
    { formed := fun frame member => by
        rw [List.mem_singleton.mp member]
        exact Framing.wellFormed_iff.mpr (by decide)
      fits := by decide
      enough := by decide
      large := .inr ⟨by decide, by decide⟩ }
  have quiet : ∀ step ∈ first ++ second, step.IsQuiet := by
    simp [first, second, Session.Step.IsQuiet]
  have stream : session.journal.sent <+: [[2, 7, 7]].flatten ++ tail := by decide +kernel
  obtain ⟨_, _, _, _, closes⟩ := (terse.overflow_reported_once framing collects (by decide)
    [[2, 7, 7]] tail overflows 0 (first ++ second) quiet stream).1 (by decide)
  obtain ⟨all, fired, report⟩ := closes first second rfl (by decide +kernel) (by decide +kernel)
  exact ⟨collects, by decide, overflows, stream, all, fired, report⟩

/-- With a buffer of half the address space, one byte of a frame that is longer still is not read, and
a panic is reported although the buffer is nowhere near full. -/
theorem Service.overflow_misreported :
    let framing : Framing := .fixed (Word.bound / 2 + 1) (Nat.succ_pos _)
    let vast : Service Unit :=
      { handlers := [framing.handler, Stage.collectHandler], bufferSize := Word.bound / 2,
        fresh := () }
    let tail : Bytes := List.replicate vast.bufferSize 0
    let steps : List Session.Step := [.visit false, .arrive [0], .visit false]
    let session := (vast.session 0).live vast steps
    vast.Collecting framing ∧ 0 < vast.bufferSize ∧ framing.Overflows vast.bufferSize [] tail ∧
      (∀ step ∈ steps, step.IsQuiet) ∧ session.journal.sent <+: [].flatten ++ tail ∧
      session.journal.sent.length < vast.bufferSize ∧
      session.journal = [.opened, .arrived [0], .failed (.panic (.text "capacity overflow")) []] := by
  intro framing vast tail steps session
  have journal : session.journal =
      [.opened, .arrived [0], .failed (.panic (.text "capacity overflow")) []] := by rfl
  have sent : session.journal.sent = [0] := by rw [journal]; rfl
  refine ⟨⟨⟨Stage.collectHandler, [], fun _ => rfl, rfl⟩, fun call => by cases call <;> trivial,
      Allocator.empty_handsOutEmpty⟩, by decide, ?_, by simp [steps, Session.Step.IsQuiet], ?_, ?_,
    journal⟩
  · exact
      { formed := by simp
        fits := by simp
        enough := Nat.le_of_eq (List.length_replicate ..).symm
        large := .inl (Nat.lt_succ_self _) }
  · rw [sent]
    exact ⟨List.replicate (vast.bufferSize - 1) 0, (List.replicate_succ ..).symm⟩
  · rw [sent]
    decide

end StreamDispatch
