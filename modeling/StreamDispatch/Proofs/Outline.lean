import StreamDispatch.Proofs.Life

/-! A unit of work, exactly. Where application code comes back and the allocator hands out empty
buffers, a unit goes one of a few ways. What it leaves in the journal, apart from what application
code leaves there, and what it makes of the side of the channel that application code cannot reach,
are said here once, for every chain. -/
namespace StreamDispatch

variable {σ α : Type}

/-- The program comes back with a value, whatever it does on the way. -/
def Program.Returns : Program σ α → Prop
  | .done _ => True
  | .panic _ | .hang => False
  | .look next => ∀ view state, (next view state).Returns
  | .keep _ next | .note _ next => next.Returns
  | .act _ next => ∀ result, (next result).Returns

structure Callbacks.Return (callbacks : Callbacks σ) : Prop where
  onOpen : callbacks.onOpen.Returns
  onLoop : ∀ fresh pending, (callbacks.onLoop fresh pending).Returns
  onException : ∀ error pending, (callbacks.onException error pending).Returns
  onClose : ∀ leftover, (callbacks.onClose leftover).Returns

/-- Nothing around the chain goes wrong: the callbacks come back, and the allocator hands out empty
buffers. -/
structure Service.Reliable (service : Service σ) : Prop where
  returns : service.callbacks.Return
  empty : service.allocator.HandsOutEmpty

theorem Program.Returns.run {program : Program σ α} (returns : program.Returns)
    (session : Session σ) : ∃ value after, program.run session = (.done value, after) := by
  induction program generalizing session with
  | done value => exact ⟨value, session, rfl⟩
  | panic | hang => exact returns.elim
  | look next ih => exact ih _ _ (returns session.channel.view session.state) session
  | keep state next ih => exact ih returns { session with state }
  | note entry next ih => exact ih returns (session.record (.noted entry))
  | act action next ih => exact ih _ (returns (session.perform action).1) (session.perform action).2

theorem Callbacks.Return.called {callbacks : Callbacks σ} (returns : callbacks.Return)
    (call : Call) : (call.program callbacks).Returns := by
  cases call with
  | opening => exact returns.onOpen
  | idle pending => exact returns.onLoop false pending
  | fed left => exact returns.onLoop true left
  | closing leftover => exact returns.onClose leftover
  | report error pending => exact returns.onException error pending

/-! ### Outlines -/

namespace Journal

variable {journal events : Journal}

/-- The journal without what application code left in it. -/
def outline (journal : Journal) : Journal := journal.filter fun event => !event.isOwn

@[simp] theorem outline_append (journal events : Journal) :
    outline (journal ++ events) = journal.outline ++ outline events :=
  List.filter_append ..

theorem outline_own (own : ∀ event ∈ events, event.isOwn = true) : events.outline = [] := by
  simpa [outline] using own

theorem mem_outline {event : Event} :
    event ∈ journal.outline ↔ event ∈ journal ∧ event.isOwn = false := by
  simp [outline]

/-- A view that passes over what application code leaves sees as much in the outline. -/
theorem flatMap_outline (view : Event → List α)
    (silent : ∀ event, event.isOwn = true → view event = []) (journal : Journal) :
    journal.outline.flatMap view = journal.flatMap view := by
  induction journal with
  | nil => rfl
  | cons event rest ih =>
    cases own : event.isOwn with
    | true =>
      have same : outline (event :: rest) = outline rest := by simp [outline, own]
      rw [same, List.flatMap_cons, silent event own, ih]
      rfl
    | false =>
      have same : outline (event :: rest) = event :: outline rest := by simp [outline, own]
      rw [same, List.flatMap_cons, List.flatMap_cons, ih]

theorem received_outline (journal : Journal) : journal.outline.received = journal.received :=
  flatMap_outline _ (fun event own => by cases event <;> first | rfl | simp [Event.isOwn] at own) _

theorem sent_outline (journal : Journal) : journal.outline.sent = journal.sent :=
  flatMap_outline _ (fun event own => by cases event <;> first | rfl | simp [Event.isOwn] at own) _

variable {before after : Journal}

theorem received_of_outline (grown : after.outline = before.outline ++ events) :
    after.received = before.received ++ events.received := by
  rw [← received_outline, grown, received_append, received_outline]

theorem sent_of_outline (grown : after.outline = before.outline ++ events) :
    after.sent = before.sent ++ events.sent := by
  rw [← sent_outline, grown, sent_append, sent_outline]

end Journal

/-! ### The inner side -/

/-- The side of a channel that application code cannot reach. -/
structure Channel.Inner where
  unread : Bytes
  ended : Bool
  broken : Bool
  reading : Bool
  pending : Bytes
  opened : Bool
  closeRequested : Bool
  closeFired : Bool

namespace Channel

def inner (channel : Channel) : Inner where
  unread := channel.connection.unread
  ended := channel.connection.ended
  broken := channel.connection.broken
  reading := channel.reading
  pending := channel.pending
  opened := channel.opened
  closeRequested := channel.closeRequested
  closeFired := channel.closeFired

theorem SameInward.inner {before after : Channel} (same : before.SameInward after) :
    after.inner = before.inner := by
  obtain ⟨_, _, _, _, rfl⟩ := same
  rfl

theorem keep_inner (channel : Channel) (bufferSize : Nat) (left : Bytes) :
    (channel.keep bufferSize left).inner =
      { channel.inner with
        pending := left
        closeRequested := channel.inner.closeRequested || decide (bufferSize ≤ left.length) } :=
  rfl

/-- What new bytes say about the channel they were read from. -/
theorem probe_fresh {channel : Channel} {room : Nat} {fresh : Bytes}
    (found : (channel.probe room).1 = .ok (.data fresh)) :
    channel.closed = false ∧ channel.closeRequested = false ∧ fresh ≠ [] ∧
      fresh.length ≤ room := by
  have probed : channel.probe room = (.ok (.data fresh), _) := Prod.ext found rfl
  obtain ⟨live, unasked, some, rfl, _⟩ := probe_data probed
  exact ⟨live, unasked, some, List.length_take_le ..⟩

end Channel

/-! ### The ways of a unit -/

/-- The callbacks that a call comes to if none of them panics. -/
def Call.told (bufferSize : Nat) : Call → Journal
  | fed left =>
    if bufferSize ≤ left.length then [.looped true left, .failed (.bufferFull bufferSize) left]
    else [.looped true left]
  | call => [call.event]

theorem Call.told_silent (call : Call) (bufferSize : Nat) :
    (call.told bufferSize).sent = [] ∧ (call.told bufferSize).received = [] := by
  cases call with
  | fed left =>
    simp only [told]
    split <;> exact ⟨rfl, rfl⟩
  | opening | idle _ | closing _ | report _ _ => exact ⟨rfl, rfl⟩

/-- The ways a unit of work can go: the outline of what it leaves in the journal, whether it keeps
the lock, and the inner side of the channel after it. -/
inductive Session.Works (service : Service σ) (before : Session σ) :
    Journal → Bool → Channel.Inner → Prop where
  | opens (unopened : before.channel.opened = false) :
      Works service before [.opened] false { before.channel.inner with opened := true }
  | closes (opened : before.channel.opened = true)
      (found : (before.channel.probe (service.room before.channel)).1 = .ok .closed) :
      Works service before [.closed before.channel.pending] false
        { before.channel.inner with reading := false, closeFired := true }
  | waits (opened : before.channel.opened = true)
      (found : (before.channel.probe (service.room before.channel)).1 = .ok .empty) :
      Works service before [.looped false before.channel.pending] false before.channel.inner
  | overflows {payload : Panic} (opened : before.channel.opened = true)
      (found : (before.channel.probe (service.room before.channel)).1 = .error payload) :
      Works service before [.failed (.panic payload) before.channel.pending] false
        before.channel.inner
  /-- Only a panic of the chain and a rest that fills the buffer ask for a close. -/
  | reads {fresh unread rest : Bytes} {result : Except Error Unit} {asked : Bool}
      {middle chained : Session σ} (opened : before.channel.opened = true)
      (found : (before.channel.probe (service.room before.channel)).1 = .ok (.data fresh))
      (taken : fresh ++ unread = before.channel.connection.unread)
      (ran : service.chain (before.channel.pending ++ fresh) middle =
        (.done (result, rest), chained))
      (cause : asked = true → ∃ payload, result = .error (.panic payload)) :
      Works service before
        ([.read fresh, .chained (before.channel.pending ++ fresh) rest (Service.fault? result)] ++
          (Call.ofResult rest result).told service.bufferSize) false
        { before.channel.inner with
          unread, pending := rest
          closeRequested := asked || decide (service.bufferSize ≤ rest.length) }
  | hangs {fresh unread : Bytes} {middle chained : Session σ}
      (opened : before.channel.opened = true)
      (found : (before.channel.probe (service.room before.channel)).1 = .ok (.data fresh))
      (taken : fresh ++ unread = before.channel.connection.unread)
      (ran : service.chain (before.channel.pending ++ fresh) middle = (.hung, chained)) :
      Works service before [.read fresh] true
        { before.channel.inner with unread, pending := before.channel.pending ++ fresh }

namespace Session

variable {service : Service σ} {before session after : Session σ}

/-- A unit has new bytes in hand, and so much is pending. -/
structure Reading (service : Service σ) (before : Session σ) (fresh pending : Bytes)
    (session : Session σ) : Prop where
  opened : before.channel.opened = true
  found : (before.channel.probe (service.room before.channel)).1 = .ok (.data fresh)
  outline : session.journal.outline = before.journal.outline ++ [.read fresh]
  inner : ∃ unread, fresh ++ unread = before.channel.connection.unread ∧
    session.channel.inner = { before.channel.inner with unread, pending }

theorem Reading.unasked {fresh pending : Bytes}
    (reading : Reading service before fresh pending session) :
    before.channel.closeRequested = false :=
  (Channel.probe_fresh reading.found).2.1

/-- How far a unit that began on one session has come on its way. -/
def Underway (service : Service σ) (before : Session σ) : Point → Session σ → Prop
  | .begun, session => session = before
  | .read pending fresh, session =>
    pending = before.channel.pending ∧ Reading service before fresh pending session
  | .offered buffer, session =>
    ∃ fresh, buffer = before.channel.pending ++ fresh ∧ Reading service before fresh buffer session
  | .chained result rest _, session =>
    ∃ fresh unread asked middle chained, Reading service before fresh
        (before.channel.pending ++ fresh) middle ∧
      fresh ++ unread = before.channel.connection.unread ∧
      service.chain (before.channel.pending ++ fresh) middle = (.done (result, rest), chained) ∧
      (asked = true → ∃ payload, result = .error (.panic payload)) ∧
      session.journal.outline = before.journal.outline ++ [.read fresh,
        .chained (before.channel.pending ++ fresh) rest (Service.fault? result)] ∧
      session.channel.inner = { before.channel.inner with
        unread, pending := before.channel.pending ++ fresh, closeRequested := asked }
  | .calling call, session =>
    ∃ events, session.journal.outline = before.journal.outline ++ events ∧
      (∀ left, call = .fed left → left = session.channel.pending) ∧
      before.Works service (events ++ call.told service.bufferSize) false
        (call.mark session.channel).inner
  | .over, session =>
    ∃ events, session.journal.outline = before.journal.outline ++ events ∧
      before.Works service events false session.channel.inner
  | .stuck, session =>
    ∃ events, session.journal.outline = before.journal.outline ++ events ∧
      before.Works service events true session.channel.inner

theorem placed_inner {bytes : Bytes} {placement : Placement}
    (placed : service.place placement session = (.done bytes, after)) :
    after.journal.outline = session.journal.outline ∧
      after.channel.inner = session.channel.inner := by
  obtain ⟨channel, grown⟩ := Service.place_after placed
  rw [grown, Journal.outline_append, Journal.outline_own placement.events_own, List.append_nil,
    channel]
  exact ⟨rfl, rfl⟩

theorem Handled.outline (work : session.Handled after) :
    after.journal.outline = session.journal.outline := by
  obtain ⟨events, grown, own⟩ := work.grows
  rw [grown, Journal.outline_append, Journal.outline_own own, List.append_nil]

/-- A call that comes back tells of itself, and a loop with a full buffer of that as well. -/
theorem underway_called (reliable : service.Reliable) {call : Call} {result : Except Panic Unit}
    (ran : Run.attempt (call.program service.callbacks).run (session.record call.event) =
      (.done result, after)) (underway : Underway service before (.calling call) session) :
    Underway service before (call.next service.bufferSize after.channel.pending result)
      (after.updateChannel call.mark) := by
  obtain ⟨value, last, returned⟩ :=
    (reliable.returns.called call).run (session.record call.event)
  obtain ⟨same, rfl⟩ := Prod.mk.inj ((Run.attempt_ok returned).symm.trans ran)
  obtain rfl := Outcome.done.inj same
  obtain ⟨events, outline, given, works⟩ := underway
  have work : (session.record call.event).Handled last := Run.attempt_handled ran
  have told : last.journal.outline = before.journal.outline ++ (events ++ [call.event]) := by
    rw [Handled.outline work, record, Journal.outline_append, outline, List.append_assoc]
    cases call <;> rfl
  have inner : last.channel.inner = session.channel.inner := work.sameInward.inner
  have marked : (call.mark last.channel).inner = (call.mark session.channel).inner := by
    cases call <;> simp only [Call.mark]
    · exact congrArg (fun inner : Channel.Inner => { inner with opened := true }) inner
    · exact inner
    · exact inner
    · exact congrArg (fun inner : Channel.Inner => { inner with closeFired := true }) inner
    · exact inner
  rw [← marked] at works
  cases call with
  | opening | idle _ | closing _ | report _ _ => exact ⟨_, told, works⟩
  | fed left =>
    have pending : last.channel.pending = left :=
      (congrArg Channel.Inner.pending inner).trans (given left rfl).symm
    by_cases full : service.bufferSize ≤ left.length
    · rw [Call.told, if_pos full] at works
      rw [Call.next, if_pos full]
      refine ⟨_, told, by simp, ?_⟩
      rw [List.append_assoc]
      rwa [pending]
    · rw [Call.told, if_neg full] at works
      rw [Call.next, if_neg full]
      exact ⟨_, told, works⟩

/-- A run of the chain that is over leaves word of what it was given and what it left, and only a
panic asks for a close. -/
theorem underway_ran {buffer rest : Bytes} {result : Except Error Unit}
    (ran : service.chain buffer session = (.done (result, rest), after))
    (underway : Underway service before (.offered buffer) session) :
    Underway service before (.chained result rest buffer.length) after := by
  obtain ⟨fresh, rfl, reading⟩ := underway
  obtain ⟨ended, middle, _, work, grown, channel⟩ := Service.chain_after ran
  have outline : after.journal.outline = before.journal.outline ++ [.read fresh,
      .chained (before.channel.pending ++ fresh) rest (Service.fault? result)] := by
    rw [grown, Journal.outline_append, Handled.outline work, reading.outline]
    simp [Journal.outline, Event.isOwn]
  obtain ⟨unread, taken, same⟩ := reading.inner
  have inner : middle.channel.inner = _ := work.sameInward.inner.trans same
  rcases channel with ⟨_, unchanged⟩ | ⟨payload, _, panicked, asked⟩
  · refine ⟨fresh, unread, false, session, after, reading, taken, ran, by simp, outline, ?_⟩
    rw [unchanged, inner, ← reading.unasked]
    rfl
  · refine ⟨fresh, unread, true, session, after, reading, taken, ran,
      fun _ => ⟨payload, panicked⟩, outline, ?_⟩
    rw [asked]
    exact congrArg (fun inner : Channel.Inner => { inner with closeRequested := true }) inner

theorem underway_kept (reliable : service.Reliable) {rest left : Bytes} {offered : Nat}
    {result : Except Error Unit}
    (ran : service.place (.compact rest offered) session = (.done left, after))
    (underway : Underway service before (.chained result rest offered) session) :
    Underway service before (.calling (.ofResult left result))
      (after.updateChannel (·.keep service.bufferSize left)) := by
  obtain ⟨fresh, unread, asked, middle, chained, reading, taken, chain, cause, outline, inner⟩ :=
    underway
  obtain rfl := Service.placed_of_handsOutEmpty reliable.empty ran
  obtain ⟨kept, same⟩ := placed_inner ran
  rw [Placement.bytes_compact]
  refine ⟨_, kept.trans outline, ?_, ?_⟩
  · intro left fed
    cases result with
    | ok _ => exact (Call.fed.inj fed).symm
    | error error => simp [Call.ofResult] at fed
  · have unmarked (channel : Channel) : (Call.ofResult rest result).mark channel = channel := by
      cases result <;> rfl
    have still : ((Call.ofResult rest result).mark
        (after.updateChannel (·.keep service.bufferSize rest)).channel).inner =
        { before.channel.inner with
          unread, pending := rest
          closeRequested := asked || decide (service.bufferSize ≤ rest.length) } := by
      rw [unmarked, updateChannel, Channel.keep_inner, same, inner]
    rw [still]
    exact .reads reading.opened reading.found taken chain cause

theorem underway_move (reliable : service.Reliable) {point next : Point}
    (move : Move service point session next after)
    (underway : Underway service before point session) :
    Underway service before next after := by
  cases move with
  | opens unopened =>
    obtain rfl := underway
    exact ⟨[], by simp, by simp, .opens unopened⟩
  | closes opened found =>
    obtain rfl := underway
    have released : ((Call.closing session.channel.pending).mark session.channel.release).inner =
        { session.channel.inner with reading := false, closeFired := true } := by
      rw [Channel.release_eq]
      rfl
    refine ⟨[], by simp [updateChannel], by simp, ?_⟩
    rw [updateChannel, released]
    exact .closes opened found
  | idles opened found =>
    obtain rfl := underway
    exact ⟨[], by simp, by simp, .waits opened found⟩
  | overflows opened found =>
    obtain rfl := underway
    exact ⟨[], by simp, by simp, .overflows opened found⟩
  | reads opened found =>
    obtain rfl := underway
    obtain ⟨_, _, _, rfl, rfl⟩ := Channel.probe_data found
    refine ⟨rfl, opened, by rw [found], ?_, _, List.take_append_drop .., rfl⟩
    simp [record, Journal.outline, Event.isOwn]
  | @joins _ fresh _ after buffer ran =>
    obtain ⟨rfl, reading⟩ := underway
    obtain rfl := Service.placed_of_handsOutEmpty reliable.empty ran
    obtain ⟨outline, inner⟩ := placed_inner ran
    obtain ⟨unread, taken, same⟩ := reading.inner
    rw [Placement.bytes_extend]
    have moved := congrArg (fun inner : Channel.Inner =>
      { inner with pending := before.channel.pending ++ fresh }) (inner.trans same)
    exact ⟨fresh, rfl, reading.opened, reading.found, outline.trans reading.outline, unread, taken,
      moved⟩
  | joinFails ran => exact absurd ran (Service.not_panicked_of_handsOutEmpty reliable.empty)
  | runs ran => exact underway_ran ran underway
  | runHangs ran =>
    obtain ⟨fresh, rfl, reading⟩ := underway
    have work := Service.chain_hung ran
    obtain ⟨unread, taken, same⟩ := reading.inner
    refine ⟨[.read fresh], (Handled.outline work).trans reading.outline, ?_⟩
    rw [work.sameInward.inner, same]
    exact .hangs reading.opened reading.found taken ran
  | keeps ran => exact underway_kept reliable ran underway
  | keepFails ran => exact absurd ran (Service.not_panicked_of_handsOutEmpty reliable.empty)
  | calls call ran => exact underway_called reliable ran underway
  | callHangs call ran =>
    obtain ⟨value, last, returned⟩ :=
      (reliable.returns.called call).run (session.record call.event)
    rw [Run.attempt_ok returned] at ran
    simp at ran

/-- The lock is no part of the ways that a unit can go. -/
theorem Works.unlocked {events : Journal} {locked : Bool} {inner : Channel.Inner}
    (works : session.lock.Works service events locked inner) :
    session.Works service events locked inner := by
  have probed := session.channel.probe_locked (service.room session.channel)
  cases works with
  | opens unopened => exact .opens unopened
  | closes opened found => exact .closes opened (probed.symm.trans found)
  | waits opened found => exact .waits opened (probed.symm.trans found)
  | overflows opened found => exact .overflows opened (probed.symm.trans found)
  | reads opened found taken ran cause =>
    exact .reads opened (probed.symm.trans found) taken ran cause
  | hangs opened found taken ran => exact .hangs opened (probed.symm.trans found) taken ran

theorem work_works (reliable : service.Reliable) (session : Session σ) :
    ∃ events, (session.work service).journal.outline = session.journal.outline ++ events ∧
      session.Works service events (session.work service).channel.locked
        (session.work service).channel.inner := by
  obtain ⟨final, ⟨course, same⟩ | ⟨course, same⟩⟩ := session.work_course service
  · obtain ⟨events, outline, works⟩ :=
      course.keeps (Underway service session.lock) (fun first => underway_move reliable first) rfl
    rw [same]
    exact ⟨events, outline, works.unlocked⟩
  · obtain ⟨events, outline, works⟩ :=
      course.keeps (Underway service session.lock) (fun first => underway_move reliable first) rfl
    have locked : final.channel.locked = true := course.steady.locked
    rw [same, locked]
    exact ⟨events, outline, works.unlocked⟩

/-! ### The ways of a step -/

def takenUp (closing : Bool) (session : Session σ) : Session σ :=
  if closing then session.request else session

/-- A visit lets a session alone that is done, and polls it otherwise. -/
theorem step_visit (service : Service σ) (session : Session σ) (closing : Bool) :
    session.step service (.visit closing) =
      if session.channel.closeFired then session else (session.takenUp closing).poll service := by
  cases fired : session.channel.closeFired <;> cases closing <;>
    simp [step, visit, fired, takenUp, request]

/-- The ways a step can go, with the outline of what it leaves in the journal. -/
inductive Steps (service : Service σ) (before after : Session σ) : Step → Journal → Prop where
  | arrives {bytes : Bytes} (more : before.channel.connection.ended = false)
      (locked : after.channel.locked = before.channel.locked)
      (inner : after.channel.inner =
        { before.channel.inner with unread := before.channel.connection.unread ++ bytes }) :
      Steps service before after (.arrive bytes) [.arrived bytes]
  | refuses {bytes : Bytes} (ended : before.channel.connection.ended = true)
      (same : after = before) : Steps service before after (.arrive bytes) []
  | ends (locked : after.channel.locked = before.channel.locked)
      (inner : after.channel.inner = { before.channel.inner with ended := true }) :
      Steps service before after .peerEnds [.ended]
  | breaks (locked : after.channel.locked = before.channel.locked)
      (inner : after.channel.inner = { before.channel.inner with broken := true }) :
      Steps service before after .breaks []
  | acts {action : Action} (locked : after.channel.locked = before.channel.locked)
      (inner : after.channel.inner = before.channel.inner) :
      Steps service before after (.act action) []
  | gone {closing : Bool} (fired : before.channel.closeFired = true) (same : after = before) :
      Steps service before after (.visit closing) []
  | busy {closing : Bool} (unfired : before.channel.closeFired = false)
      (held : before.channel.locked = true) (same : after = before.takenUp closing) :
      Steps service before after (.visit closing) []
  | works {closing : Bool} {events : Journal} (unfired : before.channel.closeFired = false)
      (free : before.channel.locked = false)
      (works : (before.takenUp closing).Works service events after.channel.locked
        after.channel.inner) :
      Steps service before after (.visit closing) events

theorem step_steps (reliable : service.Reliable) (session : Session σ) (step : Step) :
    ∃ events, (session.step service step).journal.outline = session.journal.outline ++ events ∧
      session.Steps service (session.step service step) step events := by
  cases step with
  | arrive bytes =>
    cases ended : session.channel.connection.ended with
    | false =>
      refine ⟨[.arrived bytes], ?_, ?_⟩
      · simp [step, arrive, ended, record, updateChannel, Journal.outline, Event.isOwn]
      · have arrived := Channel.arrive_of_open ended bytes
        refine .arrives ended ?_ ?_ <;>
          simp [step, arrive, ended, record, updateChannel, arrived, Channel.inner]
    | true =>
      have same : session.step service (.arrive bytes) = session := by simp [step, arrive, ended]
      exact ⟨[], by simp [same], .refuses ended same⟩
  | peerEnds =>
    refine ⟨[.ended], ?_, .ends rfl rfl⟩
    simp [step, peerEnds, record, updateChannel, Journal.outline, Event.isOwn]
  | breaks => exact ⟨[], by simp [step, Session.breaks, updateChannel], .breaks rfl rfl⟩
  | act action =>
    have work := session.perform_handled action
    have inward := work.sameInward
    refine ⟨[], ?_, .acts inward.steady.locked inward.inner⟩
    rw [List.append_nil]
    exact Handled.outline work
  | visit closing =>
    cases fired : session.channel.closeFired with
    | true =>
      have same : session.step service (.visit closing) = session := by simp [step_visit, fired]
      exact ⟨[], by simp [same], .gone fired same⟩
    | false =>
      have marked : (session.takenUp closing).channel.closeFired = false ∧
          (session.takenUp closing).channel.locked = session.channel.locked ∧
          (session.takenUp closing).journal = session.journal := by
        cases closing <;> exact ⟨fired, rfl, rfl⟩
      cases locked : session.channel.locked with
      | true =>
        have same : session.step service (.visit closing) = session.takenUp closing := by
          simp [step_visit, fired, poll, marked, locked]
        exact ⟨[], by simp [same, marked], .busy fired locked same⟩
      | false =>
        have same : session.step service (.visit closing) =
            (session.takenUp closing).work service := by
          simp [step_visit, fired, poll, marked, locked]
        obtain ⟨events, outline, works⟩ := work_works reliable (session.takenUp closing)
        rw [same]
        exact ⟨events, marked.2.2 ▸ outline, .works fired locked works⟩

theorem sent_step (reliable : service.Reliable) (session : Session σ) (step : Step) :
    session.journal.sent <+: (session.step service step).journal.sent := by
  obtain ⟨events, outline, _⟩ := session.step_steps reliable step
  rw [Journal.sent_of_outline outline]
  exact List.prefix_append ..

theorem sent_live (reliable : service.Reliable) (session : Session σ) (steps : List Step) :
    session.journal.sent <+: (session.live service steps).journal.sent := by
  refine live_keeps (fun later => session.journal.sent <+: later.journal.sent) ?_ List.prefix_rfl
    steps
  intro middle step ahead
  exact ahead.trans (sent_step reliable middle step)

end Session

end StreamDispatch
