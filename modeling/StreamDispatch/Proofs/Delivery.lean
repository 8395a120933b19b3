import StreamDispatch.Proofs.Consumption
import StreamDispatch.Proofs.Oversize

/-! Delivery of frames. A channel whose chain cuts frames and records them delivers the frames of
the stream, however the stream was fragmented, however small its buffer is and whenever it is
visited, as long as every frame fits the buffer. -/
namespace StreamDispatch

variable {σ α : Type}

/-- A handler that writes frames down and ends the chain there. -/
def Handler.Records (handler : Handler σ) : Prop :=
  ∀ frames, handler.onItem (.frames frames) = .note (.frames frames) (.done (.ok none))

/-- The program comes back; it does not close the channel and leaves recording to the chain. -/
def Program.Calm : Program σ α → Prop
  | .done _ => True
  | .panic _ | .hang => False
  | .look next => ∀ view state, (next view state).Calm
  | .keep _ next => next.Calm
  | .note entry next => (∀ frames, entry ≠ .frames frames) ∧ next.Calm
  | .act action next => action ≠ .close ∧ action ≠ .closeNow ∧ ∀ result, (next result).Calm

structure Callbacks.Calm (callbacks : Callbacks σ) : Prop where
  onOpen : callbacks.onOpen.Calm
  onLoop : ∀ fresh pending, (callbacks.onLoop fresh pending).Calm
  onClose : ∀ leftover, (callbacks.onClose leftover).Calm

/-- A service that cuts frames and records them. -/
structure Service.Recording (service : Service σ) (framing : Framing) : Prop where
  chain : ∃ recorder : Handler σ, recorder.Records ∧ service.handlers = [framing.handler, recorder]
  calm : service.callbacks.Calm
  empty : service.allocator.HandsOutEmpty
  least : framing.minLength ≤ service.bufferSize

/-- The step neither closes the channel nor breaks the connection. -/
def Session.Step.IsQuiet : Session.Step → Prop
  | .arrive _ | .peerEnds => True
  | .breaks => False
  | .act action => action ≠ .close ∧ action ≠ .closeNow
  | .visit closing => closing = false

theorem Session.Step.IsQuiet.ne_breaks {step : Step} (quiet : step.IsQuiet) : step ≠ .breaks := by
  rintro rfl
  exact quiet

/-! ### What recording does -/

theorem Action.apply_closed {action : Action} {channel after : Channel}
    (applied : action.apply channel = .ok after) (quiet : action ≠ .close ∧ action ≠ .closeNow) :
    after.closed = channel.closed := by
  cases action with
  | send data =>
    obtain ⟨_, _, _, rfl⟩ := Channel.send_ok applied
    rfl
  | flush =>
    obtain ⟨_, _, _, rfl⟩ := Channel.flush_ok applied
    rfl
  | sendAndFlush data =>
    obtain ⟨_, _, _, rfl⟩ := Channel.sendAndFlush_ok applied
    rfl
  | close => exact absurd rfl quiet.1
  | closeNow => exact absurd rfl quiet.2

/-- An action that does not close leaves the channel as open as it was and writes no frames down. -/
theorem Session.perform_quiet (session : Session σ) {action : Action}
    (quiet : action ≠ .close ∧ action ≠ .closeNow) :
    (session.perform action).2.channel.closed = session.channel.closed ∧
      (session.perform action).2.journal.frames = session.journal.frames := by
  unfold perform
  cases applied : action.apply session.channel with
  | error fault => exact ⟨rfl, rfl⟩
  | ok after =>
    have closed := Action.apply_closed applied quiet
    cases action <;> simp [record, closed, Journal.frames]

/-- A calm program comes back and changes nothing that delivery depends on. -/
theorem Program.Calm.run {program : Program σ α} (calm : program.Calm) (session : Session σ) :
    ∃ value after, program.run session = (.done value, after) ∧
      after.channel.closed = session.channel.closed ∧
      after.journal.frames = session.journal.frames := by
  induction program generalizing session with
  | done value => exact ⟨value, session, rfl, rfl, rfl⟩
  | panic | hang => exact calm.elim
  | look next ih => exact ih _ _ (calm session.channel.view session.state) session
  | keep state next ih => exact ih calm { session with state }
  | note entry next ih =>
    obtain ⟨value, after, ran, closed, frames⟩ := ih calm.2 (session.record (.noted entry))
    refine ⟨value, after, ran, closed, frames.trans ?_⟩
    cases entry with
    | frames list => exact absurd rfl (calm.1 list)
    | _ => simp [Session.record, Journal.frames]
  | act action next ih =>
    obtain ⟨quiet, quiet', later⟩ := calm
    have first := session.perform_quiet ⟨quiet, quiet'⟩
    obtain ⟨value, after, ran, closed, frames⟩ := ih _ (later (session.perform action).1)
      (session.perform action).2
    exact ⟨value, after, ran, closed.trans first.1, frames.trans first.2⟩

namespace Service.Recording

variable {service : Service σ} {framing : Framing}

theorem called (recording : service.Recording framing) {call : Call}
    (first : ∀ error pending, call ≠ .report error pending) :
    (call.program service.callbacks).Calm := by
  cases call with
  | opening => exact recording.calm.onOpen
  | idle pending => exact recording.calm.onLoop false pending
  | fed left => exact recording.calm.onLoop true left
  | closing leftover => exact recording.calm.onClose leftover
  | report error pending => exact absurd rfl (first error pending)

/-- What a recorder writes down: nothing if there is no frame. -/
def noted : List Bytes → Journal
  | [] => []
  | frames => [.noted (.frames frames)]

theorem frames_noted (frames : List Bytes) : (noted frames).frames = frames := by
  cases frames <;> simp [noted, Journal.frames]

theorem noted_own (frames : List Bytes) : ∀ event ∈ noted frames, event.isOwn = true := by
  cases frames <;> simp [noted, Event.isOwn]

theorem runItems_recorded {recorder : Handler σ} (records : recorder.Records)
    (others : List (Handler σ)) (frames : List Bytes) (session : Session σ) :
    Handler.runItems (recorder :: others) (.frames frames) session =
      (.done (.ok ()), session.record (.noted (.frames frames))) := by
  rw [Handler.runItems, Run.bind_apply, records]
  rfl

theorem runBuffer_recorded {recorder : Handler σ} (records : recorder.Records)
    (session : Session (σ × Bytes)) {rest : Bytes} {frames : List Bytes}
    (decoded : framing.decode session.state.2 = (.ok frames, rest)) :
    Handler.runBuffer [framing.handler, recorder] session =
      (.done (.ok ()),
        ⟨session.channel, (session.state.1, rest), session.journal ++ noted frames⟩) := by
  rw [Handler.runBuffer, Run.bind_apply, framing.handler_run, decoded]
  cases frames with
  | nil =>
    rw [noted, List.append_nil]
    rfl
  | cons frame later =>
    simp only [Framing.verdict, Run.beside, runItems_recorded records []]
    rfl

/-- A chain run over bytes that are cut cleanly records their frames and leaves the rest. -/
theorem chain_apply (recording : service.Recording framing) {buffer : Bytes}
    (stops : (framing.cut buffer).stop = .incomplete) (session : Session σ) :
    service.chain buffer session =
      (.done (.ok (), (framing.cut buffer).rest),
        { session with
          journal := session.journal ++ noted (framing.cut buffer).frames ++
            [.chained buffer (framing.cut buffer).rest none] }) := by
  obtain ⟨recorder, records, chain⟩ := recording.chain
  have ran := runBuffer_recorded records (session.withState (session.state, buffer))
    (Framing.decode_of_incomplete stops)
  have lent : Run.lend buffer (Handler.runBuffer service.handlers) session =
      (.done (.ok (.ok ()), (framing.cut buffer).rest),
        { session with journal := session.journal ++ noted (framing.cut buffer).frames }) := by
    rw [chain, Run.lend, ran]
    rfl
  rw [Service.chain, Run.bind_apply, lent]
  rfl

end Service.Recording

/-! ### What a unit keeps -/

/-- What was read of a legal stream comes to so many frames and a rest, and nothing went wrong. -/
structure Passed (framing : Framing) (limit : Nat) (frames : List Bytes) (rest : Bytes)
    (session : Session σ) : Prop where
  whole : session.journal.received ++ session.channel.connection.unread = session.journal.sent
  legal : framing.Legal limit session.journal.sent
  cut : framing.cut session.journal.received = ⟨frames, rest, .incomplete⟩
  calm : ∀ error pending, .failed error pending ∉ session.journal
  unasked : session.channel.closeRequested = false

structure Session.Open (session : Session σ) : Prop where
  closed : session.channel.closed = false
  reading : session.channel.reading = true
  fired : session.channel.closeFired = false
  unbroken : session.channel.connection.broken = false
  silent : ∀ leftover, .closed leftover ∉ session.journal

/-- The channel was closed at the end of the stream, and the close callback was given the rest. -/
structure Session.Gone (session : Session σ) : Prop where
  exhausted : session.Exhausted
  fired : session.channel.closeFired = true
  given : .closed session.channel.pending ∈ session.journal
  only : ∀ leftover, .closed leftover ∈ session.journal → leftover = session.channel.pending

namespace Passed

variable {framing : Framing} {limit : Nat} {frames : List Bytes} {rest : Bytes}
  {session after : Session σ} {events : Journal}

theorem extend (passed : Passed framing limit frames rest session)
    (grown : after.journal = session.journal ++ events)
    (unread : after.channel.connection.unread = session.channel.connection.unread)
    (unasked : after.channel.closeRequested = session.channel.closeRequested)
    (sent : events.sent = []) (received : events.received = [])
    (calm : ∀ error pending, .failed error pending ∉ events) :
    Passed framing limit frames rest after where
  whole := by simpa [grown, sent, received, unread] using passed.whole
  legal := by simpa [grown, sent] using passed.legal
  cut := by simpa [grown, received] using passed.cut
  calm := by
    intro error pending
    simpa [grown] using ⟨passed.calm error pending, calm error pending⟩
  unasked := unasked.trans passed.unasked

theorem extend_own (passed : Passed framing limit frames rest session)
    (grown : after.journal = session.journal ++ events)
    (own : ∀ event ∈ events, event.isOwn = true)
    (unread : after.channel.connection.unread = session.channel.connection.unread)
    (unasked : after.channel.closeRequested = session.channel.closeRequested) :
    Passed framing limit frames rest after := by
  refine passed.extend grown unread unasked (Journal.sent_own own) (Journal.received_own own) ?_
  intro error pending member
  simpa [Event.isOwn] using own _ member

theorem legal_received (passed : Passed framing limit frames rest session) :
    framing.Legal limit session.journal.received := by
  have legal := passed.legal
  rw [← passed.whole] at legal
  exact legal.of_append

/-- New bytes are cut where the rest of the old ones left off. -/
theorem read (passed : Passed framing limit frames rest session) {fresh unread : Bytes}
    (taken : fresh ++ unread = session.channel.connection.unread) :
    let after := Session.record { session with channel := { session.channel with
      connection := { session.channel.connection with unread } } } (.read fresh)
    Passed framing limit (frames ++ (framing.cut (rest ++ fresh)).frames)
        (framing.cut (rest ++ fresh)).rest after ∧
      (framing.cut (rest ++ fresh)).stop = .incomplete := by
  intro after
  have received : after.journal.received = session.journal.received ++ fresh := by
    simp [after, Session.record, Journal.received]
  have sent : after.journal.sent = session.journal.sent := by
    simp [after, Session.record, Journal.sent]
  have whole : after.journal.received ++ after.channel.connection.unread = after.journal.sent := by
    rw [received, sent, ← passed.whole, ← taken, List.append_assoc]
    rfl
  have legal : framing.Legal limit (session.journal.received ++ fresh) := by
    have legal := passed.legal
    rw [← sent, ← whole, received] at legal
    exact legal.of_append
  have cut := framing.cut_append session.journal.received fresh
  have stops := legal.stop_incomplete
  rw [cut, passed.cut] at stops
  rw [passed.cut] at cut
  refine ⟨⟨whole, sent ▸ passed.legal, ?_, ?_, passed.unasked⟩, stops⟩
  · rw [received, cut, ← stops]
  · intro error pending
    simpa [after, Session.record] using passed.calm error pending

/-- The rest of a legal stream leaves room in the buffer. -/
theorem short (passed : Passed framing limit frames rest session)
    (least : framing.minLength ≤ limit) : rest.length < limit := by
  have short := passed.legal_received.rest_short least
  rwa [passed.cut] at short

end Passed

namespace Session.Open

variable {session after : Session σ} {events : Journal}

theorem extend (opened : session.Open) (grown : after.journal = session.journal ++ events)
    (closed : after.channel.closed = session.channel.closed)
    (reading : after.channel.reading = session.channel.reading)
    (fired : after.channel.closeFired = session.channel.closeFired)
    (unbroken : after.channel.connection.broken = session.channel.connection.broken)
    (silent : ∀ leftover, .closed leftover ∉ events) : after.Open where
  closed := closed.trans opened.closed
  reading := reading.trans opened.reading
  fired := fired.trans opened.fired
  unbroken := unbroken.trans opened.unbroken
  silent := by
    intro leftover
    simpa [grown] using ⟨opened.silent leftover, silent leftover⟩

end Session.Open

theorem Session.Gone.extend {session after : Session σ} {events : Journal} (gone : session.Gone)
    (grown : after.journal = session.journal ++ events)
    (pending : after.channel.pending = session.channel.pending)
    (fired : after.channel.closeFired = session.channel.closeFired) (exhausted : after.Exhausted)
    (silent : ∀ leftover, .closed leftover ∉ events) : after.Gone where
  exhausted := exhausted
  fired := fired.trans gone.fired
  given := by
    rw [grown, pending]
    exact List.mem_append_left _ gone.given
  only := by
    intro leftover member
    rw [grown, List.mem_append] at member
    rw [pending]
    exact gone.only leftover (member.resolve_right (silent leftover))

theorem Journal.not_closed_own {events : Journal} (own : ∀ event ∈ events, event.isOwn = true)
    (leftover : Bytes) : .closed leftover ∉ events := by
  intro member
  simpa [Event.isOwn] using own _ member

/-- What was delivered at a point of a unit. -/
def Delivered.AtPoint (framing : Framing) (limit : Nat) : Point → Session σ → Prop
  | .begun, session | .calling .opening, session | .calling (.idle _), session =>
    Passed framing limit session.journal.frames session.channel.pending session ∧ session.Open
  | .read pending fresh, session =>
    Passed framing limit (session.journal.frames ++ (framing.cut (pending ++ fresh)).frames)
        (framing.cut (pending ++ fresh)).rest session ∧
      (framing.cut (pending ++ fresh)).stop = .incomplete ∧ session.Open
  | .offered buffer, session =>
    Passed framing limit (session.journal.frames ++ (framing.cut buffer).frames)
        (framing.cut buffer).rest session ∧
      (framing.cut buffer).stop = .incomplete ∧ session.Open
  | .chained result rest _, session =>
    result = .ok () ∧ Passed framing limit session.journal.frames rest session ∧ session.Open
  | .calling (.fed left), session =>
    Passed framing limit session.journal.frames session.channel.pending session ∧
      session.Open ∧ left.length < limit
  | .calling (.closing leftover), session =>
    Passed framing limit session.journal.frames session.channel.pending session ∧
      session.Exhausted ∧ leftover = session.channel.pending ∧
      ∀ other, .closed other ∉ session.journal
  | .over, session =>
    Passed framing limit session.journal.frames session.channel.pending session ∧
      (session.Open ∨ session.Gone)
  | .calling (.report ..), _ | .stuck, _ => False

namespace Delivered

variable {framing : Framing} {service : Service σ} {session after : Session σ}

theorem called (recording : service.Recording framing) {call : Call}
    (first : ∀ error pending, call ≠ .report error pending) {outcome : Outcome (Except Panic Unit)}
    (ran : Run.attempt (call.program service.callbacks).run (session.record call.event) =
      (outcome, after))
    (passed : Passed framing service.bufferSize session.journal.frames session.channel.pending
      session) :
    outcome = .done (.ok ()) ∧
      Passed framing service.bufferSize after.journal.frames after.channel.pending after ∧
      after.channel.closed = session.channel.closed ∧
      ∃ own, after.journal = session.journal ++ ([call.event] ++ own) ∧
        ∀ event ∈ own, event.isOwn = true := by
  obtain ⟨value, later, came, closed, recorded⟩ :=
    (recording.called first).run (session.record call.event)
  have work := Run.attempt_handled ran
  rw [Run.attempt_ok came] at ran
  obtain ⟨rfl, rfl⟩ := Prod.mk.inj ran
  obtain ⟨own, added, mine⟩ := work.grows
  have grown : later.journal = session.journal ++ ([call.event] ++ own) := by
    rw [added]
    exact List.append_assoc ..
  have frames : (session.record call.event).journal.frames = session.journal.frames := by
    cases call <;> simp [Session.record, Call.event, Journal.frames]
  have pending : later.channel.pending = session.channel.pending := work.sameInward.pending
  refine ⟨rfl, ?_, closed, own, grown, mine⟩
  rw [recorded, frames, pending]
  refine passed.extend grown work.sameInward.unread work.sameInward.closeRequested ?_ ?_ ?_
  · rw [Journal.sent_append, Journal.sent_own mine]
    cases call <;> rfl
  · rw [Journal.received_append, Journal.received_own mine]
    cases call <;> rfl
  · intro error pending member
    rcases List.mem_append.mp member with fired | later
    · cases call <;> simp [Call.event] at fired
      exact first _ _ rfl
    · simpa [Event.isOwn] using mine _ later

theorem placed (recording : service.Recording framing) {placement : Placement} {bytes rest : Bytes}
    {frames : List Bytes} {limit : Nat}
    (placed : service.place placement session = (.done bytes, after))
    (passed : Passed framing limit frames rest session) (opened : session.Open) :
    bytes = placement.bytes ∧ Passed framing limit frames rest after ∧ after.Open ∧
      after.journal.frames = session.journal.frames ∧ after.channel = session.channel := by
  obtain ⟨same, grown⟩ := Service.place_after placed
  have own := placement.events_own
  refine ⟨Service.placed_of_handsOutEmpty recording.empty placed, ?_, ?_, ?_, same⟩
  · exact passed.extend_own grown own (by rw [same]) (by rw [same])
  · exact opened.extend grown (congrArg Channel.closed same) (congrArg Channel.reading same)
      (congrArg Channel.closeFired same) (by rw [same]) (Journal.not_closed_own own)
  · rw [grown, Journal.frames_append, Placement.frames_events, List.append_nil]

theorem open_called {call : Call} {own : Journal} (opened : session.Open)
    (grown : after.journal = session.journal ++ ([call.event] ++ own))
    (mine : ∀ event ∈ own, event.isOwn = true)
    (closed : after.channel.closed = session.channel.closed)
    (inward : (session.record call.event).channel.SameInward after.channel)
    (other : ∀ leftover, call ≠ .closing leftover) : after.Open := by
  refine opened.extend grown closed inward.reading inward.closeFired inward.broken ?_
  intro leftover member
  rcases List.mem_append.mp member with fired | later
  · cases call <;> simp [Call.event] at fired
    exact other _ rfl
  · exact Journal.not_closed_own mine leftover later

theorem move (recording : service.Recording framing)
    (fits : service.bufferSize ≤ Word.maxCapacity) {point next : Point}
    (move : Move service point session next after)
    (stands : AtPoint framing service.bufferSize point session) :
    AtPoint framing service.bufferSize next after := by
  cases move with
  | opens => exact stands
  | closes _ found =>
    obtain ⟨passed, opened⟩ := stands
    rw [Session.updateChannel, Channel.release_eq]
    rcases Channel.probe_closed found with shut | asked | given | broken | ⟨nothing, finished⟩
    · simp [opened.closed] at shut
    · simp [passed.unasked] at asked
    · simp [opened.reading] at given
    · simp [opened.unbroken] at broken
    · exact ⟨{ passed with }, ⟨finished, nothing⟩, rfl, opened.silent⟩
  | idles => exact stands
  | overflows _ found => exact absurd fits (Service.not_fits_of_probe found)
  | reads _ found =>
    obtain ⟨passed, opened⟩ := stands
    obtain ⟨_, _, _, rfl, rfl⟩ := Channel.probe_data found
    obtain ⟨read, stops⟩ := passed.read
      (List.take_append_drop (service.room session.channel) session.channel.connection.unread)
    refine ⟨?_, stops, opened.extend rfl rfl rfl rfl rfl (by simp)⟩
    simpa [Session.record, Journal.frames] using read
  | joins step =>
    obtain ⟨passed, stops, opened⟩ := stands
    obtain ⟨rfl, kept, still, frames, _⟩ := placed recording step passed opened
    rw [Placement.bytes_extend]
    rw [← frames] at kept
    exact ⟨{ kept with }, stops, { still with }⟩
  | joinFails ran => exact absurd ran (Service.not_panicked_of_handsOutEmpty recording.empty)
  | @runs buffer _ after result rest ran =>
    obtain ⟨passed, stops, opened⟩ := stands
    rw [recording.chain_apply stops] at ran
    obtain ⟨ended, last⟩ := Prod.mk.inj ran
    obtain ⟨rfl, rfl⟩ := Prod.mk.inj (Outcome.done.inj ended)
    have own := Service.Recording.noted_own (framing.cut buffer).frames
    have same : after.channel = session.channel := by rw [← last]
    have grown : after.journal = session.journal ++
        (Service.Recording.noted (framing.cut buffer).frames ++
          [.chained buffer (framing.cut buffer).rest none]) := by
      rw [← last, List.append_assoc]
    have frames : after.journal.frames = session.journal.frames ++ (framing.cut buffer).frames := by
      rw [grown, Journal.frames_append, Journal.frames_append, Service.Recording.frames_noted]
      simp [Journal.frames]
    refine ⟨rfl, ?_, ?_⟩
    · rw [frames]
      refine passed.extend grown (by rw [same]) (by rw [same]) ?_ ?_ ?_
      · rw [Journal.sent_append, Journal.sent_own own]
        rfl
      · rw [Journal.received_append, Journal.received_own own]
        rfl
      · intro error pending member
        rcases List.mem_append.mp member with early | late
        · simpa [Event.isOwn] using own _ early
        · simp at late
    · refine opened.extend grown (by rw [same]) (by rw [same]) (by rw [same]) (by rw [same]) ?_
      intro leftover member
      rcases List.mem_append.mp member with early | late
      · exact Journal.not_closed_own own leftover early
      · simp at late
  | runHangs ran =>
    obtain ⟨passed, stops, opened⟩ := stands
    rw [recording.chain_apply stops] at ran
    simp at ran
  | @keeps rest offered _ after left result step =>
    obtain ⟨rfl, passed, opened⟩ := stands
    have short := passed.short recording.least
    obtain ⟨same, kept, still, frames, _⟩ := placed recording step passed opened
    rw [Placement.bytes_compact] at same
    subst same
    rw [← frames] at kept
    have unasked : (after.channel.keep service.bufferSize left).closeRequested = false := by
      simp [Channel.keep, kept.unasked, short]
    exact ⟨{ kept with unasked }, { still with }, short⟩
  | keepFails ran => exact absurd ran (Service.not_panicked_of_handsOutEmpty recording.empty)
  | @calls after result _ call ran =>
    have inward := (Run.attempt_handled ran).sameInward
    cases call with
    | opening =>
      obtain ⟨passed, opened⟩ := stands
      obtain ⟨same, kept, closed, own, grown, mine⟩ := called recording (by simp) ran passed
      obtain rfl := Outcome.done.inj same
      have still := open_called opened grown mine closed inward (by simp)
      exact ⟨{ kept with }, .inl { still with }⟩
    | idle pending =>
      obtain ⟨passed, opened⟩ := stands
      obtain ⟨same, kept, closed, own, grown, mine⟩ := called recording (by simp) ran passed
      obtain rfl := Outcome.done.inj same
      exact ⟨kept, .inl (open_called opened grown mine closed inward (by simp))⟩
    | fed left =>
      obtain ⟨passed, opened, short⟩ := stands
      obtain ⟨same, kept, closed, own, grown, mine⟩ := called recording (by simp) ran passed
      obtain rfl := Outcome.done.inj same
      rw [Call.next, if_neg (Nat.not_le_of_lt short)]
      exact ⟨kept, .inl (open_called opened grown mine closed inward (by simp))⟩
    | closing leftover =>
      obtain ⟨passed, exhausted, rfl, silent⟩ := stands
      obtain ⟨same, kept, closed, own, grown, mine⟩ := called recording (by simp) ran passed
      obtain rfl := Outcome.done.inj same
      have unread : after.channel.connection.unread = [] := inward.unread.trans exhausted.2
      have pending : after.channel.pending = session.channel.pending := inward.pending
      refine ⟨{ kept with }, .inr ⟨⟨inward.ended.trans exhausted.1, unread⟩, rfl, ?_, ?_⟩⟩
      · change .closed after.channel.pending ∈ after.journal
        simp [grown, pending, Call.event]
      · intro leftover member
        change leftover = after.channel.pending
        change .closed leftover ∈ after.journal at member
        rw [grown, List.mem_append, List.mem_append] at member
        rcases member with early | fired | late
        · exact absurd early (silent leftover)
        · rw [pending]
          simpa [Call.event] using fired
        · exact absurd late (Journal.not_closed_own mine leftover)
    | report error pending => exact stands.elim
  | callHangs call ran =>
    cases call with
    | report error pending => exact stands.elim
    | opening | idle _ | fed _ | closing _ =>
      exact absurd (called recording (by simp) ran stands.1).1 (by simp)

end Delivered

/-! ### What a life delivers -/

/-- What was delivered between two units of work. -/
structure Delivered (framing : Framing) (limit : Nat) (session : Session σ) : Prop where
  passed : Passed framing limit session.journal.frames session.channel.pending session
  free : session.channel.locked = false
  stage : session.Open ∨ session.Gone

namespace Delivered

variable {framing : Framing} {service : Service σ} {session after : Session σ}

theorem opened (delivered : Delivered framing service.bufferSize session)
    (unfired : session.channel.closeFired = false) : session.Open :=
  delivered.stage.resolve_right fun gone => by simp [gone.fired] at unfired

theorem work (recording : service.Recording framing)
    (fits : service.bufferSize ≤ Word.maxCapacity)
    (delivered : Delivered framing service.bufferSize session)
    (unfired : session.channel.closeFired = false) :
    Delivered framing service.bufferSize (session.work service) := by
  have start : AtPoint framing service.bufferSize .begun session.lock :=
    ⟨{ delivered.passed with }, { delivered.opened unfired with }⟩
  obtain ⟨final, ⟨course, same⟩ | ⟨course, same⟩⟩ := session.work_course service <;> rw [same]
  · obtain ⟨passed, stage⟩ := course.keeps (AtPoint framing service.bufferSize)
      (fun {_ _ _ _} => move recording fits) start
    exact ⟨{ passed with }, rfl,
      stage.imp (fun opened => { opened with }) fun gone => { gone with }⟩
  · exact (course.keeps (AtPoint framing service.bufferSize)
      (fun {_ _ _ _} => move recording fits) start).elim

theorem step (recording : service.Recording framing)
    (fits : service.bufferSize ≤ Word.maxCapacity)
    (delivered : Delivered framing service.bufferSize session) {step : Session.Step}
    (quiet : step.IsQuiet)
    (legal : framing.Legal service.bufferSize (session.step service step).journal.sent) :
    Delivered framing service.bufferSize (session.step service step) := by
  rcases session.step_cases service step with same | ⟨bytes, more, _, same⟩ | ⟨_, same⟩ |
      ⟨rfl, _⟩ | ⟨action, rfl, same⟩ |
      ⟨unfired, ⟨rfl, _, same⟩ | ⟨rfl, _, same⟩ | ⟨_, free, same⟩⟩ <;>
    try rw [same] at legal ⊢
  · exact delivered
  · have passed := delivered.passed
    have opened := delivered.stage.resolve_right fun gone => by simp [gone.exhausted.1] at more
    rw [Session.record, Session.updateChannel, Channel.arrive_of_open more] at legal ⊢
    have received : Journal.received (session.journal ++ [.arrived bytes]) =
        session.journal.received := by
      rw [Journal.received_append]
      exact List.append_nil _
    have frames : Journal.frames (session.journal ++ [.arrived bytes]) =
        session.journal.frames := by
      rw [Journal.frames_append]
      exact List.append_nil _
    have sent : Journal.sent (session.journal ++ [.arrived bytes]) =
        session.journal.sent ++ bytes := by
      rw [Journal.sent_append]
      exact congrArg _ (List.append_nil _)
    refine ⟨⟨?_, legal, ?_, ?_, passed.unasked⟩, delivered.free, .inl ?_⟩
    · rw [received, sent, ← passed.whole, List.append_assoc]
    · rw [received, frames]
      exact passed.cut
    · intro error pending
      simpa using passed.calm error pending
    · have grown : (Session.record { session with channel := _ } (.arrived bytes)).journal =
          session.journal ++ [.arrived bytes] := rfl
      exact opened.extend grown rfl rfl rfl rfl (by simp)
  · have ended : session.peerEnds.journal = session.journal ++ [.ended] := rfl
    refine ⟨?_, delivered.free, delivered.stage.imp (fun opened => ?_) fun gone => ?_⟩
    · have kept := delivered.passed.extend ended rfl rfl rfl rfl (by simp)
      have frames : session.peerEnds.journal.frames = session.journal.frames :=
        (Journal.frames_append ..).trans (List.append_nil _)
      rw [frames]
      exact kept
    · exact opened.extend ended rfl rfl rfl rfl (by simp)
    · exact gone.extend ended rfl rfl ⟨rfl, gone.exhausted.2⟩ (by simp)
  · exact quiet.elim
  · have inward := (session.perform_handled action).sameInward
    obtain ⟨events, grown, own⟩ := (session.perform_handled action).grows
    obtain ⟨closed, frames⟩ := session.perform_quiet quiet
    have silent := Journal.not_closed_own own
    refine ⟨?_, ?_, delivered.stage.imp (fun opened => ?_) fun gone => ?_⟩
    · have pending := inward.pending
      rw [frames, pending]
      exact delivered.passed.extend_own grown own inward.unread inward.closeRequested
    · exact inward.steady.locked.trans delivered.free
    · exact opened.extend grown closed inward.reading inward.closeFired inward.broken silent
    · refine gone.extend grown inward.pending inward.closeFired ?_ silent
      exact ⟨inward.ended.trans gone.exhausted.1, inward.unread.trans gone.exhausted.2⟩
  · simp [Session.Step.IsQuiet] at quiet
  · simp [Session.Step.IsQuiet] at quiet
  · exact delivered.work recording fits unfired

theorem live (recording : service.Recording framing)
    (fits : service.bufferSize ≤ Word.maxCapacity) (id : Nat) (steps : List Session.Step)
    (quiet : ∀ step ∈ steps, step.IsQuiet)
    (legal : framing.Legal service.bufferSize
      ((service.session id).live service steps).journal.sent) :
    Delivered framing service.bufferSize ((service.session id).live service steps) := by
  induction steps using List.reverseRecOn with
  | nil =>
    exact ⟨⟨rfl, legal, framing.cut_nil, by simp [Service.session], rfl⟩, rfl,
      .inl ⟨rfl, rfl, rfl, rfl, by simp [Service.session]⟩⟩
  | append_singleton earlier last ih =>
    obtain ⟨events, grown⟩ := Session.step_grows (Session.live_lived service id earlier) last
    rw [Session.live_snoc] at legal ⊢
    have before := legal
    rw [grown, Journal.sent_append] at before
    have delivered := ih (fun step member => quiet step (List.mem_append_left _ member))
      before.of_append
    exact delivered.step recording fits (quiet last (by simp)) legal

end Delivered

/-! ### The close comes -/

/-- A bound on the visits that a channel needs once its peer has ended: one opens it, each read
takes a byte or more, and the last one closes it. -/
def Session.rank (session : Session σ) : Nat :=
  if session.channel.closeFired then 0
  else session.channel.connection.unread.length + if session.channel.opened then 1 else 2

theorem Session.rank_le (session : Session σ) :
    session.rank ≤ session.channel.connection.unread.length + 2 := by
  unfold rank
  split
  · exact Nat.zero_le _
  · split <;> omega

theorem Session.rank_pos {session : Session σ} (unfired : session.channel.closeFired = false) :
    0 < session.rank := by
  simp only [rank, unfired, Bool.false_eq_true, if_false]
  split <;> omega

namespace Delivered

variable {framing : Framing} {service : Service σ} {session : Session σ}

theorem work_rank (recording : service.Recording framing)
    (fits : service.bufferSize ≤ Word.maxCapacity) (lived : session.Lived service)
    (delivered : Delivered framing service.bufferSize session)
    (unfired : session.channel.closeFired = false)
    (ended : session.channel.connection.ended = true) :
    (session.work service).rank < session.rank := by
  have coherent := Coherent.of_lived lived
  have shorter := (session.work_unread service).1.length_le
  have free := (delivered.work recording fits unfired).free
  obtain ⟨_, _, ⟨locked, _⟩ | ⟨turn, _, made, left⟩⟩ :=
    session.work_turn service fun unopened => (coherent.unopened unopened).1
  · simp [free] at locked
  · have leaves := left.resolve_left (by simp [free])
    have starts := made.starts
    cases turn with
    | opening fault =>
      simp only [Turn.Starts] at starts
      simp only [Session.rank, leaves.1, leaves.2, unfired, starts]
      simp only [Bool.false_eq_true, if_false, if_true]
      omega
    | idle pending fault =>
      rcases (Channel.probe_empty starts.2).2.2 with full | ⟨_, more⟩
      · have short := delivered.passed.short recording.least
        simp only [Service.room] at full
        omega
      · simp [ended] at more
    | overflowed payload pending => exact absurd fits (Nat.not_le_of_lt made.explained.2)
    | closing leftover fault =>
      simp only [Session.rank, leaves.2, unfired, if_true, Bool.false_eq_true, if_false]
      split <;> omega
    | fed left fault | failed error pending =>
      obtain ⟨opened, fired, less⟩ := leaves
      simp only [Session.rank, opened, fired, unfired, starts.1]
      simp only [Bool.false_eq_true, if_false, if_true]
      omega
    | stalled left capacity =>
      obtain ⟨opened, fired, less, _⟩ := leaves
      simp only [Session.rank, opened, fired, unfired, starts.1]
      simp only [Bool.false_eq_true, if_false, if_true]
      omega

/-- Visits bring the close nearer, and nothing else puts it off. -/
theorem step_rank (recording : service.Recording framing)
    (fits : service.bufferSize ≤ Word.maxCapacity) (lived : session.Lived service)
    (delivered : Delivered framing service.bufferSize session) {step : Session.Step}
    (quiet : step.IsQuiet) (ended : session.channel.connection.ended = true) :
    (session.step service step).rank ≤ session.rank - [step].count (.visit false) := by
  cases step with
  | arrive bytes => simp [Session.step, Session.arrive, ended]
  | peerEnds => exact Nat.le_refl _
  | breaks => exact quiet.elim
  | act action =>
    have inward := (session.perform_handled action).sameInward
    simp [Session.step, Session.rank, inward.closeFired, inward.unread, inward.opened]
  | visit closing =>
    obtain rfl : closing = false := quiet
    cases fired : session.channel.closeFired with
    | true => simp [Session.step, Session.visit, fired, Session.rank]
    | false =>
      have less := delivered.work_rank recording fits lived fired ended
      simp only [Session.step, Session.visit, Session.poll, fired, delivered.free, Bool.or_self,
        Bool.false_eq_true, if_false, Option.getD_some, List.count_singleton_self]
      omega

theorem live_rank (recording : service.Recording framing)
    (fits : service.bufferSize ≤ Word.maxCapacity) (id : Nat)
    (earlier later : List Session.Step) (quiet : ∀ step ∈ earlier ++ later, step.IsQuiet)
    (legal : framing.Legal service.bufferSize
      ((service.session id).live service (earlier ++ later)).journal.sent)
    (ended : ((service.session id).live service earlier).channel.connection.ended = true) :
    ((service.session id).live service (earlier ++ later)).channel.connection.ended = true ∧
      ((service.session id).live service (earlier ++ later)).rank ≤
        ((service.session id).live service earlier).rank - later.count (.visit false) := by
  induction later using List.reverseRecOn with
  | nil => simp [ended]
  | append_singleton middle last ih =>
    rw [← List.append_assoc] at quiet legal ⊢
    obtain ⟨events, grown⟩ :=
      Session.step_grows (Session.live_lived service id (earlier ++ middle)) last
    rw [Session.live_snoc] at legal ⊢
    rw [grown, Journal.sent_append] at legal
    have early : ∀ step ∈ earlier ++ middle, step.IsQuiet :=
      fun step member => quiet step (List.mem_append_left _ member)
    obtain ⟨finished, bound⟩ := ih early legal.of_append
    have delivered := live recording fits id (earlier ++ middle) early legal.of_append
    have next := delivered.step_rank recording fits ⟨id, _, rfl⟩ (quiet last (by simp)) finished
    refine ⟨Session.ended_step _ last finished, ?_⟩
    rw [List.count_append]
    omega

end Delivered

/-- Frames are delivered whatever the schedule is. As long as every frame of the stream fits the
buffer, nothing is ever reported, the channel is not asked to close, what is pending leaves room,
and the recorded frames with the pending rest are the decoding of what was read. The close comes at
the end of the stream and is given the rest of all that was sent; and it does come, once the peer
has ended and the channel is visited often enough. All this is so exactly for the buffers that
memory can hold: a larger one is deaf, and its visits report that. -/
theorem Service.frames_delivered (service : Service σ) (framing : Framing)
    (recording : service.Recording framing) (id : Nat) (steps : List Session.Step)
    (quiet : ∀ step ∈ steps, step.IsQuiet)
    (legal : framing.Legal service.bufferSize
      ((service.session id).live service steps).journal.sent) :
    let session := (service.session id).live service steps
    (service.bufferSize ≤ Word.maxCapacity →
      (∀ error pending, .failed error pending ∉ session.journal) ∧
      session.channel.closeRequested = false ∧
      session.channel.pending.length < service.bufferSize ∧
      session.journal.received ++ session.channel.connection.unread = session.journal.sent ∧
      framing.decode session.journal.received =
        (.ok session.journal.frames, session.channel.pending) ∧
      (∀ frame ∈ session.journal.frames, framing.IsFrame frame) ∧
      session.journal.frames.flatten ++ session.channel.pending = session.journal.received ∧
      framing.front session.channel.pending = .incomplete ∧
      (session.channel.connection.unread = [] → framing.decode session.journal.sent =
        (.ok session.journal.frames, session.channel.pending)) ∧
      (∀ leftover, .closed leftover ∈ session.journal → session.Exhausted ∧
        framing.decode session.journal.sent = (.ok session.journal.frames, leftover)) ∧
      ∀ earlier later, steps = earlier ++ later →
        let before := (service.session id).live service earlier
        before.channel.connection.ended = true →
        before.channel.connection.unread.length + 2 ≤ later.count (.visit false) →
        ∃ leftover, .closed leftover ∈ session.journal) ∧
    (Word.maxCapacity < service.bufferSize →
      session.Deaf ∧ (session.Listening → session.Balks service)) := by
  refine ⟨fun fits => ?_, fun much => service.oversized_deaf much id steps⟩
  have delivered := Delivered.live recording fits id steps quiet legal
  have passed := delivered.passed
  have stopped := congrArg Framing.Cut.stop passed.cut
  have decoded := Framing.decode_of_incomplete stopped
  rw [passed.cut] at decoded
  have all (session : Session σ)
      (whole : session.journal.received ++ session.channel.connection.unread = session.journal.sent)
      (nothing : session.channel.connection.unread = []) :
      session.journal.sent = session.journal.received := by
    rw [← whole, nothing, List.append_nil]
  refine ⟨passed.calm, passed.unasked, passed.short recording.least, passed.whole, decoded,
    ?_, ?_, ?_, ?_, ?_, ?_⟩
  · have whole := framing.cut_isFrame
      ((service.session id).live service steps).journal.received
    rwa [passed.cut] at whole
  · have whole := framing.cut_flatten
      ((service.session id).live service steps).journal.received
    rwa [passed.cut] at whole
  · have front := framing.front_rest ((service.session id).live service steps).journal.received
    rw [passed.cut] at front
    exact front.1
  · intro nothing
    rw [all _ passed.whole nothing, decoded]
  · intro leftover member
    rcases delivered.stage with opened | gone
    · exact absurd member (opened.silent leftover)
    · rw [all _ passed.whole gone.exhausted.2, decoded, gone.only leftover member]
      exact ⟨gone.exhausted, rfl⟩
  · rintro earlier later rfl before ended enough
    obtain ⟨_, bound⟩ := Delivered.live_rank recording fits id earlier later quiet legal ended
    have within : before.rank ≤ before.channel.connection.unread.length + 2 := before.rank_le
    rcases delivered.stage with opened | gone
    · have left := Session.rank_pos opened.fired
      have spent : before.rank - later.count (.visit false) = 0 := Nat.sub_eq_zero_of_le (by omega)
      rw [spent] at bound
      omega
    · exact ⟨_, gone.given⟩

def Service.triples : Service Unit where
  handlers := [(Framing.fixed 3 (by decide)).handler, Stage.collectHandler]
  bufferSize := 4
  fresh := ()

theorem Service.triples_recording : triples.Recording (.fixed 3 (by decide)) where
  chain := ⟨Stage.collectHandler, fun _ => rfl, rfl⟩
  calm := ⟨trivial, fun _ _ => trivial, fun _ => trivial⟩
  empty := Allocator.empty_handsOutEmpty
  least := by decide

/-- Seven bytes are read and closed within nine visits. -/
theorem Service.frames_delivered_triples :
    let earlier : List Session.Step :=
      [.visit false, .arrive [1, 2, 3, 4], .arrive [5, 6, 7], .peerEnds]
    let later : List Session.Step := List.replicate 9 (.visit false)
    let session := (triples.session 0).live triples (earlier ++ later)
    triples.Recording (.fixed 3 (by decide)) ∧ (∀ step ∈ earlier ++ later, step.IsQuiet) ∧
      (Framing.fixed 3 (by decide)).Legal triples.bufferSize session.journal.sent ∧
      triples.bufferSize ≤ Word.maxCapacity ∧ session.channel.closeRequested = false ∧
      ∃ leftover, .closed leftover ∈ session.journal := by
  intro earlier later session
  have quiet : ∀ step ∈ earlier ++ later, step.IsQuiet := by
    simp [earlier, later, Session.Step.IsQuiet]
  have legal : (Framing.fixed 3 (by decide)).Legal triples.bufferSize session.journal.sent :=
    .of_fixed (by decide) _
  obtain ⟨_, unasked, _, _, _, _, _, _, _, _, closes⟩ :=
    (triples.frames_delivered _ triples_recording 0 (earlier ++ later) quiet legal).1 (by decide)
  exact ⟨triples_recording, quiet, legal, by decide, unasked,
    closes earlier later rfl (by decide) (by decide)⟩

/-- With a buffer of half the address space the same frame is never read, the same panic is reported
at every visit, and the close never comes. -/
theorem Service.frames_undelivered :
    let vast : Service Unit := { triples with bufferSize := Word.bound / 2 }
    let steps : List Session.Step :=
      [.visit false, .arrive [1, 2, 3], .peerEnds, .visit false, .visit false]
    let session := (vast.session 0).live vast steps
    vast.Recording (.fixed 3 (by decide)) ∧ (∀ step ∈ steps, step.IsQuiet) ∧
      (Framing.fixed 3 (by decide)).Legal vast.bufferSize session.journal.sent ∧
      session.journal = [.opened, .arrived [1, 2, 3], .ended,
        .failed (.panic (.text "capacity overflow")) [],
        .failed (.panic (.text "capacity overflow")) []] := by
  intro vast steps session
  refine ⟨⟨triples_recording.chain, triples_recording.calm, triples_recording.empty, by decide⟩,
    by simp [steps, Session.Step.IsQuiet], .of_fixed (by decide) _, by rfl⟩

end StreamDispatch
