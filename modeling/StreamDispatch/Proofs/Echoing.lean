import StreamDispatch.Proofs.Consumption
import StreamDispatch.Proofs.Moments

/-! Echoing. A channel whose chain cuts frames and sends them back mirrors its stream: what has
reached the peer is, frame by frame, the front of what the peer sent, whatever the stream is and
however the channel comes to its end. -/
namespace StreamDispatch

variable {σ α β : Type}

/-- The program sends no bytes. It may still close the channel, panic, or never come back. -/
def Program.Silent : Program σ α → Prop
  | .done _ | .panic _ | .hang => True
  | .look next => ∀ view state, (next view state).Silent
  | .keep _ next | .note _ next => next.Silent
  | .act action next => action.payload = [] ∧ ∀ result, (next result).Silent

structure Callbacks.Silent (callbacks : Callbacks σ) : Prop where
  onOpen : callbacks.onOpen.Silent
  onLoop : ∀ fresh pending, (callbacks.onLoop fresh pending).Silent
  onException : ∀ error pending, (callbacks.onException error pending).Silent
  onClose : ∀ leftover, (callbacks.onClose leftover).Silent

/-- A service that cuts frames and echoes them. -/
structure Service.Echoing (service : Service σ) (framing : Framing) : Prop where
  chain : service.handlers = [framing.handler, Stage.echoHandler]
  silent : service.callbacks.Silent
  empty : service.allocator.HandsOutEmpty

def Session.Step.IsSilent : Session.Step → Prop
  | .arrive _ | .peerEnds | .breaks | .visit _ => True
  | .act action => action.payload = []

/-! ### What sends nothing -/

/-- Nothing is held back, and the output is there as long as the channel is open. -/
def Channel.Clear (channel : Channel) : Prop :=
  channel.output = if channel.closed then none else some []

namespace Channel.Clear

variable {channel after : Channel}

theorem held (clear : channel.Clear) : channel.output.getD [] = [] := by
  rw [Clear] at clear
  rw [clear]
  split <;> rfl

theorem shut (closed : channel.closed = true) (output : channel.output = none) : channel.Clear := by
  rw [Clear, closed, output]
  rfl

theorem live (opened : channel.closed = false) (output : channel.output = some []) :
    channel.Clear := by
  rw [Clear, opened, output]
  rfl

end Channel.Clear

theorem Action.apply_silent {action : Action} {channel after : Channel}
    (applied : action.apply channel = .ok after) (silent : action.payload = [])
    (clear : channel.Clear) :
    after.Clear ∧ after.connection.delivered = channel.connection.delivered := by
  have none := clear.held
  cases action with
  | send data =>
    obtain ⟨live, held, output, rfl⟩ := Channel.send_ok applied
    have whole := channel.writer.whole channel.connection.delivered held data
    obtain rfl : data = [] := silent
    rw [output] at none
    obtain rfl : held = [] := none
    obtain ⟨gone, kept⟩ := List.append_eq_nil_iff.mp whole
    simp [gone, kept, Channel.Clear, Channel.deliver, live]
  | flush =>
    obtain ⟨live, held, output, rfl⟩ := Channel.flush_ok applied
    rw [output] at none
    obtain rfl : held = [] := none
    simp [Channel.Clear, Channel.deliver, live]
  | sendAndFlush data =>
    obtain ⟨live, held, output, rfl⟩ := Channel.sendAndFlush_ok applied
    obtain rfl : data = [] := silent
    rw [output] at none
    obtain rfl : held = [] := none
    simp [Channel.Clear, Channel.deliver, live]
  | close =>
    obtain rfl := Except.ok.inj applied
    cases closed : channel.closed with
    | true =>
      rw [Channel.close_of_closed closed]
      exact ⟨clear, rfl⟩
    | false =>
      rw [Channel.close_of_open closed, none]
      exact ⟨.shut rfl rfl, List.append_nil _⟩
  | closeNow =>
    obtain rfl := Except.ok.inj applied
    cases closed : channel.closed with
    | true =>
      rw [Channel.closeNow_of_closed closed]
      exact ⟨clear, rfl⟩
    | false =>
      rw [Channel.closeNow_of_open closed]
      exact ⟨.shut rfl rfl, rfl⟩

theorem Session.perform_silent (session : Session σ) {action : Action}
    (silent : action.payload = []) (clear : session.channel.Clear) :
    (session.perform action).2.channel.Clear ∧
      (session.perform action).2.channel.connection.delivered =
        session.channel.connection.delivered := by
  unfold perform
  cases applied : action.apply session.channel with
  | error fault => exact ⟨clear, rfl⟩
  | ok after =>
    have same := Action.apply_silent applied silent clear
    cases action <;> exact same

theorem Program.Silent.run {program : Program σ α} (silent : program.Silent) (session : Session σ)
    (clear : session.channel.Clear) :
    (program.run session).2.channel.Clear ∧
      (program.run session).2.channel.connection.delivered =
        session.channel.connection.delivered := by
  induction program generalizing session with
  | done | panic | hang => exact ⟨clear, rfl⟩
  | look next ih => exact ih _ _ (silent session.channel.view session.state) session clear
  | keep state next ih => exact ih silent { session with state } clear
  | note entry next ih => exact ih silent (session.record (.noted entry)) clear
  | act action next ih =>
    obtain ⟨quiet, same⟩ := session.perform_silent silent.1 clear
    obtain ⟨later, still⟩ := ih _ (silent.2 (session.perform action).1) _ quiet
    exact ⟨later, still.trans same⟩

theorem Callbacks.Silent.called {callbacks : Callbacks σ} (silent : callbacks.Silent)
    (call : Call) : (call.program callbacks).Silent := by
  cases call with
  | opening => exact silent.onOpen
  | idle pending => exact silent.onLoop false pending
  | fed left => exact silent.onLoop true left
  | closing leftover => exact silent.onClose leftover
  | report error pending => exact silent.onException error pending

/-! ### What echoing does -/

theorem Program.run_bind (program : Program σ α) (next : α → Program σ β) :
    (program >>= next).run = program.run >>= fun value => (next value).run := by
  change (program.bind next).run = _
  funext session
  induction program generalizing session with
  | done | panic | hang => rfl
  | look rest ih => exact ih _ _ session
  | keep state rest ih => exact ih { session with state }
  | note entry rest ih => exact ih (session.record (.noted entry))
  | act action rest ih => exact ih _ _

namespace Session

variable {session : Session σ} {held : Bytes}

/-- On an open channel sending succeeds, whatever the writer holds back. -/
theorem perform_send (live : session.channel.closed = false)
    (output : session.channel.output = some held) (data : Bytes) :
    ∃ gone kept journal, session.perform (.send data) = (.ok (),
        ⟨{ session.channel.deliver gone with output := some kept }, session.state, journal⟩) ∧
      gone ++ kept = held ++ data := by
  have whole := session.channel.writer.whole session.channel.connection.delivered held data
  rcases pushed : session.channel.writer.push session.channel.connection.delivered held data with
    ⟨gone, kept⟩
  rw [pushed] at whole
  refine ⟨gone, kept, session.journal ++ [.wrote data], ?_, whole⟩
  simp only [perform, Action.apply, Channel.send, Channel.openOutput, live, output]
  simp only [bind, Except.bind, pure, Except.pure, pushed]
  rfl

theorem perform_flush (session : Session σ) (live : session.channel.closed = false)
    (output : session.channel.output = some held) :
    session.perform .flush = (.ok (), ⟨{ session.channel.deliver held with output := some [] },
      session.state, session.journal⟩) := by
  simp only [perform, Action.apply, Channel.flush, Channel.openOutput, live, output]
  rfl

end Session

namespace Stage

/-- On an open channel all pieces are sent; what the writer holds back of them is its own affair. -/
theorem sendAll_run (pieces : List Bytes) (session : Session σ) {held : Bytes}
    (live : session.channel.closed = false) (output : session.channel.output = some held) :
    ∃ gone kept journal, (sendAll pieces).run session = (.done (.ok ()),
        ⟨{ session.channel.deliver gone with output := some kept }, session.state, journal⟩) ∧
      gone ++ kept = held ++ pieces.flatten := by
  induction pieces generalizing session held with
  | nil =>
    refine ⟨[], held, session.journal, ?_, by simp⟩
    simp [sendAll, Program.run, Channel.deliver, ← output]
  | cons piece rest ih =>
    obtain ⟨first, middle, journal, performed, whole⟩ := session.perform_send live output piece
    obtain ⟨later, kept, last, ran, same⟩ := ih
      ⟨{ session.channel.deliver first with output := some middle }, session.state, journal⟩ live rfl
    refine ⟨first ++ later, kept, last, ?_, ?_⟩
    · simp only [sendAll, Program.run, performed, ran]
      simp [Channel.deliver]
    · rw [List.append_assoc, same, ← List.append_assoc, whole, List.flatten_cons, List.append_assoc]

/-- Sent and flushed, the frames have reached the peer, and nothing else has changed. -/
theorem echoFrames_run (frames : List Bytes) (session : Session σ)
    (live : session.channel.closed = false) (output : session.channel.output = some []) :
    ∃ journal, (echoFrames frames).run session = (.done (.ok ()),
      ⟨session.channel.deliver frames.flatten, session.state, journal⟩) := by
  obtain ⟨gone, kept, journal, ran, whole⟩ := sendAll_run frames session live output
  have flushed := Session.perform_flush
    ⟨{ session.channel.deliver gone with output := some kept }, session.state, journal⟩ live rfl
  refine ⟨journal, ?_⟩
  rw [echoFrames, Program.run_bind, Run.bind_apply, ran]
  simp only [Program.attempt, Program.run, flushed]
  simp [Channel.deliver, output, whole]

theorem echoHandler_run (frames : List Bytes) (session : Session σ)
    (live : session.channel.closed = false) (output : session.channel.output = some []) :
    ∃ journal, (echoHandler.onItem (.frames frames)).run session = (.done (.ok none),
      ⟨session.channel.deliver frames.flatten, session.state, journal⟩) := by
  obtain ⟨journal, ran⟩ := echoFrames_run frames session live output
  refine ⟨journal, ?_⟩
  change (echoFrames frames >>= fun sent => .done (sent.map fun _ => none)).run session = _
  rw [Program.run_bind, Run.bind_apply, ran]
  rfl

end Stage

namespace Service.Echoing

variable {service : Service σ} {framing : Framing}

theorem runBuffer_echoed (framing : Framing) (session : Session (σ × Bytes))
    (live : session.channel.closed = false) (clear : session.channel.Clear) :
    ∃ ended after,
      Handler.runBuffer [framing.handler, Stage.echoHandler] session = (.done ended, after) ∧
      after.state.2 = (framing.cut session.state.2).rest ∧
      after.channel.closed = false ∧ after.channel.Clear ∧
      after.channel.connection.delivered =
        session.channel.connection.delivered ++ (framing.cut session.state.2).frames.flatten := by
  have rest := framing.decode_rest session.state.2
  rw [Handler.runBuffer, Run.bind_apply, framing.handler_run]
  rcases decoded : framing.decode session.state.2 with ⟨fault | frames, left⟩ <;>
    rw [decoded] at rest
  · have failed : (framing.decode session.state.2).1 = .error fault := by rw [decoded]
    obtain ⟨nothing, _⟩ := Framing.decode_error_iff.mp failed
    exact ⟨_, _, rfl, rest, live, clear, by simp [nothing]⟩
  · have same := Framing.decode_ok (by rw [decoded])
    rw [← same]
    cases frames with
    | nil => exact ⟨_, _, rfl, rest, live, clear, by simp⟩
    | cons frame later =>
      have output : session.channel.output = some [] := by simpa [Channel.Clear, live] using clear
      obtain ⟨journal, ran⟩ := Stage.echoHandler_run (frame :: later)
        (session.withState session.state.1) live output
      refine ⟨.ok (), ⟨session.channel.deliver (frame :: later).flatten,
        (session.state.1, left), journal⟩, ?_, rest, live, .live live output, rfl⟩
      simp only [Session.withState] at ran
      simp only [Framing.verdict, Run.beside, Session.withState, Handler.runItems, Run.bind_apply,
        ran]
      rfl

/-- A chain run over an open channel leaves the rest, and the frames before it reach the peer. -/
theorem chain_echoed (echoing : service.Echoing framing) (buffer : Bytes) (session : Session σ)
    (live : session.channel.closed = false) (clear : session.channel.Clear) :
    ∃ result after,
      service.chain buffer session = (.done (result, (framing.cut buffer).rest), after) ∧
      after.channel.closed = false ∧ after.channel.Clear ∧
      after.channel.connection.delivered =
        session.channel.connection.delivered ++ (framing.cut buffer).frames.flatten := by
  obtain ⟨ended, after, ran, left, rest⟩ :=
    runBuffer_echoed framing (session.withState (session.state, buffer)) live clear
  have lent : Run.lend buffer (Handler.runBuffer service.handlers) session =
      (.done (.ok ended, (framing.cut buffer).rest), after.withState after.state.1) := by
    rw [echoing.chain, Run.lend, ran]
    simp only [left]
    rfl
  refine ⟨ended, (after.withState after.state.1).record
    (.chained buffer (framing.cut buffer).rest (fault? ended)), ?_, rest⟩
  rw [Service.chain, Run.bind_apply, lent]
  rfl

end Service.Echoing

/-! ### The mirror -/

/-- The frames in front of what was read have reached the peer, those excepted that are still to be
cut off what waits. -/
structure Mirrored (framing : Framing) (waiting : Bytes) (session : Session σ) : Prop where
  whole : session.journal.received ++ session.channel.connection.unread = session.journal.sent
  frames : (framing.cut session.journal.received).frames.flatten =
    session.channel.connection.delivered ++ (framing.cut waiting).frames.flatten
  rest : (framing.cut session.journal.received).rest = (framing.cut waiting).rest
  clear : session.channel.Clear

namespace Mirrored

variable {service : Service σ} {framing : Framing} {waiting : Bytes} {session after : Session σ}
  {events : Journal}

theorem extend (mirrored : Mirrored framing waiting session)
    (grown : after.journal = session.journal ++ events)
    (unread : after.channel.connection.unread = session.channel.connection.unread)
    (outward : after.channel.Clear ∧
      after.channel.connection.delivered = session.channel.connection.delivered)
    (sent : events.sent = []) (received : events.received = []) :
    Mirrored framing waiting after where
  whole := by simpa [grown, sent, received, unread] using mirrored.whole
  frames := by simpa [grown, received, outward.2] using mirrored.frames
  rest := by simpa [grown, received] using mirrored.rest
  clear := outward.1

theorem extend_own (mirrored : Mirrored framing waiting session)
    (grown : after.journal = session.journal ++ events)
    (own : ∀ event ∈ events, event.isOwn = true)
    (unread : after.channel.connection.unread = session.channel.connection.unread)
    (outward : after.channel.Clear ∧
      after.channel.connection.delivered = session.channel.connection.delivered) :
    Mirrored framing waiting after :=
  mirrored.extend grown unread outward (Journal.sent_own own) (Journal.received_own own)

/-- New bytes are cut where the rest of the old ones left off. -/
theorem read (mirrored : Mirrored framing waiting session) (stops : framing.Stops waiting)
    {fresh unread : Bytes} (taken : fresh ++ unread = session.channel.connection.unread) :
    Mirrored framing (waiting ++ fresh) (Session.record { session with channel :=
      { session.channel with connection := { session.channel.connection with unread } } }
        (.read fresh)) := by
  have received : Journal.received (session.journal ++ [.read fresh]) =
      session.journal.received ++ fresh := by
    simp [Journal.received]
  have cut := framing.cut_append session.journal.received fresh
  have rest := mirrored.rest
  have frames := mirrored.frames
  rw [Framing.cut_of_stop stops] at rest frames
  simp only [List.flatten_nil, List.append_nil] at rest frames
  rw [rest, ← received] at cut
  exact
    { whole := by
        have whole := mirrored.whole
        rw [← taken, ← List.append_assoc] at whole
        simpa [Session.record, Journal.received, Journal.sent] using whole
      frames := by
        rw [Session.record, cut, ← frames]
        exact List.flatten_append
      rest := by rw [Session.record, cut]
      clear := mirrored.clear }

theorem run (mirrored : Mirrored framing waiting session)
    (grown : after.journal = session.journal ++ events)
    (unread : after.channel.connection.unread = session.channel.connection.unread)
    (sent : events.sent = []) (received : events.received = []) (clear : after.channel.Clear)
    (reached : after.channel.connection.delivered =
      session.channel.connection.delivered ++ (framing.cut waiting).frames.flatten) :
    Mirrored framing (framing.cut waiting).rest after := by
  have stops := framing.stops_rest waiting
  exact
    { whole := by simpa [grown, sent, received, unread] using mirrored.whole
      frames := by
        rw [grown, Journal.received_append, received, List.append_nil, mirrored.frames, ← reached,
          Framing.cut_of_stop stops, List.flatten_nil, List.append_nil]
      rest := by
        rw [grown, Journal.received_append, received, List.append_nil, mirrored.rest,
          Framing.cut_of_stop stops]
      clear := clear }

theorem placed (echoing : service.Echoing framing) {placement : Placement} {bytes : Bytes}
    (placed : service.place placement session = (.done bytes, after))
    (mirrored : Mirrored framing waiting session) :
    bytes = placement.bytes ∧ after.channel = session.channel ∧ Mirrored framing waiting after := by
  obtain ⟨same, grown⟩ := Service.place_after placed
  have outward : after.channel.Clear ∧
      after.channel.connection.delivered = session.channel.connection.delivered := by
    rw [same]
    exact ⟨mirrored.clear, rfl⟩
  exact ⟨Service.placed_of_handsOutEmpty echoing.empty placed, same,
    mirrored.extend_own grown placement.events_own (by rw [same]) outward⟩

end Mirrored

/-- Between units of work everything is mirrored but what is pending, and that is no whole frame. -/
structure Session.Echoed (framing : Framing) (session : Session σ) : Prop where
  mirrored : Mirrored framing session.channel.pending session
  stops : framing.Stops session.channel.pending

namespace Session.Echoed

variable {service : Service σ} {framing : Framing} {session after : Session σ}

theorem handled (echoed : session.Echoed framing) (work : session.Handled after)
    (outward : after.channel.Clear ∧
      after.channel.connection.delivered = session.channel.connection.delivered) :
    after.Echoed framing := by
  obtain ⟨events, grown, own⟩ := work.grows
  have kept := echoed.mirrored.extend_own grown own work.sameInward.unread outward
  have pending := work.sameInward.pending
  exact ⟨pending ▸ kept, pending ▸ echoed.stops⟩

theorem called (echoing : service.Echoing framing) (call : Call)
    {outcome : Outcome (Except Panic Unit)}
    (ran : Run.attempt (call.program service.callbacks).run (session.record call.event) =
      (outcome, after)) (echoed : session.Echoed framing) : after.Echoed framing := by
  obtain ⟨mirrored, stops⟩ := echoed
  have noted : (session.record call.event).Echoed framing := by
    refine ⟨mirrored.extend rfl rfl ⟨mirrored.clear, rfl⟩ ?_ ?_, stops⟩ <;> cases call <;> rfl
  have outward := (echoing.silent.called call).run (session.record call.event) noted.mirrored.clear
  rw [← Run.attempt_session, ran] at outward
  exact noted.handled (Run.attempt_handled ran) outward

/-- What is mirrored at a point of a unit. -/
def AtPoint (framing : Framing) : Point → Session σ → Prop
  | .read pending fresh, session =>
    Mirrored framing (pending ++ fresh) session ∧ session.channel.closed = false
  | .offered buffer, session =>
    Mirrored framing buffer session ∧ session.channel.closed = false
  | .chained _ rest _, session => Mirrored framing rest session ∧ framing.Stops rest
  | .begun, session | .calling _, session | .over, session | .stuck, session =>
    session.Echoed framing

theorem move (echoing : service.Echoing framing) {point next : Point}
    (move : Move service point session next after) (stands : AtPoint framing point session) :
    AtPoint framing next after := by
  cases move with
  | opens | idles | overflows => exact stands
  | closes =>
    obtain ⟨mirrored, stops⟩ := stands
    rw [updateChannel, Channel.release_eq]
    have kept : (if session.channel.discard then [] else session.channel.output.getD []) = [] := by
      rw [mirrored.clear.held, ite_self]
    have nothing : session.journal = session.journal ++ [] := by simp
    refine ⟨mirrored.extend nothing rfl ⟨.shut rfl rfl, ?_⟩ rfl rfl, stops⟩
    rw [kept]
    exact List.append_nil _
  | reads _ found =>
    obtain ⟨live, _, _, rfl, rfl⟩ := Channel.probe_data found
    exact ⟨stands.mirrored.read stands.stops (List.take_append_drop ..), live⟩
  | @joins pending fresh _ after buffer ran =>
    obtain ⟨mirrored, live⟩ := stands
    obtain ⟨rfl, same, kept⟩ := Mirrored.placed echoing ran mirrored
    rw [Placement.bytes_extend]
    exact ⟨{ kept with }, by rw [updateChannel, same]; exact live⟩
  | joinFails ran => exact absurd ran (Service.not_panicked_of_handsOutEmpty echoing.empty)
  | @runs buffer _ after result rest ran =>
    obtain ⟨mirrored, live⟩ := stands
    obtain ⟨ended, last, echoed, _, clear, reached⟩ :=
      echoing.chain_echoed buffer session live mirrored.clear
    obtain ⟨same, rfl⟩ := Prod.mk.inj (ran.symm.trans echoed)
    obtain ⟨rfl, rfl⟩ := Prod.mk.inj (Outcome.done.inj same)
    obtain ⟨_, middle, _, work, grown, channel⟩ := Service.chain_after ran
    obtain ⟨events, own, mine⟩ := work.grows
    have unread : after.channel.connection.unread = session.channel.connection.unread := by
      rcases channel with ⟨_, same⟩ | ⟨_, _, _, same⟩ <;> rw [same] <;>
        exact work.sameInward.unread
    rw [own, List.append_assoc] at grown
    refine ⟨mirrored.run grown unread ?_ ?_ clear reached, framing.stops_rest buffer⟩
    · rw [Journal.sent_append, Journal.sent_own mine]
      rfl
    · rw [Journal.received_append, Journal.received_own mine]
      rfl
  | @runHangs buffer _ after ran =>
    obtain ⟨mirrored, live⟩ := stands
    obtain ⟨_, _, echoed, _⟩ := echoing.chain_echoed buffer session live mirrored.clear
    simp [ran] at echoed
  | keeps ran =>
    obtain ⟨mirrored, stops⟩ := stands
    obtain ⟨rfl, same, kept⟩ := Mirrored.placed echoing ran mirrored
    rw [Placement.bytes_compact]
    exact ⟨{ kept with }, stops⟩
  | keepFails ran => exact absurd ran (Service.not_panicked_of_handsOutEmpty echoing.empty)
  | @calls after result _ call ran =>
    obtain ⟨mirrored, stops⟩ := called echoing call ran stands
    have marked : (after.updateChannel call.mark).Echoed framing := by
      cases call <;> exact ⟨{ mirrored with }, stops⟩
    rcases call.next_cases service.bufferSize after.channel.pending result with
      finished | ⟨error, given, again⟩
    · rw [finished]
      exact marked
    · rw [again]
      exact marked
  | callHangs call ran => exact called echoing call ran stands

theorem work (echoing : service.Echoing framing) (echoed : session.Echoed framing) :
    (session.work service).Echoed framing :=
  session.work_keeps (fun session => session.Echoed framing) (AtPoint framing)
    (fun echoed => ⟨{ echoed.mirrored with }, echoed.stops⟩) (fun first => move echoing first)
    (fun _ echoed => ⟨{ echoed.mirrored with }, echoed.stops⟩) (fun _ echoed => echoed) echoed

theorem step (echoing : service.Echoing framing) {step : Session.Step} (silent : step.IsSilent)
    (echoed : session.Echoed framing) : (session.step service step).Echoed framing := by
  have mirrored := echoed.mirrored
  have requested : session.request.Echoed framing := ⟨{ mirrored with }, echoed.stops⟩
  rcases session.step_cases service step with same | ⟨bytes, more, _, same⟩ | ⟨_, same⟩ |
      ⟨_, same⟩ | ⟨action, rfl, same⟩ | ⟨_, ⟨_, _, same⟩ | ⟨_, _, same⟩ | ⟨_, _, same⟩⟩ <;> rw [same]
  · exact echoed
  · rw [record, updateChannel, Channel.arrive_of_open more]
    refine ⟨⟨?_, ?_, ?_, mirrored.clear⟩, echoed.stops⟩
    · have whole := congrArg (· ++ bytes) mirrored.whole
      simpa [Journal.received, Journal.sent] using whole
    · simpa [Journal.received] using mirrored.frames
    · simpa [Journal.received] using mirrored.rest
  · have grown : session.peerEnds.journal = session.journal ++ [.ended] := rfl
    exact ⟨mirrored.extend grown rfl ⟨mirrored.clear, rfl⟩ rfl rfl, echoed.stops⟩
  · exact ⟨{ mirrored with }, echoed.stops⟩
  · exact echoed.handled (session.perform_handled action)
      (session.perform_silent silent mirrored.clear)
  · exact requested
  · exact work echoing requested
  · exact work echoing echoed

theorem live (echoing : service.Echoing framing) {steps : List Step}
    (silent : ∀ step ∈ steps, step.IsSilent) (echoed : session.Echoed framing) :
    (session.live service steps).Echoed framing := by
  induction steps generalizing session with
  | nil => exact echoed
  | cons first rest ih =>
    exact ih (fun other member => silent other (List.mem_cons_of_mem _ member))
      (step echoing (silent first (List.mem_cons_self ..)) echoed)

theorem fresh (service : Service σ) (framing : Framing) (id : Nat) :
    (service.session id).Echoed framing where
  mirrored := ⟨rfl, by simp [Service.session, Journal.received, Framing.cut_nil], rfl, rfl⟩
  stops := Framing.stops_of_incomplete framing.front_nil

end Session.Echoed

/-- Echoing in every life. Whatever the peer sends and however the channel is closed: what the peer
sent is what has come back to it, then what is pending, then what is unread; nothing that was
echoed is held back; and what has come back are the whole frames in front of what was read, none of
them missing. -/
theorem Service.echo_mirrors (service : Service σ) (framing : Framing)
    (echoing : service.Echoing framing) (id : Nat) (steps : List Session.Step)
    (silent : ∀ step ∈ steps, step.IsSilent) :
    let session := (service.session id).live service steps
    session.journal.sent = session.channel.connection.delivered ++ session.channel.pending ++
        session.channel.connection.unread ∧
      session.channel.output.getD [] = [] ∧
      ∃ frames, session.channel.connection.delivered = frames.flatten ∧
        (∀ frame ∈ frames, framing.IsFrame frame) ∧
        framing.cut session.journal.received =
          ⟨frames, session.channel.pending, framing.front session.channel.pending⟩ := by
  intro session
  obtain ⟨mirrored, stops⟩ := Session.Echoed.live echoing silent (.fresh service framing id)
  have flattened := framing.cut_flatten session.journal.received
  have front := (framing.front_rest session.journal.received).1
  have frames := mirrored.frames
  have rest := mirrored.rest
  rw [Framing.cut_of_stop stops] at frames rest
  simp only [List.flatten_nil, List.append_nil] at frames rest
  rw [frames, rest] at flattened
  refine ⟨?_, mirrored.clear.held, (framing.cut session.journal.received).frames, frames.symm,
    framing.cut_isFrame _, ?_⟩
  · rw [← mirrored.whole, ← flattened]
  · rw [rest] at front
    rw [front, ← rest]

/-- Frames of two bytes come back through a buffer of three, although the loop callback panics. -/
def Service.pairEcho : Service Unit where
  handlers := [(Framing.fixed 2 (by decide)).handler, Stage.echoHandler]
  callbacks := { onLoop := fun _ _ => .panic (.text "loop") }
  bufferSize := 3
  fresh := ()

/-- Two frames come back. The beginning of a third stays pending, and what arrives after the close
is never read. -/
theorem Service.echo_mirrors_pairs :
    let steps : List Session.Step :=
      [.visit false, .arrive [1, 2, 3], .visit false, .arrive [4, 5], .visit false, .act .close,
        .arrive [6], .visit false]
    let session := (pairEcho.session 0).live pairEcho steps
    pairEcho.Echoing (.fixed 2 (by decide)) ∧ (∀ step ∈ steps, step.IsSilent) ∧
      session.journal.sent = [1, 2, 3, 4, 5, 6] ∧
      session.channel.connection.delivered = [1, 2, 3, 4] ∧
      session.journal.sent = session.channel.connection.delivered ++ session.channel.pending ++
        session.channel.connection.unread := by
  intro steps session
  have echoing : pairEcho.Echoing (.fixed 2 (by decide)) :=
    { chain := rfl
      silent := ⟨trivial, fun _ _ => trivial, fun _ _ => trivial, fun _ => trivial⟩
      empty := Allocator.empty_handsOutEmpty }
  have silent : ∀ step ∈ steps, step.IsSilent := by
    simp [steps, Session.Step.IsSilent, Action.payload]
  obtain ⟨whole, _⟩ := pairEcho.echo_mirrors _ echoing 0 steps silent
  exact ⟨echoing, silent, by decide +kernel, by decide +kernel, whole⟩

end StreamDispatch
