import StreamDispatch.Proofs.Deeds
import StreamDispatch.Proofs.Delivery
import StreamDispatch.Proofs.Outline

/-! Chains that begin with framing. A chain run cuts its buffer and hands the frames on to the later
stages, if there are any; whatever these do, the rest is what the cut left. So all that was handed
on, and what is pending, are the cut of what was read. -/
namespace StreamDispatch

variable {σ α : Type}

namespace Framing

variable {framing : Framing} {events : Journal}

/-- The frames that chain runs behind the framing were handed, in order. -/
def handed (framing : Framing) (journal : Journal) : List Bytes :=
  journal.flatMap fun event => match event with
    | .chained offered _ _ => (framing.cut offered).frames
    | _ => []

@[simp] theorem handed_append (journal events : Journal) :
    framing.handed (journal ++ events) = framing.handed journal ++ framing.handed events := by
  simp [handed]

theorem handed_outline (journal : Journal) :
    framing.handed journal.outline = framing.handed journal :=
  Journal.flatMap_outline _
    (fun event own => by cases event <;> first | rfl | simp [Event.isOwn] at own) _

theorem handed_of_outline {before after : Journal}
    (grown : after.outline = before.outline ++ events) :
    framing.handed after = framing.handed before ++ framing.handed events := by
  rw [← handed_outline, grown, handed_append, handed_outline]

theorem handed_told (framing : Framing) (call : Call) (bufferSize : Nat) :
    framing.handed (call.told bufferSize) = [] := by
  cases call with
  | fed left =>
    simp only [Call.told]
    split <;> rfl
  | opening | idle _ | closing _ | report _ _ => rfl

theorem handed_own (own : ∀ event ∈ events, event.isOwn = true) : framing.handed events = [] :=
  Journal.flatMap_own _
    (fun event mine => by cases event <;> first | rfl | simp [Event.isOwn] at mine) own

end Framing

/-! ### A run of the chain -/

namespace Service

variable {service : Service σ} {framing : Framing} {later : List (Handler σ)}
  {session after : Session σ} {buffer rest : Bytes} {result : Except Error Unit}

/-- The later stages are given frames, and so much is left of the buffer whatever they do. -/
def handOn (later : List (Handler σ)) (buffer rest : Bytes) (frames : List Bytes) :
    Run σ (Except Error Unit × Bytes) := fun session =>
  match Handler.runItems later (.frames frames) session with
  | (.done result, after) =>
    (.done (result, rest), after.record (.chained buffer rest (fault? result)))
  | (.panicked payload, after) =>
    (.done (.error (.panic payload), rest),
      (after.record (.chained buffer rest (some (.panic payload)))).request)
  | (.hung, after) => (.hung, after)

/-- A chain that begins with framing fails with it, ends with it, or hands its frames on. -/
theorem chain_first (first : service.handlers = framing.handler :: later) (buffer : Bytes)
    (session : Session σ) :
    service.chain buffer session =
      match framing.decode buffer with
      | (.error fault, rest) => (.done (.error (.frame fault), rest),
          session.record (.chained buffer rest (some (.frame fault))))
      | (.ok [], rest) => (.done (.ok (), rest), session.record (.chained buffer rest none))
      | (.ok frames, rest) => handOn later buffer rest frames session := by
  rw [chain, Run.bind_apply, Run.lend, first, Handler.runBuffer, Run.bind_apply,
    framing.handler_run]
  simp only [Session.withState]
  rcases framing.decode buffer with ⟨fault | _ | ⟨frame, frames⟩, rest⟩
  · rfl
  · rfl
  · simp only [Framing.verdict, Run.beside, handOn, Session.withState]
    rcases Handler.runItems later (.frames (frame :: frames)) session with
      ⟨_ | _ | _, middle⟩ <;> rfl

theorem chain_tooLong (first : service.handlers = framing.handler :: later) {length : Nat}
    (bad : framing.front buffer = .tooLong length) (session : Session σ) :
    service.chain buffer session = (.done (.error (.frame (.tooLong length)), buffer),
      session.record (.chained buffer buffer (some (.frame (.tooLong length))))) := by
  have cut := Framing.cut_of_stop (Framing.stops_of_tooLong bad)
  have decoded : framing.decode buffer = (.error (.tooLong length), buffer) := by
    rw [Framing.decode, cut, bad]
  rw [chain_first first, decoded]

/-- A run that is over leaves the rest of the cut. -/
theorem chain_rest (first : service.handlers = framing.handler :: later)
    (ran : service.chain buffer session = (.done (result, rest), after)) :
    rest = (framing.cut buffer).rest := by
  have left := framing.decode_rest buffer
  rw [chain_first first] at ran
  rcases decoded : framing.decode buffer with ⟨fault | _ | ⟨frame, frames⟩, other⟩ <;>
    rw [decoded] at ran left <;> subst left
  · exact (Prod.mk.inj (Outcome.done.inj (Prod.mk.inj ran).1)).2.symm
  · exact (Prod.mk.inj (Outcome.done.inj (Prod.mk.inj ran).1)).2.symm
  · simp only [handOn] at ran
    split at ran
    · exact (Prod.mk.inj (Outcome.done.inj (Prod.mk.inj ran).1)).2.symm
    · exact (Prod.mk.inj (Outcome.done.inj (Prod.mk.inj ran).1)).2.symm
    · simp at ran

theorem chain_hangs (first : service.handlers = framing.handler :: later)
    (ran : service.chain buffer session = (.hung, after)) : (framing.cut buffer).frames ≠ [] := by
  intro none
  rw [chain_first first] at ran
  rcases decoded : framing.decode buffer with ⟨fault | frames, other⟩ <;> rw [decoded] at ran
  · simp at ran
  · have same := Framing.decode_ok (by rw [decoded])
    rw [same, none] at ran
    simp at ran

end Service

/-! ### What is handed on and what is pending -/

/-- Between units of work, all that was handed on and what is pending are the cut of what was read.
-/
structure Session.Sliced (framing : Framing) (limit : Nat) (session : Session σ) : Prop where
  whole : session.journal.received ++ session.channel.connection.unread = session.journal.sent
  cut : framing.cut session.journal.received =
    ⟨framing.handed session.journal, session.channel.pending,
      framing.front session.channel.pending⟩
  fits : session.channel.pending.length ≤ limit
  unopened : session.channel.opened = false → session.channel.pending = []

/-- A session behind framing: sliced, or left by a chain that hangs over the frames it was handed.
-/
inductive Session.Framed (framing : Framing) (limit : Nat) (session : Session σ) : Prop where
  | free (free : session.channel.locked = false) (sliced : session.Sliced framing limit)
  | hung (held : session.channel.locked = true)
      (handed : (framing.cut session.channel.pending).frames ≠ [])

namespace Session.Sliced

variable {framing : Framing} {limit : Nat} {session after : Session σ} {events : Journal}

theorem stops (sliced : session.Sliced framing limit) :
    framing.Stops session.channel.pending := by
  have stops := framing.stops_rest session.journal.received
  rwa [sliced.cut] at stops

theorem extend (sliced : session.Sliced framing limit)
    (outline : after.journal.outline = session.journal.outline ++ events)
    (received : events.received = []) (unrun : framing.handed events = [])
    (unread : after.channel.connection.unread =
      session.channel.connection.unread ++ events.sent)
    (pending : after.channel.pending = session.channel.pending)
    (unopened : after.channel.opened = false → session.channel.opened = false) :
    after.Sliced framing limit := by
  have received' : after.journal.received = session.journal.received := by
    rw [Journal.received_of_outline outline, received, List.append_nil]
  have handed' : framing.handed after.journal = framing.handed session.journal := by
    rw [Framing.handed_of_outline outline, unrun, List.append_nil]
  constructor
  · rw [received', Journal.sent_of_outline outline, unread, ← sliced.whole, List.append_assoc]
  · rw [received', handed', pending, sliced.cut]
  · rw [pending]
    exact sliced.fits
  · intro closed
    rw [pending]
    exact sliced.unopened (unopened closed)

/-- A run of the chain hands on what it cuts off, and leaves the rest. -/
theorem read (sliced : session.Sliced framing limit) {fresh unread : Bytes}
    (outline : after.journal.outline = session.journal.outline ++ events)
    (sent : events.sent = []) (received : events.received = fresh)
    (ran : framing.handed events = (framing.cut (session.channel.pending ++ fresh)).frames)
    (taken : fresh ++ unread = session.channel.connection.unread)
    (left : after.channel.connection.unread = unread)
    (rest : after.channel.pending = (framing.cut (session.channel.pending ++ fresh)).rest)
    (room : fresh.length ≤ limit - session.channel.pending.length)
    (opened : after.channel.opened = true) : after.Sliced framing limit := by
  have cut := framing.cut_append session.journal.received fresh
  have stop := (framing.front_rest (session.channel.pending ++ fresh)).1
  have short := (framing.rest_suffix (session.channel.pending ++ fresh)).length_le
  have fits := sliced.fits
  rw [sliced.cut] at cut
  constructor
  · rw [Journal.received_of_outline outline, Journal.sent_of_outline outline, sent, received, left,
      List.append_assoc, taken, sliced.whole, List.append_nil]
  · rw [Journal.received_of_outline outline, Framing.handed_of_outline outline, received, ran, cut,
      rest, stop]
  · rw [rest]
    rw [List.length_append] at short
    omega
  · intro unopened
    simp [opened] at unopened

end Session.Sliced

namespace Session.Framed

variable {service : Service σ} {framing : Framing} {later : List (Handler σ)}
  {session after : Session σ} {events : Journal}

theorem works (first : service.handlers = framing.handler :: later)
    (outline : after.journal.outline = session.journal.outline ++ events)
    (works : session.Works service events after.channel.locked after.channel.inner)
    (sliced : session.Sliced framing service.bufferSize) :
    after.Framed framing service.bufferSize := by
  generalize held : after.channel.locked = locked at works
  generalize same : after.channel.inner = inner at works
  cases works with
  | opens unopened | closes opened found | waits opened found | overflows opened found =>
    have unread := (congrArg Channel.Inner.unread same).trans (List.append_nil _).symm
    have pending := congrArg Channel.Inner.pending same
    have opened' := congrArg Channel.Inner.opened same
    refine .free held (sliced.extend outline rfl rfl unread pending fun closed => ?_)
    simp_all [Channel.inner]
  | @reads fresh unread rest result asked middle chained opened found taken ran cause =>
    obtain rfl := Service.chain_rest first ran
    obtain ⟨sent, received⟩ := (Call.ofResult (framing.cut _).rest result).told_silent
      service.bufferSize
    refine .free held (sliced.read outline ?_ ?_ ?_ taken (congrArg Channel.Inner.unread same)
      (congrArg Channel.Inner.pending same) (Channel.probe_fresh found).2.2.2 ?_)
    · rw [Journal.sent_append, sent]
      rfl
    · rw [Journal.received_append, received]
      simp [Journal.received]
    · rw [Framing.handed_append, Framing.handed_told]
      simp [Framing.handed]
    · exact (congrArg Channel.Inner.opened same).trans opened
  | hangs opened found taken ran =>
    have pending := congrArg Channel.Inner.pending same
    refine .hung held ?_
    rw [show after.channel.pending = _ from pending]
    exact Service.chain_hangs first ran

theorem outside (framed : session.Framed framing service.bufferSize)
    (outline : after.journal.outline = session.journal.outline ++ events)
    (received : events.received = []) (unrun : framing.handed events = [])
    (locked : after.channel.locked = session.channel.locked)
    (unread : after.channel.connection.unread =
      session.channel.connection.unread ++ events.sent)
    (pending : after.channel.pending = session.channel.pending)
    (opened : after.channel.opened = session.channel.opened) :
    after.Framed framing service.bufferSize := by
  cases framed with
  | free free sliced =>
    exact .free (locked.trans free) (sliced.extend outline received unrun unread pending
      fun unopened => opened.symm.trans unopened)
  | hung held handed => exact .hung (locked.trans held) (by rwa [pending])

theorem takenUp (framed : session.Framed framing service.bufferSize) (closing : Bool) :
    (session.takenUp closing).Framed framing service.bufferSize := by
  cases closing with
  | false => exact framed
  | true =>
    exact framed.outside (List.append_nil _).symm rfl rfl rfl (List.append_nil _).symm rfl rfl

theorem step (first : service.handlers = framing.handler :: later) (reliable : service.Reliable)
    (framed : session.Framed framing service.bufferSize) (step : Session.Step) :
    (session.step service step).Framed framing service.bufferSize := by
  obtain ⟨events, outline, steps⟩ := session.step_steps reliable step
  cases steps with
  | refuses _ same | gone _ same =>
    rw [same]
    exact framed
  | @arrives bytes more locked inner =>
    refine framed.outside outline rfl rfl locked ?_ (congrArg Channel.Inner.pending inner)
      (congrArg Channel.Inner.opened inner)
    refine (congrArg Channel.Inner.unread inner).trans ?_
    simp [Journal.sent]
  | ends locked inner | breaks locked inner | acts locked inner =>
    exact framed.outside outline rfl rfl locked
      ((congrArg Channel.Inner.unread inner).trans (List.append_nil _).symm)
      (congrArg Channel.Inner.pending inner) (congrArg Channel.Inner.opened inner)
  | busy _ held same =>
    rw [same]
    exact framed.takenUp _
  | works unfired free works =>
    rename_i closing
    have taken := framed.takenUp closing
    have journal : (session.takenUp closing).journal = session.journal := by
      cases closing <;> rfl
    have locked : (session.takenUp closing).channel.locked = false := by
      cases closing <;> exact free
    cases taken with
    | free _ sliced => exact Framed.works first (journal ▸ outline) works sliced
    | hung held _ => simp [locked] at held

theorem live (first : service.handlers = framing.handler :: later) (reliable : service.Reliable)
    (framed : session.Framed framing service.bufferSize) (steps : List Session.Step) :
    (session.live service steps).Framed framing service.bufferSize :=
  session.live_keeps (fun session => session.Framed framing service.bufferSize)
    (fun _ next framed => step first reliable framed next) framed steps

theorem fresh (service : Service σ) (framing : Framing) (id : Nat) :
    (service.session id).Framed framing service.bufferSize := by
  refine .free rfl ⟨rfl, ?_, Nat.zero_le _, fun _ => rfl⟩
  have nothing : (service.session id).journal.received = [] := rfl
  have pending : (service.session id).channel.pending = [] := rfl
  rw [nothing, pending, Framing.cut_nil, Framing.front_nil]
  rfl

end Session.Framed

/-! ### What a recorder writes down -/

/-- The program writes no frames down, whatever else it does. -/
def Program.WritesNoFrames : Program σ α → Prop
  | .done _ | .panic _ | .hang => True
  | .look next => ∀ view state, (next view state).WritesNoFrames
  | .keep _ next => next.WritesNoFrames
  | .note entry next => (∀ frames, entry ≠ .frames frames) ∧ next.WritesNoFrames
  | .act _ next => ∀ result, (next result).WritesNoFrames

theorem Session.perform_frames (session : Session σ) (action : Action) :
    (session.perform action).2.journal.frames = session.journal.frames := by
  unfold perform
  cases action.apply session.channel with
  | error fault => rfl
  | ok after => cases action <;> simp [record, Journal.frames]

theorem Program.WritesNoFrames.run {program : Program σ α} (quiet : program.WritesNoFrames)
    (session : Session σ) : (program.run session).2.journal.frames = session.journal.frames := by
  induction program generalizing session with
  | done | panic | hang => rfl
  | look next ih => exact ih _ _ (quiet session.channel.view session.state) session
  | keep state next ih => exact ih quiet { session with state }
  | note entry next ih =>
    refine (ih quiet.2 (session.record (.noted entry))).trans ?_
    cases entry with
    | frames list => exact absurd rfl (quiet.1 list)
    | bytes | seen | number | text => simp [Session.record, Journal.frames]
  | act action next ih =>
    exact (ih _ (quiet _) (session.perform action).2).trans (session.perform_frames action)

/-- Behind framing a recorder writes down what it is handed, and nothing else writes frames down. -/
structure Service.WritesHanded (service : Service σ) (framing : Framing) : Prop where
  chain : ∃ recorder others, Handler.Records recorder ∧
    service.handlers = framing.handler :: recorder :: others
  quiet : ∀ call : Call, (call.program service.callbacks).WritesNoFrames

namespace Service.WritesHanded

variable {service : Service σ} {framing : Framing} {session after : Session σ}

/-- The frames that were written down are those that were handed on. -/
def Holds (framing : Framing) (session : Session σ) : Prop :=
  session.journal.frames = framing.handed session.journal

theorem Holds.extend {events : Journal} (holds : Holds framing session)
    (grown : after.journal = session.journal ++ events)
    (same : events.frames = framing.handed events) : Holds framing after := by
  rw [Holds, grown, Journal.frames_append, Framing.handed_append, same, holds]

theorem Holds.extend_own {events : Journal} (holds : Holds framing session)
    (grown : after.journal = session.journal ++ events)
    (own : ∀ event ∈ events, event.isOwn = true) (none : events.frames = []) :
    Holds framing after :=
  holds.extend grown (none.trans (Framing.handed_own own).symm)

/-- A run of the chain writes down what it hands on, leaves the rest and does nothing else. It
succeeds if nothing but an unfinished frame stops the cut. -/
theorem chain_apply (writes : service.WritesHanded framing) (buffer : Bytes)
    (session : Session σ) :
    ∃ result, service.chain buffer session =
        (.done (result, (framing.cut buffer).rest), { session with
          journal := session.journal ++ Recording.noted (framing.cut buffer).frames ++
            [.chained buffer (framing.cut buffer).rest (fault? result)] }) ∧
      ((framing.cut buffer).stop = .incomplete → result = .ok ()) := by
  obtain ⟨recorder, others, records, first⟩ := writes.chain
  have left := framing.decode_rest buffer
  rw [chain_first first]
  rcases decoded : framing.decode buffer with ⟨fault | frames, rest⟩ <;> rw [decoded] at left <;>
    subst left
  · have failed : (framing.decode buffer).1 = .error fault := by rw [decoded]
    obtain ⟨none, _, stop, _⟩ := Framing.decode_error_iff.mp failed
    refine ⟨.error (.frame fault), ?_, fun unfinished => ?_⟩
    · rw [none, Recording.noted, List.append_nil]
      rfl
    · simp [stop] at unfinished
  · have same := Framing.decode_ok (by rw [decoded])
    refine ⟨.ok (), ?_, fun _ => rfl⟩
    rw [← same]
    cases frames with
    | nil =>
      rw [Recording.noted, List.append_nil]
      rfl
    | cons frame frames =>
      simp only [handOn, Recording.runItems_recorded records]
      rfl

theorem chain_holds (writes : service.WritesHanded framing) {buffer : Bytes}
    {outcome : Outcome (Except Error Unit × Bytes)}
    (ran : service.chain buffer session = (outcome, after)) (holds : Holds framing session) :
    Holds framing after := by
  obtain ⟨result, same, _⟩ := writes.chain_apply buffer session
  obtain ⟨_, rfl⟩ := Prod.mk.inj (ran.symm.trans same)
  refine holds.extend (List.append_assoc ..) ?_
  rw [Journal.frames_append, Recording.frames_noted, Framing.handed_append,
    Framing.handed_own (Recording.noted_own _)]
  simp [Framing.handed, Journal.frames]

theorem move (writes : service.WritesHanded framing) {point next : Point}
    (move : Move service point session next after) (holds : Holds framing session) :
    Holds framing after := by
  have called (call : Call) {outcome : Outcome (Except Panic Unit)} {last : Session σ}
      (ran : Run.attempt (call.program service.callbacks).run (session.record call.event) =
        (outcome, last)) : Holds framing last := by
    have quiet := (writes.quiet call).run (session.record call.event)
    rw [← Run.attempt_session, ran] at quiet
    obtain ⟨events, grown, own⟩ := (Run.attempt_handled ran).grows
    have told : Holds framing (session.record call.event) :=
      holds.extend rfl (by cases call <;> rfl)
    refine told.extend_own grown own ?_
    rw [grown, Journal.frames_append] at quiet
    exact List.append_right_eq_self.mp quiet
  cases move with
  | opens | closes | idles | overflows => exact holds
  | reads => exact holds.extend rfl rfl
  | joins placed | joinFails placed | keeps placed | keepFails placed =>
    exact holds.extend_own (Service.place_after placed).2 (Placement.events_own _)
      (Placement.frames_events _)
  | runs ran | runHangs ran => exact chain_holds writes ran holds
  | calls call ran =>
    have kept := called call ran
    exact kept
  | callHangs call ran => exact called call ran

theorem step (writes : service.WritesHanded framing) (session : Session σ) (step : Session.Step)
    (holds : Holds framing session) : Holds framing (session.step service step) := by
  apply Session.step_keeps (Holds framing)
  · exact fun session bytes _ holds => holds.extend rfl rfl
  · exact fun session holds => holds.extend rfl rfl
  · exact fun _ holds => holds
  · intro session action holds
    obtain ⟨events, grown, own⟩ := (session.perform_handled action).grows
    refine holds.extend_own grown own ?_
    have same := session.perform_frames action
    rw [grown, Journal.frames_append] at same
    exact List.append_right_eq_self.mp same
  · exact fun session holds => holds
  · intro session _ _ holds
    exact session.work_keeps (Holds framing) (fun _ => Holds framing) (fun holds => holds)
      (fun first => move writes first) (fun _ holds => holds) (fun _ holds => holds) holds
  · exact holds

/-- In every life the frames that were written down are those that were handed on. -/
theorem frames_handed (writes : service.WritesHanded framing) (id : Nat)
    (steps : List Session.Step) :
    ((service.session id).live service steps).journal.frames =
      framing.handed ((service.session id).live service steps).journal := by
  have fresh : Holds framing (service.session id) := rfl
  exact Session.live_keeps (Holds framing) (step writes) fresh steps

end Service.WritesHanded

end StreamDispatch
