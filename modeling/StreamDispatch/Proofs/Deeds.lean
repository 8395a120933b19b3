import StreamDispatch.Proofs.Callbacks

/-! What application code does in a move of a unit. Its deeds are the actions of callbacks and
handlers, one after another; all else about a move is the unit's own. What has come about before a
deed or a move, neither takes back. -/
namespace StreamDispatch

variable {σ τ α : Type}

/-- What is seen of a session at a moment, whatever the state of its application. -/
abbrev Moment := Session Unit

def Session.moment (session : Session σ) : Moment := session.withState ()

/-- An action that somebody takes, and the moment it is taken at. -/
structure Deed where
  action : Action
  moment : Moment

namespace Deed

def result (deed : Deed) : Except Error Unit := (deed.moment.perform deed.action).1

def after (deed : Deed) : Moment := (deed.moment.perform deed.action).2

def paid (deed : Deed) : Bytes :=
  match deed.result with
  | .ok () => deed.action.payload
  | .error _ => []

end Deed

/-- An action fails and changes nothing, or what it does is written down. -/
theorem Session.perform_cases (session : Session σ) (action : Action) :
    (∃ error, action.apply session.channel = .error error ∧
        session.perform action = (.error error, session)) ∨
      ∃ channel, action.apply session.channel = .ok channel ∧
        session.perform action =
          (.ok (), { session with channel, journal := session.journal ++ action.events }) := by
  unfold Session.perform
  cases action.apply session.channel with
  | error fault => exact .inl ⟨fault, rfl, rfl⟩
  | ok channel => exact .inr ⟨channel, rfl, by cases action <;> simp [record, Action.events]⟩

/-- An action does the same whatever the state of the application. -/
theorem Session.perform_moment (session : Session σ) (action : Action) :
    session.moment.perform action =
      ((session.perform action).1, (session.perform action).2.moment) := by
  rcases session.perform_cases action with ⟨_, applied, same⟩ | ⟨_, applied, same⟩ <;>
    rcases session.moment.perform_cases action with ⟨_, again, other⟩ | ⟨_, again, other⟩ <;>
    rw [same, other]
  · cases applied.symm.trans again
    rfl
  · cases applied.symm.trans again
  · cases applied.symm.trans again
  · cases applied.symm.trans again
    rfl

namespace Deed

variable (deed : Deed)

theorem cases :
    (∃ error, deed.action.apply deed.moment.channel = .error error ∧ deed.result = .error error ∧
        deed.after = deed.moment) ∨
      ∃ channel, deed.action.apply deed.moment.channel = .ok channel ∧ deed.result = .ok () ∧
        deed.after = ⟨channel, (), deed.moment.journal ++ deed.action.events⟩ := by
  unfold result after
  rcases deed.moment.perform_cases deed.action with
    ⟨error, applied, same⟩ | ⟨channel, applied, same⟩
  · exact .inl ⟨error, applied, by rw [same], by rw [same]⟩
  · exact .inr ⟨channel, applied, by rw [same], by rw [same]⟩

theorem handled : deed.moment.Handled deed.after := deed.moment.perform_handled deed.action

theorem after_written : deed.after.journal.written = deed.moment.journal.written ++ deed.paid := by
  unfold paid
  rcases deed.cases with ⟨error, _, result, same⟩ | ⟨channel, _, result, same⟩ <;>
    rw [result, same]
  · exact (List.append_nil _).symm
  · rw [Journal.written_append]
    congr 1
    cases deed.action <;> simp [Action.events, Action.payload, Journal.written]

end Deed

/-! ### What application code does -/

/-- The actions that a program takes when it is run on a session, the first one first. -/
def Program.deeds : Program σ α → Session σ → List Deed
  | done _, _ | panic _, _ | hang, _ => []
  | look next, session => (next session.channel.view session.state).deeds session
  | keep state next, session => next.deeds { session with state }
  | note entry next, session => next.deeds (session.record (.noted entry))
  | act action next, session =>
    ⟨action, session.moment⟩ ::
      (next (session.perform action).1).deeds (session.perform action).2

namespace Handler

def itemDeeds : List (Handler σ) → Item → Session σ → List Deed
  | [], _, _ => []
  | handler :: rest, item, session =>
    (handler.onItem item).deeds session ++
      match (handler.onItem item).run session with
      | (.done (.ok (some next)), after) => itemDeeds rest next after
      | _ => []

def bufferDeeds : List (Handler σ) → Session (σ × Bytes) → List Deed
  | [], _ => []
  | handler :: rest, session =>
    handler.onBuffer.deeds session ++
      match handler.onBuffer.run session with
      | (.done (.ok .buffer), after) => bufferDeeds rest after
      | (.done (.ok (.item item)), after) =>
        itemDeeds rest item (after.withState after.state.1)
      | _ => []

end Handler

/-- The actions that application code takes on the way from a point of a unit to the next. -/
def Point.deeds (service : Service σ) : Point → Session σ → List Deed
  | .calling call, session =>
    (call.program service.callbacks).deeds (session.record call.event)
  | .offered buffer, session =>
    Handler.bufferDeeds service.handlers (session.withState (session.state, buffer))
  | _, _ => []

/-- What application code does from one moment to another: its deeds in their order, and notes. -/
inductive Conduct (origin : Moment) : List Deed → Moment → Prop where
  | nothing : Conduct origin [] origin
  | noted (entry : Note) (earlier : Conduct origin deeds moment) :
      Conduct origin deeds (moment.record (.noted entry))
  | acted (deed : Deed) (earlier : Conduct origin deeds deed.moment) :
      Conduct origin (deeds ++ [deed]) deed.after

namespace Conduct

variable {origin moment last : Moment} {deeds more : List Deed}

theorem single (deed : Deed) : Conduct deed.moment [deed] deed.after := .acted deed .nothing

theorem trans (first : Conduct origin deeds moment) (second : Conduct moment more last) :
    Conduct origin (deeds ++ more) last := by
  induction second with
  | nothing => simpa using first
  | noted entry _ ih => exact .noted entry ih
  | acted deed _ ih =>
    rw [← List.append_assoc]
    exact .acted deed ih

theorem alone (conduct : Conduct origin deeds moment) : Conduct origin (deeds ++ []) moment :=
  conduct.trans .nothing

theorem handled (conduct : Conduct origin deeds moment) : origin.Handled moment := by
  induction conduct with
  | nothing => exact .nothing
  | noted entry _ ih => exact .noted entry ih
  | acted deed _ ih => exact ih.trans deed.handled

theorem between (conduct : Conduct origin deeds moment) {deed : Deed} (member : deed ∈ deeds) :
    origin.Handled deed.moment ∧ deed.after.Handled moment := by
  induction conduct with
  | nothing => simp at member
  | noted entry _ ih => exact ⟨(ih member).1, .noted entry (ih member).2⟩
  | acted last earlier ih =>
    rcases List.mem_append.mp member with old | new
    · exact ⟨(ih old).1, (ih old).2.trans last.handled⟩
    · obtain rfl := List.mem_singleton.mp new
      exact ⟨earlier.handled, .nothing⟩

theorem ordered (conduct : Conduct origin deeds moment) :
    deeds.Pairwise fun first second => first.after.Handled second.moment := by
  induction conduct with
  | nothing => exact .nil
  | noted _ _ ih => exact ih
  | acted deed earlier ih =>
    refine List.pairwise_append.mpr ⟨ih, List.pairwise_singleton .., ?_⟩
    intro other old last new
    obtain rfl := List.mem_singleton.mp new
    exact (earlier.between old).2

/-- What notes keep and each deed keeps, all of it keeps. -/
theorem keeps (holds : Moment → Prop)
    (noted : ∀ moment entry, holds moment → holds (moment.record (.noted entry)))
    (conduct : Conduct origin deeds moment)
    (acted : ∀ deed ∈ deeds, holds deed.moment → holds deed.after) (start : holds origin) :
    holds moment := by
  induction conduct with
  | nothing => exact start
  | noted entry _ ih => exact noted _ entry (ih acted)
  | acted deed _ ih =>
    have before := ih fun other member => acted other (List.mem_append_left _ member)
    exact acted deed (by simp) before

/-- The payloads of the deeds that succeeded are written down, in the order of the deeds. -/
theorem written (conduct : Conduct origin deeds moment) :
    moment.journal.written = origin.journal.written ++ deeds.flatMap Deed.paid := by
  induction conduct with
  | nothing => simp
  | noted entry _ ih =>
    rw [← ih, Session.record, Journal.written_append]
    exact List.append_nil _
  | acted deed _ ih => rw [deed.after_written, ih]; simp

end Conduct

theorem Program.run_conduct (program : Program σ α) (session : Session σ) :
    Conduct session.moment (program.deeds session) (program.run session).2.moment := by
  induction program generalizing session with
  | done | panic | hang => exact .nothing
  | look next ih => exact ih _ _ session
  | keep state next ih => exact ih { session with state }
  | note entry next ih =>
    have noted : Conduct session.moment [] (session.record (.noted entry)).moment :=
      .noted entry .nothing
    exact noted.trans (ih _)
  | act action next ih =>
    have first := Conduct.single ⟨action, session.moment⟩
    rw [Deed.after, Session.perform_moment] at first
    exact first.trans (ih _ _)

namespace Handler

theorem runItems_conduct (handlers : List (Handler σ)) (item : Item) (session : Session σ) :
    Conduct session.moment (itemDeeds handlers item session)
      (runItems handlers item session).2.moment := by
  induction handlers generalizing item session with
  | nil => exact .nothing
  | cons handler rest ih =>
    have first := (handler.onItem item).run_conduct session
    rw [runItems, Run.bind_apply, itemDeeds]
    rcases ran : (handler.onItem item).run session with ⟨⟨_ | _ | next⟩ | _ | _, after⟩ <;>
      rw [ran] at first
    · exact first.alone
    · exact first.alone
    · exact first.trans (ih next after)
    · exact first.alone
    · exact first.alone

theorem runBuffer_conduct (handlers : List (Handler σ)) (session : Session (σ × Bytes)) :
    Conduct session.moment (bufferDeeds handlers session)
      (runBuffer handlers session).2.moment := by
  induction handlers generalizing session with
  | nil => exact .nothing
  | cons handler rest ih =>
    have first := handler.onBuffer.run_conduct session
    rw [runBuffer, Run.bind_apply, bufferDeeds]
    rcases ran : handler.onBuffer.run session with ⟨⟨_ | _ | _ | item⟩ | _ | _, after⟩ <;>
      rw [ran] at first
    · exact first.alone
    · exact first.alone
    · exact first.trans (ih after)
    · exact first.trans (runItems_conduct rest item (after.withState after.state.1))
    · exact first.alone
    · exact first.alone

end Handler

/-! ### What comes later -/

/-- No flag of the channel was taken back. -/
structure Channel.FlagsStay (before after : Channel) : Prop where
  opened : before.opened = true → after.opened = true
  closed : before.closed = true → after.closed = true
  closeRequested : before.closeRequested = true → after.closeRequested = true
  discard : before.discard = true → after.discard = true
  closeFired : before.closeFired = true → after.closeFired = true

namespace Channel.FlagsStay

variable {first second third : Channel}

theorem refl (channel : Channel) : channel.FlagsStay channel :=
  ⟨fun set => set, fun set => set, fun set => set, fun set => set, fun set => set⟩

theorem trans (left : first.FlagsStay second) (right : second.FlagsStay third) :
    first.FlagsStay third where
  opened := right.opened ∘ left.opened
  closed := right.closed ∘ left.closed
  closeRequested := right.closeRequested ∘ left.closeRequested
  discard := right.discard ∘ left.discard
  closeFired := right.closeFired ∘ left.closeFired

end Channel.FlagsStay

/-- A channel with its journal, and what has become of them later. Flags stay, the journal and what
has reached the peer only grow, and once the output side is given up nothing is written any more and
nothing more reaches the peer. -/
structure Onward (before : Channel) (start : Journal) (after : Channel) (last : Journal) :
    Prop where
  flags : before.FlagsStay after
  journal : start <+: last
  delivered : before.connection.delivered <+: after.connection.delivered
  silent : before.output = none → after.output = none ∧
    after.connection.delivered = before.connection.delivered ∧ last.written = start.written

def Session.Onward (before : Session σ) (after : Session τ) : Prop :=
  StreamDispatch.Onward before.channel before.journal after.channel after.journal

namespace Onward

variable {before middle after : Channel} {start journal last events : Journal}

theorem refl (channel : Channel) (journal : Journal) : Onward channel journal channel journal :=
  ⟨.refl channel, List.prefix_refl _, List.prefix_refl _, fun gone => ⟨gone, rfl, rfl⟩⟩

theorem trans (left : Onward before start middle journal)
    (right : Onward middle journal after last) : Onward before start after last where
  flags := left.flags.trans right.flags
  journal := left.journal.trans right.journal
  delivered := left.delivered.trans right.delivered
  silent := fun gone => by
    obtain ⟨still, same, written⟩ := left.silent gone
    obtain ⟨later, kept, wrote⟩ := right.silent still
    exact ⟨later, kept.trans same, wrote.trans written⟩

theorem extend (onward : Onward before start after journal) (none : events.written = []) :
    Onward before start after (journal ++ events) where
  flags := onward.flags
  journal := onward.journal.trans (List.prefix_append ..)
  delivered := onward.delivered
  silent := fun gone => by
    obtain ⟨still, same, written⟩ := onward.silent gone
    exact ⟨still, same, by rw [Journal.written_append, none, List.append_nil, written]⟩

/-- Whoever sends or flushes finds the output side there. -/
private theorem delivers {bytes kept : Bytes} (output : before.output = some kept)
    (held : Option Bytes) :
    Onward before start { before.deliver bytes with output := held } (start ++ events) where
  flags := { Channel.FlagsStay.refl before with }
  journal := List.prefix_append ..
  delivered := List.prefix_append ..
  silent := fun gone => by simp [output] at gone

theorem applied {action : Action} (applied : action.apply before = .ok after) :
    Onward before start after (start ++ action.events) := by
  cases action with
  | send data =>
    obtain ⟨_, held, output, rfl⟩ := Channel.send_ok applied
    exact delivers output _
  | flush =>
    obtain ⟨_, held, output, rfl⟩ := Channel.flush_ok applied
    exact delivers output _
  | sendAndFlush data =>
    obtain ⟨_, held, output, rfl⟩ := Channel.sendAndFlush_ok applied
    exact delivers output _
  | close =>
    obtain rfl := Except.ok.inj applied
    refine extend ?_ rfl
    cases closed : before.closed with
    | true => rw [Channel.close_of_closed closed]; exact refl ..
    | false =>
      rw [Channel.close_of_open closed]
      exact
        { flags := { Channel.FlagsStay.refl before with closed := fun _ => rfl }
          journal := List.prefix_refl _
          delivered := List.prefix_append ..
          silent := fun gone => ⟨rfl, by simp [Channel.deliver, gone], rfl⟩ }
  | closeNow =>
    obtain rfl := Except.ok.inj applied
    refine extend ?_ rfl
    cases closed : before.closed with
    | true =>
      rw [Channel.closeNow_of_closed closed]
      exact { refl before start with
        flags := { Channel.FlagsStay.refl before with discard := fun _ => rfl } }
    | false =>
      rw [Channel.closeNow_of_open closed]
      exact
        { flags := { Channel.FlagsStay.refl before with
            discard := fun _ => rfl
            closed := fun _ => rfl }
          journal := List.prefix_refl _
          delivered := List.prefix_refl _
          silent := fun _ => ⟨rfl, rfl, rfl⟩ }

theorem handled (work : Handled before start after last) : Onward before start after last := by
  induction work with
  | nothing => exact refl ..
  | noted entry _ ih => exact ih.extend rfl
  | acted action applied _ ih => exact ih.trans (Onward.applied applied)

end Onward

theorem Session.Handled.onward {before : Session σ} {after : Session τ}
    (work : before.Handled after) : before.Onward after := Onward.handled work

namespace Session.Onward

theorem refl (session : Session σ) : session.Onward session := StreamDispatch.Onward.refl ..

theorem trans {υ : Type} {first : Session σ} {second : Session τ} {third : Session υ}
    (left : first.Onward second) (right : second.Onward third) : first.Onward third :=
  StreamDispatch.Onward.trans left right

end Session.Onward

theorem Run.attempt_session (work : Run σ α) (session : Session σ) :
    (Run.attempt work session).2 = (work session).2 := by
  unfold Run.attempt
  split <;> rename_i ran <;> rw [ran]

theorem Run.lend_moment (buffer : Bytes) (work : Run (σ × Bytes) α) (session : Session σ) :
    (Run.lend buffer work session).2.moment =
      (work (session.withState (session.state, buffer))).2.moment := by
  unfold Run.lend
  split <;> rename_i ran <;> rw [ran] <;> rfl

/-- Two channels that differ at most in their inward side and in marks that were set. -/
structure Channel.SameOutward (before after : Channel) : Prop where
  flags : before.FlagsStay after
  delivered : after.connection.delivered = before.connection.delivered
  output : after.output = before.output
  discard : after.discard = before.discard

theorem Channel.SameOutward.refl (channel : Channel) : channel.SameOutward channel :=
  ⟨.refl channel, rfl, rfl, rfl⟩

/-- What a unit does to a channel and its journal by itself, without application code: nothing is
written, and no output is marked as dropped. -/
structure Tended (before : Channel) (start : Journal) (after : Channel) (last : Journal) :
    Prop where
  onward : Onward before start after last
  written : last.written = start.written
  discard : after.discard = before.discard

def Session.Tended (before : Session σ) (after : Session τ) : Prop :=
  StreamDispatch.Tended before.channel before.journal after.channel after.journal

namespace Tended

variable {before after : Channel} {start last events : Journal}

theorem of_same (same : before.SameOutward after) (none : events.written = []) :
    Tended before start after (start ++ events) where
  onward :=
    { flags := same.flags
      journal := List.prefix_append ..
      delivered := same.delivered.symm ▸ List.prefix_refl _
      silent := fun gone => ⟨same.output.trans gone, same.delivered,
        by rw [Journal.written_append, none, List.append_nil]⟩ }
  written := by rw [Journal.written_append, none, List.append_nil]
  discard := same.discard

theorem refl (channel : Channel) (journal : Journal) : Tended channel journal channel journal :=
  ⟨.refl .., rfl, rfl⟩

theorem release (channel : Channel) (journal : Journal) :
    Tended channel journal channel.release journal := by
  rw [Channel.release_eq]
  exact
    { onward :=
        { flags := { Channel.FlagsStay.refl channel with closed := fun _ => rfl }
          journal := List.prefix_refl _
          delivered := List.prefix_append ..
          silent := fun gone => ⟨rfl, by simp [Channel.deliver, gone], rfl⟩ }
      written := rfl
      discard := rfl }

theorem mark (call : Call) (channel : Channel) (journal : Journal) :
    Tended channel journal (call.mark channel) journal := by
  have still := Channel.SameOutward.refl channel
  have same : channel.SameOutward (call.mark channel) := by
    cases call with
    | opening => exact { still with flags := { still.flags with opened := fun _ => rfl } }
    | closing _ => exact { still with flags := { still.flags with closeFired := fun _ => rfl } }
    | idle _ | fed _ | report _ _ => exact still
  have tended : Tended channel journal (call.mark channel) (journal ++ []) := of_same same rfl
  rwa [List.append_nil] at tended

end Tended

theorem Session.record_tended (session : Session σ) (call : Call) :
    session.Tended (session.record call.event) :=
  Tended.of_same (.refl _) (by cases call <;> rfl)

namespace Service

variable {service : Service σ} {session after : Session σ} {buffer rest : Bytes}

theorem chain_tended {result : Except Error Unit}
    (ran : service.chain buffer session = (.done (result, rest), after)) :
    (Handler.runBuffer service.handlers
      (session.withState (session.state, buffer))).2.moment.Tended after := by
  obtain ⟨_, middle, lent, _, grown, channel⟩ := Service.chain_after ran
  rw [← Run.lend_moment, lent]
  have still := Channel.SameOutward.refl middle.channel
  rw [Session.Tended, grown]
  refine Tended.of_same ?_ rfl
  rcases channel with ⟨_, same⟩ | ⟨_, _, _, same⟩ <;> rw [same]
  · exact still
  · exact { still with flags := { still.flags with closeRequested := fun _ => rfl } }

/-- A chain that never comes back leaves the session where its stages came to. -/
theorem chain_hung_moment (ran : service.chain buffer session = (.hung, after)) :
    after.moment = (Handler.runBuffer service.handlers
      (session.withState (session.state, buffer))).2.moment := by
  rw [← Run.lend_moment]
  unfold chain at ran
  rw [Run.bind_apply] at ran
  rcases lent : Run.lend buffer (Handler.runBuffer service.handlers) session with
    ⟨⟨_ | _, _⟩ | _ | _, middle⟩ <;> rw [lent] at ran
  · simp [Run.bind_apply, Run.record, requestClose, Run.update, Run.pure_apply] at ran
  · simp [Run.bind_apply, Run.record, Run.pure_apply] at ran
  · simp at ran
  · rw [(Prod.mk.inj ran).2]

end Service

namespace Move

variable {service : Service σ} {point next : Point} {session after : Session σ}

/-- A move without application code, followed by no deeds. -/
private theorem conduct_alone (none : point.deeds service session = [])
    (tended : session.Tended after) :
    ∃ start finish : Moment, session.Tended start ∧
      Conduct start (point.deeds service session) finish ∧ finish.Tended after := by
  rw [none]
  exact ⟨session.moment, session.moment, .refl .., .nothing, tended⟩

/-- A move is the unit's own but for the deeds of application code in the middle of it. -/
theorem conduct (move : Move service point session next after) :
    ∃ start finish : Moment, session.Tended start ∧
      Conduct start (point.deeds service session) finish ∧ finish.Tended after := by
  have still := Channel.SameOutward.refl session.channel
  cases move with
  | opens | idles | overflows => exact conduct_alone rfl (.refl ..)
  | closes => exact conduct_alone rfl (.release ..)
  | reads _ found =>
    obtain ⟨_, _, _, _, rfl⟩ := Channel.probe_data found
    exact conduct_alone rfl (.of_same { still with flags := { still.flags with } } rfl)
  | joins placed =>
    obtain ⟨same, grown⟩ := Service.place_after placed
    refine conduct_alone rfl ?_
    simp only [Session.Tended, Session.updateChannel, same, grown]
    exact .of_same { still with flags := { still.flags with } } (Placement.written_events _)
  | keeps placed =>
    obtain ⟨same, grown⟩ := Service.place_after placed
    refine conduct_alone rfl ?_
    simp only [Session.Tended, Session.updateChannel, same, grown]
    refine .of_same { still with flags := ?_ } (Placement.written_events _)
    exact { still.flags with closeRequested := fun set => by simp [Channel.keep, set] }
  | joinFails placed | keepFails placed =>
    obtain ⟨same, grown⟩ := Service.place_after placed
    refine conduct_alone rfl ?_
    rw [Session.Tended, same, grown]
    exact .of_same still (Placement.written_events _)
  | @runs buffer _ _ result rest ran =>
    exact ⟨session.moment, _, .refl .., Handler.runBuffer_conduct service.handlers
      (session.withState (session.state, buffer)), Service.chain_tended ran⟩
  | @runHangs buffer _ _ ran =>
    have work := Handler.runBuffer_conduct service.handlers
      (session.withState (session.state, buffer))
    rw [← Service.chain_hung_moment ran] at work
    exact ⟨session.moment, after.moment, .refl .., work, .refl ..⟩
  | calls call ran =>
    have work := (call.program service.callbacks).run_conduct (session.record call.event)
    rw [← Run.attempt_session, ran] at work
    exact ⟨(session.record call.event).moment, _, session.record_tended call, work, .mark ..⟩
  | callHangs call ran =>
    have work := (call.program service.callbacks).run_conduct (session.record call.event)
    rw [← Run.attempt_session, ran] at work
    exact ⟨(session.record call.event).moment, _, session.record_tended call, work, .refl ..⟩

theorem onward (move : Move service point session next after) : session.Onward after := by
  obtain ⟨start, finish, before, conduct, behind⟩ := move.conduct
  exact (before.onward.trans conduct.handled.onward).trans behind.onward

theorem deeds_onward (move : Move service point session next after) {deed : Deed}
    (member : deed ∈ point.deeds service session) :
    session.Onward deed.moment ∧ deed.after.Onward after := by
  obtain ⟨start, finish, before, conduct, behind⟩ := move.conduct
  obtain ⟨first, last⟩ := conduct.between member
  exact ⟨before.onward.trans first.onward, last.onward.trans behind.onward⟩

theorem written (move : Move service point session next after) :
    after.journal.written =
      session.journal.written ++ (point.deeds service session).flatMap Deed.paid := by
  obtain ⟨start, finish, before, conduct, behind⟩ := move.conduct
  rw [behind.written, conduct.written, before.written]

/-- What a session is like determines its next move. -/
theorem unique {other : Point} {last : Session σ} (first : Move service point session next after)
    (second : Move service point session other last) : other = next ∧ last = after := by
  cases first <;> cases second <;> simp_all

end Move

theorem Course.onward {service : Service σ} {point last : Point} {session after : Session σ}
    (course : Course service point session last after) : session.Onward after := by
  induction course with
  | rest => exact .refl _
  | move first _ ih => exact first.onward.trans ih

end StreamDispatch
