import StreamDispatch.Proofs.Handing
import StreamDispatch.Proofs.Parsing

/-! A length out of range. Once it stands in front of what is pending it stays there: nothing is
handed on any more and nothing is consumed, every read fails with it, and when the buffer is full
the channel is closed with all of it. -/
namespace StreamDispatch

variable {σ : Type}

def Service.withLater (framing : Framing) (others : List (Handler σ)) (service : Service σ) :
    Service σ :=
  { service with handlers := framing.handler :: others }

/-- A length out of range stands in front of what is pending on a channel that is not busy. -/
structure Session.Poisoned (framing : Framing) (length : Nat) (session : Session σ) : Prop where
  bad : framing.front session.channel.pending = .tooLong length
  free : session.channel.locked = false
  opened : session.channel.opened = true

theorem Framing.tooLong_append {framing : Framing} {bytes : Bytes} {length : Nat}
    (bad : framing.front bytes = .tooLong length) (fresh : Bytes) :
    framing.front (bytes ++ fresh) = .tooLong length := by
  rw [front_append (by simp [bad]), bad]

namespace Session.Poisoned

/-- What a step comes to on a poisoned channel, with the outline of what it leaves in the journal.
-/
inductive Takes (limit length : Nat) (before after : Session σ) : Step → Journal → Prop where
  | apart {step : Step} {events : Journal} (outside : ∀ closing, step ≠ .visit closing)
      (silent : events = [] ∨ (∃ bytes, events = [.arrived bytes]) ∨ events = [.ended])
      (pending : after.channel.pending = before.channel.pending)
      (asked : after.channel.closeRequested = before.channel.closeRequested)
      (fired : after.channel.closeFired = before.channel.closeFired) :
      Takes limit length before after step events
  | gone {closing : Bool} (fired : before.channel.closeFired = true) (same : after = before) :
      Takes limit length before after (.visit closing) []
  | closes {closing : Bool} (unfired : before.channel.closeFired = false)
      (pending : after.channel.pending = before.channel.pending)
      (fired : after.channel.closeFired = true) :
      Takes limit length before after (.visit closing) [.closed before.channel.pending]
  | waits (unfired : before.channel.closeFired = false)
      (unasked : before.channel.closeRequested = false)
      (nothing : limit ≤ before.channel.pending.length ∨ before.channel.connection.unread = [])
      (same : after.channel.inner = before.channel.inner) :
      Takes limit length before after (.visit false) [.looped false before.channel.pending]
  /-- A visit that finds new bytes puts them behind the others and reports the length, once and
  alone. -/
  | reads {fresh : Bytes} (unfired : before.channel.closeFired = false)
      (unasked : before.channel.closeRequested = false) (brought : fresh ≠ [])
      (pending : after.channel.pending = before.channel.pending ++ fresh)
      (asked : after.channel.closeRequested = decide (limit ≤ after.channel.pending.length))
      (still : after.channel.closeFired = false) :
      Takes limit length before after (.visit false)
        [.read fresh,
          .chained after.channel.pending after.channel.pending (some (.frame (.tooLong length))),
          .failed (.frame (.tooLong length)) after.channel.pending]

variable {service : Service σ} {framing : Framing} {later : List (Handler σ)} {length : Nat}
  {session after : Session σ} {events : Journal}

theorem of_framed {limit : Nat} (framed : session.Framed framing limit)
    (bad : framing.front session.channel.pending = .tooLong length) :
    session.Poisoned framing length ∧ session.Sliced framing limit := by
  cases framed with
  | free free sliced =>
    refine ⟨⟨bad, free, ?_⟩, sliced⟩
    cases opened : session.channel.opened with
    | true => rfl
    | false =>
      rw [sliced.unopened opened, Framing.front_nil] at bad
      simp at bad
  | hung held handed =>
    rw [Framing.cut_of_stop (Framing.stops_of_tooLong bad)] at handed
    simp at handed

theorem takenUp (poisoned : session.Poisoned framing length) (closing : Bool) :
    (session.takenUp closing).Poisoned framing length := by
  cases closing with
  | false => exact poisoned
  | true => exact ⟨poisoned.bad, poisoned.free, poisoned.opened⟩

theorem fails {buffer rest : Bytes} {result : Except Error Unit} {asked : Bool}
    {middle chained : Session σ} (first : service.handlers = framing.handler :: later)
    (bad : framing.front buffer = .tooLong length)
    (ran : service.chain buffer middle = (.done (result, rest), chained))
    (cause : asked = true → ∃ payload, result = .error (.panic payload)) :
    result = .error (.frame (.tooLong length)) ∧ rest = buffer ∧ asked = false := by
  obtain ⟨ended, _⟩ := Prod.mk.inj (ran.symm.trans (Service.chain_tooLong first bad middle))
  obtain ⟨rfl, rfl⟩ := Prod.mk.inj (Outcome.done.inj ended)
  refine ⟨rfl, rfl, ?_⟩
  cases asked with
  | false => rfl
  | true => simp at cause

theorem works (first : service.handlers = framing.handler :: later)
    (fits : service.bufferSize ≤ Word.maxCapacity)
    (poisoned : session.Poisoned framing length) {closing : Bool}
    (unfired : session.channel.closeFired = false)
    (works : (session.takenUp closing).Works service events after.channel.locked
      after.channel.inner) :
    Takes service.bufferSize length session after (.visit closing) events ∧
      after.Poisoned framing length := by
  have pending : (session.takenUp closing).channel.pending = session.channel.pending := by
    cases closing <;> rfl
  have taken := poisoned.takenUp closing
  generalize held : after.channel.locked = locked at works
  generalize same : after.channel.inner = inner at works
  cases works with
  | opens unopened => simp [taken.opened] at unopened
  | closes opened found =>
    have kept : after.channel.pending = session.channel.pending :=
      (congrArg Channel.Inner.pending same).trans pending
    have fired := congrArg Channel.Inner.closeFired same
    rw [pending]
    refine ⟨.closes unfired kept fired, ?_, held, ?_⟩
    · rw [kept, poisoned.bad]
    · exact (congrArg Channel.Inner.opened same).trans opened
  | waits opened found =>
    obtain ⟨_, unasked, nothing⟩ := Channel.probe_empty found
    cases closing with
    | true => simp [Session.takenUp, request, updateChannel] at unasked
    | false =>
      have kept : after.channel.pending = session.channel.pending :=
        congrArg Channel.Inner.pending same
      have empty : service.bufferSize ≤ session.channel.pending.length ∨
          session.channel.connection.unread = [] :=
        nothing.imp (fun full => Nat.le_of_sub_eq_zero full) fun none => none.1
      refine ⟨.waits unfired unasked empty same, ?_, held, ?_⟩
      · rw [kept, poisoned.bad]
      · exact (congrArg Channel.Inner.opened same).trans opened
  | overflows opened found => exact absurd fits (Service.not_fits_of_probe found)
  | @reads fresh unread rest result asked middle chained opened found took ran cause =>
    obtain ⟨_, unasked, some, _⟩ := Channel.probe_fresh found
    cases closing with
    | true => simp [Session.takenUp, request, updateChannel] at unasked
    | false =>
      have bad := Framing.tooLong_append poisoned.bad fresh
      obtain ⟨rfl, rfl, rfl⟩ := fails first bad ran cause
      have kept : after.channel.pending = session.channel.pending ++ fresh :=
        congrArg Channel.Inner.pending same
      have full : after.channel.closeRequested =
          decide (service.bufferSize ≤ after.channel.pending.length) := by
        rw [kept]
        exact (congrArg Channel.Inner.closeRequested same).trans (Bool.false_or _)
      have still := (congrArg Channel.Inner.closeFired same).trans unfired
      refine ⟨?_, ?_, held, (congrArg Channel.Inner.opened same).trans opened⟩
      · have takes : Takes service.bufferSize length session after (.visit false) _ :=
          .reads unfired unasked some kept full still
        rwa [kept] at takes
      · rw [kept, bad]
  | hangs opened found took ran =>
    rw [pending] at ran
    simp [Service.chain_tooLong first (Framing.tooLong_append poisoned.bad _)] at ran

theorem step (first : service.handlers = framing.handler :: later) (reliable : service.Reliable)
    (fits : service.bufferSize ≤ Word.maxCapacity) (poisoned : session.Poisoned framing length)
    (step : Session.Step) :
    (session.step service step).Poisoned framing length ∧
      ∃ events, (session.step service step).journal.outline = session.journal.outline ++ events ∧
        Takes service.bufferSize length session (session.step service step) step events := by
  obtain ⟨events, outline, steps⟩ := session.step_steps reliable step
  suffices taken : (session.step service step).Poisoned framing length ∧
      Takes service.bufferSize length session (session.step service step) step events from
    ⟨taken.1, events, outline, taken.2⟩
  cases steps with
  | refuses _ same =>
    rw [same]
    exact ⟨poisoned, .apart (by simp) (.inl rfl) rfl rfl rfl⟩
  | gone fired same =>
    rw [same]
    exact ⟨poisoned, .gone fired rfl⟩
  | arrives _ locked inner | ends locked inner | breaks locked inner | acts locked inner =>
    have pending := congrArg Channel.Inner.pending inner
    have opened := congrArg Channel.Inner.opened inner
    have asked := congrArg Channel.Inner.closeRequested inner
    have fired := congrArg Channel.Inner.closeFired inner
    refine ⟨⟨?_, locked.trans poisoned.free, opened.trans poisoned.opened⟩,
      .apart (by simp) ?_ pending asked fired⟩
    · rw [show (session.step service _).channel.pending = _ from pending]
      exact poisoned.bad
    · simp
  | busy _ held _ => simp [poisoned.free] at held
  | works unfired _ works => exact (poisoned.works first fits unfired works).symm

/-- The first stage fails before any later one is asked, so a unit of work is the same whatever the
later stages are. -/
theorem digest_alike (first : service.handlers = framing.handler :: later)
    (reliable : service.Reliable) (others : List (Handler σ)) {pending fresh : Bytes}
    (bad : framing.front (pending ++ fresh) = .tooLong length) (session : Session σ) :
    (service.withLater framing others).digest pending fresh session =
      service.digest pending fresh session := by
  have answer := Service.place_of_handsOutEmpty reliable.empty (.extend pending fresh) session
  rcases placed : service.place (.extend pending fresh) session with ⟨outcome, after⟩
  rw [placed, Placement.bytes_extend] at answer
  obtain rfl : outcome = .done (pending ++ fresh) := answer
  have same : (service.withLater framing others).place = service.place := rfl
  have other : (service.withLater framing others).handlers = framing.handler :: others := rfl
  simp only [Service.digest, Run.bind_apply, same, placed, Service.publish, Run.update,
    Service.chain_tooLong first bad, Service.chain_tooLong other bad]
  rfl

theorem unit_alike (first : service.handlers = framing.handler :: later)
    (reliable : service.Reliable) (others : List (Handler σ))
    (bad : framing.front session.channel.pending = .tooLong length)
    (opened : session.channel.opened = true) :
    (service.withLater framing others).unit session = service.unit session := by
  have cycle : (service.withLater framing others).cycle session = service.cycle session := by
    have room : (service.withLater framing others).room = service.room := rfl
    simp only [Service.cycle, Run.bind_apply, Run.channel, room]
    rcases probed : Service.probe (service.room session.channel) session with
      ⟨⟨_ | _ | _⟩ | _ | _, after⟩
    · exact digest_alike first reliable others (Framing.tooLong_append bad _) after
    all_goals rfl
  have unit (service : Service σ) : service.unit session = service.receive session := by
    simp only [Service.unit, Run.bind_apply, Run.channel, opened]
    rfl
  simp only [unit, Service.receive, Run.bind_apply, Run.attempt, cycle]
  rfl

theorem step_alike (first : service.handlers = framing.handler :: later)
    (reliable : service.Reliable) (others : List (Handler σ))
    (poisoned : session.Poisoned framing length) (step : Session.Step) :
    session.step (service.withLater framing others) step = session.step service step := by
  have poll (session : Session σ) (poisoned : session.Poisoned framing length) :
      session.poll (service.withLater framing others) = session.poll service := by
    have unit : (service.withLater framing others).unit session.lock = service.unit session.lock :=
      unit_alike first reliable others poisoned.bad poisoned.opened
    rw [lock] at unit
    simp only [poll, work, unit]
  cases step with
  | arrive bytes | peerEnds | breaks | act action => rfl
  | visit closing =>
    rw [step_visit, step_visit, poll _ (poisoned.takenUp closing)]

theorem Takes.grows {limit : Nat} {step : Session.Step}
    (takes : Takes limit length session after step events)
    (poisoned : after.Poisoned framing length) :
    after.channel.pending = session.channel.pending ++ events.received ∧
      framing.handed events = [] := by
  cases takes with
  | apart outside silent pending asked fired =>
    rcases silent with rfl | ⟨bytes, rfl⟩ | rfl <;>
      exact ⟨pending.trans (List.append_nil _).symm, rfl⟩
  | gone fired same =>
    rw [same]
    exact ⟨(List.append_nil _).symm, rfl⟩
  | closes unfired pending fired => exact ⟨pending.trans (List.append_nil _).symm, rfl⟩
  | waits unfired unasked nothing same =>
    exact ⟨(congrArg Channel.Inner.pending same).trans (List.append_nil _).symm, rfl⟩
  | reads unfired unasked some pending asked still =>
    have stopped := Framing.cut_of_stop (Framing.stops_of_tooLong poisoned.bad)
    refine ⟨pending.trans ?_, ?_⟩
    · simp [Journal.received]
    · simp [Framing.handed, stopped]

theorem live (first : service.handlers = framing.handler :: later) (reliable : service.Reliable)
    (fits : service.bufferSize ≤ Word.maxCapacity) (poisoned : session.Poisoned framing length)
    (steps : List Session.Step) :
    (session.live service steps).Poisoned framing length ∧
      (∀ others, session.live (service.withLater framing others) steps =
        session.live service steps) ∧
      framing.handed (session.live service steps).journal = framing.handed session.journal ∧
      ∃ more, (session.live service steps).channel.pending = session.channel.pending ++ more ∧
        (session.live service steps).journal.received = session.journal.received ++ more := by
  induction steps using List.reverseRecOn with
  | nil =>
    simp only [Session.live_nil]
    exact ⟨poisoned, fun _ => trivial, trivial, [], by simp, by simp⟩
  | append_singleton earlier last ih =>
    obtain ⟨still, alike, handed, more, pending, received⟩ := ih
    obtain ⟨next, events, outline, takes⟩ := still.step first reliable fits last
    obtain ⟨grown, nothing⟩ := takes.grows next
    simp only [Session.live_snoc]
    refine ⟨next, fun others => ?_, ?_, more ++ events.received, ?_, ?_⟩
    · rw [alike others, still.step_alike first reliable others last]
    · rw [Framing.handed_of_outline outline, nothing, List.append_nil, handed]
    · rw [grown, pending, List.append_assoc]
    · rw [Journal.received_of_outline outline, received, List.append_assoc]

end Session.Poisoned

/-- The frames in front of a length out of range are those of the stream, however it was cut into
reads. -/
theorem Session.Sliced.stream {framing : Framing} {limit length other : Nat} {session : Session σ}
    {frames : List Bytes} {rest : Bytes} (sliced : session.Sliced framing limit)
    (bad : framing.front session.channel.pending = .tooLong length)
    (stream : session.journal.sent = frames.flatten ++ rest)
    (whole : ∀ frame ∈ frames, framing.IsFrame frame)
    (large : framing.front rest = .tooLong other) :
    framing.handed session.journal = frames ∧ other = length := by
  have row := framing.cut_isFrame session.journal.received
  have read := framing.cut_flatten session.journal.received
  rw [sliced.cut] at row read
  have sent : session.journal.sent = (framing.handed session.journal).flatten ++
      (session.channel.pending ++ session.channel.connection.unread) := by
    rw [← sliced.whole, ← read, List.append_assoc]
  have behind := Framing.tooLong_append bad session.channel.connection.unread
  have ours := Framing.cut_row row (Framing.stops_of_tooLong behind)
  have theirs := Framing.cut_row whole (Framing.stops_of_tooLong large)
  rw [← sent, stream, theirs, behind, large] at ours
  injection ours with frames rest stop
  exact ⟨frames.symm, Framing.Front.tooLong.inj stop⟩

/-- A length out of range poisons a channel for good. From when it stands in front of what is
pending, and whatever happens then, nothing is consumed: what is pending only grows, by what is
read. No frame is handed on any more, so the later stages might be any others. A visit that reads
reports that length, once and alone, and asks for a close if the buffer is full with it; a visit
that reads nothing reports nothing; and the close callback is given all that is pending. The frames
before it were handed on, each once and in order: they are those of the stream, however it was cut
into reads. -/
theorem Service.malformed_length_poisons (service : Service σ) (framing : Framing)
    (later : List (Handler σ)) (first : service.handlers = framing.handler :: later)
    (reliable : service.Reliable) (id : Nat) (earlier steps : List Session.Step) (length : Nat)
    (bad : framing.OutOfRange ((service.session id).live service earlier).channel.pending length) :
    let before := (service.session id).live service earlier
    let now := before.live service steps
    framing.OutOfRange now.channel.pending length ∧
      (∃ more, now.channel.pending = before.channel.pending ++ more ∧
        now.journal.received = before.journal.received ++ more) ∧
      framing.handed now.journal = framing.handed before.journal ∧
      (∀ others, before.live (service.withLater framing others) steps = now) ∧
      (∀ step, ∃ events,
        (now.step service step).journal.outline = now.journal.outline ++ events ∧
          Session.Poisoned.Takes service.bufferSize length now (now.step service step) step
            events) ∧
      (framing.handed now.journal).flatten ++ now.channel.pending = now.journal.received ∧
      (∀ frames rest other, now.journal.sent = frames.flatten ++ rest →
        (∀ frame ∈ frames, framing.WellFormed frame) → framing.OutOfRange rest other →
        framing.handed now.journal = frames ∧ other = length) ∧
      (service.WritesHanded framing → now.journal.frames = framing.handed now.journal) := by
  intro before now
  have begun : before.Framed framing service.bufferSize :=
    (Session.Framed.fresh service framing id).live first reliable earlier
  obtain ⟨poisoned, _⟩ := Session.Poisoned.of_framed begun (Framing.outOfRange_iff.mp bad)
  have fits : service.bufferSize ≤ Word.maxCapacity := by
    refine Nat.le_of_not_lt fun much => ?_
    have nothing := (service.oversized_deaf much id earlier).1.pending
    have large := Framing.outOfRange_iff.mp bad
    rw [nothing, Framing.front_nil] at large
    simp at large
  obtain ⟨still, alike, handed, grown⟩ := poisoned.live first reliable fits steps
  have sliced := (Session.Poisoned.of_framed (begun.live first reliable steps) still.bad).2
  refine ⟨Framing.outOfRange_iff.mpr still.bad, grown, handed, alike, fun step => ?_, ?_, ?_, ?_⟩
  · exact (still.step first reliable fits step).2
  · have read := framing.cut_flatten now.journal.received
    rwa [sliced.cut] at read
  · intro frames rest other stream formed large
    exact sliced.stream still.bad stream
      (fun frame member => Framing.wellFormed_iff.mp (formed frame member))
      (Framing.outOfRange_iff.mp large)
  · intro writes
    have written := writes.frames_handed id (earlier ++ steps)
    rwa [Session.live_append] at written

def Service.worded : Service Unit where
  handlers := [(Framing.lengthField 0 .four (by decide)).handler, Stage.collectHandler]
  bufferSize := 8
  fresh := ()

/-- A length out of range behind one frame, torn over two reads. Two more reads fill the buffer
behind it, and the channel is closed with the eight bytes; the ninth stays with the peer. -/
theorem Service.malformed_length_poisons_torn :
    let framing : Framing := .lengthField 0 .four (by decide)
    let earlier : List Session.Step := [.visit false, .arrive [0, 0, 0, 1, 7, 128], .visit false,
      .arrive [0, 0, 1], .visit false]
    let steps : List Session.Step := [.arrive [5], .visit false, .visit false,
      .arrive [6, 7, 8, 9], .visit false, .visit false]
    let before := (worded.session 0).live worded earlier
    let now := before.live worded steps
    worded.Reliable ∧ worded.WritesHanded framing ∧
      framing.OutOfRange before.channel.pending 2147483649 ∧
      framing.OutOfRange now.channel.pending 2147483649 ∧
      now.channel.pending = [128, 0, 0, 1, 5, 6, 7, 8] ∧
      now.channel.connection.unread = [9] ∧ now.channel.closeFired = true ∧
      now.journal.frames = [[0, 0, 0, 1, 7]] := by
  intro framing earlier steps before now
  have reliable : worded.Reliable :=
    ⟨⟨trivial, fun _ _ => trivial, fun _ _ => trivial, fun _ => trivial⟩,
      Allocator.empty_handsOutEmpty⟩
  have writes : worded.WritesHanded framing :=
    ⟨⟨Stage.collectHandler, [], fun _ => rfl, rfl⟩, fun call => by cases call <;> trivial⟩
  have bad : framing.OutOfRange before.channel.pending 2147483649 :=
    Framing.outOfRange_iff.mpr (by decide +kernel)
  obtain ⟨still, _, _, _, _, _, _, written⟩ := worded.malformed_length_poisons framing
    [Stage.collectHandler] rfl reliable 0 earlier steps 2147483649 bad
  have handed : framing.handed now.journal = [[0, 0, 0, 1, 7]] := by decide +kernel
  exact ⟨reliable, writes, bad, still, by decide +kernel, by decide +kernel, by decide +kernel,
    (written writes).trans handed⟩

end StreamDispatch
