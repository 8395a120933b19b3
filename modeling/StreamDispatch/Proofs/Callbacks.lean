import Mathlib.Data.List.Induction
import StreamDispatch.Proofs.Coherence
import StreamDispatch.Proofs.Turns

/-! The order of a channel's callbacks. In every life the turns of its units come in one order: the
channel is opened first and closed last, and once it has stalled nothing but the close is left. -/
namespace StreamDispatch

variable {σ : Type}

/-- The turn of a cycle that the channel survives. -/
def Turn.isRound : Turn → Bool
  | idle .. | fed .. | stalled .. | failed .. | overflowed .. => true
  | opening _ | closing .. => false

def Turn.InOrder (turns : List Turn) : Prop :=
  turns = [] ∨ ∃ fault rounds ending, turns = .opening fault :: (rounds ++ ending) ∧
    (∀ round ∈ rounds, round.isRound = true) ∧
    (∀ earlier left capacity later, rounds = earlier ++ .stalled left capacity :: later →
      later = []) ∧
    (ending = [] ∨ ∃ leftover fault, ending = [.closing leftover fault])

/-- How far a channel has come with its turns. -/
inductive Progress where
  | fresh
  | live
  | full
  | gone

namespace Progress

/-- The turn that leads from one stage to another. -/
inductive Leads : Progress → Turn → Progress → Prop where
  | opens : Leads fresh (.opening fault) live
  | goes (round : turn.isRound = true) (space : ∀ left capacity, turn ≠ .stalled left capacity) :
      Leads live turn live
  | stalls : Leads live (.stalled left capacity) full
  | closes (ready : progress = live ∨ progress = full) :
      Leads progress (.closing leftover fault) gone

/-- What the flags of a channel say about it. -/
def Fits (channel : Channel) : Progress → Prop
  | fresh => channel.opened = false
  | live => channel.opened = true ∧ channel.closeFired = false
  | full => channel.opened = true ∧ channel.closeFired = false ∧ channel.closeRequested = true
  | gone => channel.closeFired = true

/-- Turns that lead to a stage, one after another. -/
inductive Row : List Turn → Progress → Prop where
  | nil : Row [] fresh
  | snoc (earlier : Row turns progress) (leads : progress.Leads turn next) :
      Row (turns ++ [turn]) next

/-- What a row of turns looks like where it stands. -/
def Shape (turns : List Turn) : Progress → Prop
  | fresh => turns = []
  | live => ∃ fault rounds, turns = .opening fault :: rounds ∧
      ∀ round ∈ rounds, round.isRound = true ∧ ∀ left capacity, round ≠ .stalled left capacity
  | full => ∃ fault rounds left capacity,
      turns = .opening fault :: (rounds ++ [.stalled left capacity]) ∧
      ∀ round ∈ rounds, round.isRound = true ∧ ∀ left capacity, round ≠ .stalled left capacity
  | gone => ∃ progress earlier leftover fault, turns = earlier ++ [.closing leftover fault] ∧
      (progress = live ∨ progress = full) ∧ Row earlier progress

theorem Row.shape {turns : List Turn} {progress : Progress} (row : Row turns progress) :
    Shape turns progress := by
  induction row with
  | nil => rfl
  | @snoc _ _ turn _ earlier leads ih =>
    cases leads with
    | @opens fault =>
      obtain rfl := ih
      exact ⟨fault, [], rfl, by simp⟩
    | goes round space =>
      obtain ⟨fault, rounds, rfl, plain⟩ := ih
      refine ⟨fault, rounds ++ [turn], rfl, ?_⟩
      intro other member
      rcases List.mem_append.mp member with old | last
      · exact plain other old
      · obtain rfl := List.mem_singleton.mp last
        exact ⟨round, space⟩
    | @stalls left capacity =>
      obtain ⟨fault, rounds, rfl, plain⟩ := ih
      exact ⟨fault, rounds, left, capacity, rfl, plain⟩
    | closes ready => exact ⟨_, _, _, _, rfl, ready, earlier⟩

private theorem stalled_last {rounds : List Turn} (last : Turn)
    (plain : ∀ round ∈ rounds, ∀ left capacity, round ≠ .stalled left capacity)
    {earlier later : List Turn} {left : Bytes} {capacity : Nat}
    (split : rounds ++ [last] = earlier ++ .stalled left capacity :: later) : later = [] := by
  rcases later.eq_nil_or_concat with none | ⟨front, back, rfl⟩
  · exact none
  · rw [List.concat_eq_append, ← List.cons_append, ← List.append_assoc] at split
    obtain ⟨same, _⟩ := List.append_inj' split rfl
    exact absurd rfl (plain (.stalled left capacity) (by simp [same]) left capacity)

/-- The rounds of a channel that is open; a stalled one is the last of them. -/
theorem Row.rounds {turns : List Turn} {progress : Progress} (row : Row turns progress)
    (ready : progress = live ∨ progress = full) :
    ∃ fault rounds, turns = .opening fault :: rounds ∧
      (∀ round ∈ rounds, round.isRound = true) ∧
      ∀ earlier left capacity later, rounds = earlier ++ .stalled left capacity :: later →
        later = [] := by
  have shape := row.shape
  rcases ready with rfl | rfl
  · obtain ⟨fault, rounds, same, plain⟩ := shape
    refine ⟨fault, rounds, same, fun round member => (plain round member).1, ?_⟩
    rintro earlier left capacity later rfl
    exact absurd rfl ((plain _ (by simp)).2 left capacity)
  · obtain ⟨fault, rounds, left, capacity, same, plain⟩ := shape
    refine ⟨fault, _, same, ?_, fun earlier other size later split =>
      stalled_last _ (fun round member => (plain round member).2) split⟩
    intro round member
    rcases List.mem_append.mp member with old | last
    · exact (plain round old).1
    · obtain rfl := List.mem_singleton.mp last
      rfl

theorem Row.inOrder {turns : List Turn} {progress : Progress} (row : Row turns progress) :
    Turn.InOrder turns := by
  have shape := row.shape
  cases progress with
  | fresh => exact .inl shape
  | live | full =>
    obtain ⟨fault, rounds, same, plain, last⟩ := row.rounds (by simp)
    exact .inr ⟨fault, rounds, [], by rw [same, List.append_nil], plain, last, .inl rfl⟩
  | gone =>
    obtain ⟨progress, earlier, leftover, other, same, ready, row⟩ := shape
    obtain ⟨fault, rounds, first, plain, last⟩ := row.rounds ready
    exact .inr ⟨fault, rounds, _, by rw [same, first]; rfl, plain, last, .inr ⟨_, _, rfl⟩⟩

theorem Leads.gone {progress next : Progress} {turn : Turn} (leads : progress.Leads turn next)
    (closing : turn.isClosing = true) : next = .gone := by
  cases leads with
  | closes => rfl
  | goes round => cases turn <;> simp [Turn.isClosing, Turn.isRound] at closing round
  | opens | stalls => simp [Turn.isClosing] at closing

theorem Fits.leads {service : Service σ} {before : Channel} {progress : Progress} {turn : Turn}
    (fits : progress.Fits before) (unfired : before.closeFired = false)
    (starts : turn.Starts service before) :
    ∃ next, progress.Leads turn next ∧
      ∀ after, turn.Leaves before after → next.Fits after := by
  cases turn with
  | opening fault =>
    cases progress with
    | fresh => exact ⟨live, .opens, fun after leaves => ⟨leaves.1, leaves.2.trans unfired⟩⟩
    | live | full | gone => simp_all [Fits, Turn.Starts]
  | closing leftover fault =>
    cases progress with
    | live => exact ⟨gone, .closes (.inl rfl), fun after leaves => leaves.2⟩
    | full => exact ⟨gone, .closes (.inr rfl), fun after leaves => leaves.2⟩
    | fresh | gone => simp_all [Fits, Turn.Starts]
  | stalled left capacity =>
    cases progress with
    | live =>
      exact ⟨full, .stalls, fun after leaves => ⟨leaves.1, leaves.2.1.trans unfired, leaves.2.2.2⟩⟩
    | fresh | full | gone => simp_all [Fits, Turn.Starts]
  | idle pending fault =>
    have unasked := (Channel.probe_empty starts.2).2.1
    cases progress with
    | live =>
      exact ⟨live, .goes rfl (by simp), fun after leaves => ⟨leaves.1, leaves.2.trans unfired⟩⟩
    | fresh | full | gone => simp_all [Fits, Turn.Starts]
  | overflowed payload pending =>
    have unasked := (Channel.probe_error starts.2).2.1
    cases progress with
    | live =>
      exact ⟨live, .goes rfl (by simp), fun after leaves => ⟨leaves.1, leaves.2.trans unfired⟩⟩
    | fresh | full | gone => simp_all [Fits, Turn.Starts]
  | fed | failed =>
    cases progress with
    | live =>
      exact ⟨live, .goes rfl (by simp), fun after leaves => ⟨leaves.1, leaves.2.1.trans unfired⟩⟩
    | fresh | full | gone => simp_all [Fits, Turn.Starts]

end Progress

/-! ### The turns of a life -/

namespace Session

variable {service : Service σ}

/-- The callbacks that fire in each step of a life. -/
def bursts (service : Service σ) : Session σ → List Step → List Journal
  | _, [] => []
  | session, step :: rest =>
    let after := session.step service step
    Journal.callbacks (after.journal.drop session.journal.length) :: bursts service after rest

theorem bursts_snoc (session : Session σ) (steps : List Step) (last : Step) :
    session.bursts service (steps ++ [last]) =
      session.bursts service steps ++
        [Journal.callbacks (((session.live service steps).step service last).journal.drop
          (session.live service steps).journal.length)] := by
  induction steps generalizing session with
  | nil => rfl
  | cons first rest ih => exact congrArg _ (ih (session.step service first))

/-- One step adds the callbacks of the turn to the journal. -/
structure Turned (service : Service σ) (before events : Journal) (turn : Turn)
    (after : Session σ) : Prop where
  callbacks : turn.callbacks = events.callbacks
  explained : turn.Explained service before events
  buffer : turn.buffer = after.channel.pending
  alone : ∀ error, events.Faulted error → turn.Reports service error

/-- A channel stands where its flags say, unless a unit of work never ended; then it is gone as soon
as its close callback is marked done. -/
def Stands (progress : Progress) (session : Session σ) : Prop :=
  session.channel.locked = true ∧ (session.channel.closeFired = true → progress = .gone) ∨
    progress.Fits session.channel

theorem Stands.request {progress : Progress} {session : Session σ}
    (stands : Stands progress session) : Stands progress session.request := by
  refine stands.imp_right fun fits => ?_
  cases progress with
  | full => exact ⟨fits.1, fits.2.1, rfl⟩
  | fresh | live | gone => exact fits

theorem work_leads {session : Session σ} {progress : Progress}
    (coherent : Coherent session.channel session.journal)
    (unfired : session.channel.closeFired = false) (free : session.channel.locked = false)
    (stands : Stands progress session) :
    ∃ events, (session.work service).journal = session.journal ++ events ∧
      (events.callbacks = [] ∧ (∀ error, ¬ events.Faulted error) ∧
          Stands progress (session.work service) ∨
        ∃ turn next, progress.Leads turn next ∧
          Turned service session.journal events turn (session.work service) ∧
          Stands next (session.work service)) := by
  obtain ⟨events, grown, ⟨locked, silent, calm, same⟩ | ⟨turn, fired, made, left⟩⟩ :=
    session.work_turn service fun unopened => (coherent.unopened unopened).1
  · exact ⟨events, grown, .inl ⟨silent, calm, .inl ⟨locked, by simp [same, unfired]⟩⟩⟩
  · have fits := stands.resolve_left (by simp [free])
    obtain ⟨next, leads, settled⟩ := fits.leads unfired made.starts
    have gone : (session.work service).channel.closeFired = true → next = .gone := by
      intro marked
      apply leads.gone
      by_contra other
      simp [made.unfired (by simpa using other), unfired] at marked
    exact ⟨events, grown, .inr ⟨turn, next, leads,
      { callbacks := fired, explained := made.explained, buffer := made.buffer,
        alone := made.alone },
      left.imp (fun locked => ⟨locked, gone⟩) (settled _)⟩⟩

theorem step_leads {session : Session σ} {progress : Progress} (step : Step)
    (coherent : Coherent session.channel session.journal) (stands : Stands progress session) :
    ∃ events, (session.step service step).journal = session.journal ++ events ∧
      (events.callbacks = [] ∧ (∀ error, ¬ events.Faulted error) ∧
          Stands progress (session.step service step) ∨
        ∃ turn next, progress.Leads turn next ∧
          Turned service session.journal events turn (session.step service step) ∧
          Stands next (session.step service step)) := by
  rcases session.step_cases service step with same | ⟨bytes, more, _, same⟩ | ⟨_, same⟩ | ⟨_, same⟩ |
      ⟨action, _, same⟩ | ⟨unfired, ⟨_, _, same⟩ | ⟨_, free, same⟩ | ⟨_, free, same⟩⟩ <;> rw [same]
  · exact ⟨[], by simp, .inl ⟨rfl, by simp [Journal.Faulted], stands⟩⟩
  · refine ⟨[.arrived bytes], rfl, .inl ⟨rfl, by simp [Journal.Faulted], ?_⟩⟩
    rw [Session.record, Session.updateChannel, Channel.arrive_of_open more]
    cases progress <;> exact stands
  · exact ⟨[.ended], rfl, .inl ⟨rfl, by simp [Journal.Faulted], by cases progress <;> exact stands⟩⟩
  · exact ⟨[], by simp [breaks, updateChannel],
      .inl ⟨rfl, by simp [Journal.Faulted], by cases progress <;> exact stands⟩⟩
  · have work := session.perform_handled action
    obtain ⟨events, grown, own⟩ := work.grows
    refine ⟨events, grown, .inl ⟨Journal.callbacks_own own,
      fun _ => Journal.not_faulted_own own, ?_⟩⟩
    obtain ⟨_, _, _, _, same⟩ := work.sameInward
    rw [Stands, same]
    cases progress <;> exact stands
  · exact ⟨[], by simp [request, updateChannel],
      .inl ⟨rfl, by simp [Journal.Faulted], stands.request⟩⟩
  · have asked : Coherent session.request.channel session.request.journal := { coherent with }
    exact work_leads asked unfired free stands.request
  · exact work_leads coherent unfired free stands

/-- The turns of a life lead to where the channel stands. -/
theorem live_turns (service : Service σ) (id : Nat) (steps : List Step) :
    ∃ turns progress, Progress.Row turns progress ∧
      Stands progress ((service.session id).live service steps) ∧
      ((service.session id).bursts service steps).filter (!·.isEmpty) =
        turns.map Turn.callbacks ∧
      ((service.session id).live service steps).journal.callbacks =
        turns.flatMap Turn.callbacks := by
  induction steps using List.reverseRecOn with
  | nil => exact ⟨[], .fresh, .nil, .inr rfl, rfl, rfl⟩
  | append_singleton earlier last ih =>
    obtain ⟨turns, progress, row, stands, bursts, callbacks⟩ := ih
    have coherent := Coherent.of_lived (live_lived service id earlier)
    obtain ⟨events, grown, news⟩ := step_leads last coherent stands
    rw [bursts_snoc, live_snoc, grown, List.filter_append, bursts, Journal.callbacks_append,
      callbacks, List.drop_left]
    rcases news with ⟨silent, _, still⟩ | ⟨turn, next, leads, turned, still⟩
    · refine ⟨turns, progress, row, still, ?_, ?_⟩ <;> simp [silent]
    · refine ⟨turns ++ [turn], next, .snoc row leads, still, ?_, ?_⟩
      · have some : events.callbacks ≠ [] := by
          rw [← turned.callbacks]
          cases turn <;> simp [Turn.callbacks]
        simp [turned.callbacks, some]
      · simp [turned.callbacks]

theorem step_grows {session : Session σ} (lived : session.Lived service) (step : Step) :
    ∃ events, (session.step service step).journal = session.journal ++ events := by
  obtain ⟨id, steps, rfl⟩ := lived
  obtain ⟨_, _, _, stands, _⟩ := live_turns service id steps
  obtain ⟨events, grown, _⟩ := step_leads step (Coherent.of_lived ⟨id, steps, rfl⟩) stands
  exact ⟨events, grown⟩

def begin (closing : Bool) (session : Session σ) : Session σ :=
  (if closing then session.request else session).lock

/-- Whatever callback a unit comes to is given the bytes that are pending at that moment. -/
theorem given_pending (service : Service σ) {session moment : Session σ} {call : Call}
    (unopened : session.channel.opened = false → session.channel.pending = []) (closing : Bool)
    (course : Course service .begun (session.begin closing) (.calling call) moment) :
    call.buffer = moment.channel.pending := by
  have same : (session.begin closing).channel.opened = session.channel.opened ∧
      (session.begin closing).channel.pending = session.channel.pending := by
    cases closing <;> exact ⟨rfl, rfl⟩
  obtain ⟨events, _, midway⟩ := course.keeps
    (fun point after => ∃ events, after.journal = (session.begin closing).journal ++ events ∧
      Midway service (session.begin closing) events point after)
    (fun {_ _ _ _} => Midway.move (by rw [same.1, same.2]; exact unopened))
    ⟨[], by simp, rfl, rfl⟩
  exact midway.given

/-- The callbacks of a channel in every life, whatever its handlers, callbacks and allocator do.
They are those of turns in order, each turn is what fired in one unit of work, the exception
callback is told why it is called, and every callback is given the pending bytes. -/
theorem callbacks_follow_protocol (service : Service σ) (id : Nat) (steps : List Step) :
    (∃ turns, Turn.InOrder turns ∧
      ((service.session id).bursts service steps).filter (!·.isEmpty) =
        turns.map Turn.callbacks ∧
      ((service.session id).live service steps).journal.callbacks =
        turns.flatMap Turn.callbacks) ∧
    ∀ earlier step later, steps = earlier ++ step :: later →
      let before := (service.session id).live service earlier
      let after := before.step service step
      (∃ events, after.journal = before.journal ++ events ∧
        (events.callbacks = [] ∧ (∀ error, ¬ events.Faulted error) ∨
          ∃ turn, Turned service before.journal events turn after)) ∧
      ∀ closing call moment, Course service .begun (before.begin closing) (.calling call) moment →
        call.buffer = moment.channel.pending := by
  constructor
  · obtain ⟨turns, _, row, _, bursts, callbacks⟩ := live_turns service id steps
    exact ⟨turns, row.inOrder, bursts, callbacks⟩
  · intro earlier step later _
    have coherent := Coherent.of_lived (live_lived service id earlier)
    obtain ⟨_, _, _, stands, _⟩ := live_turns service id earlier
    obtain ⟨events, grown, news⟩ := step_leads step coherent stands
    refine ⟨⟨events, grown, ?_⟩, fun closing call moment course => ?_⟩
    · rcases news with ⟨silent, calm, _⟩ | ⟨turn, _, _, turned, _⟩
      · exact .inl ⟨silent, calm⟩
      · exact .inr ⟨turn, turned⟩
    · exact given_pending service (fun closed => (coherent.unopened closed).1) closing course

end Session

end StreamDispatch
