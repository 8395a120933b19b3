import StreamDispatch.Proofs.Life

/-! The callbacks of one unit of work. Every unit fires the callbacks of one `Turn`, with the bytes
that are pending at that moment, or none at all if its chain hangs. -/
namespace StreamDispatch

variable {σ : Type}

/-- The callbacks of a unit with what they are given. A fault is a panic of the callback, and the
exception callback is told of it. -/
inductive Turn where
  | opening (fault : Option Panic)
  | idle (pending : Bytes) (fault : Option Panic)
  | fed (left : Bytes) (fault : Option Panic)
  /-- The loop callback came back, and the buffer was still full. -/
  | stalled (left : Bytes) (capacity : Nat)
  | failed (error : Error) (pending : Bytes)
  /-- Nothing was read, because more room was asked for than any buffer has. -/
  | overflowed (payload : Panic) (pending : Bytes)
  | closing (leftover : Bytes) (fault : Option Panic)
  deriving DecidableEq

namespace Turn

def reported (pending : Bytes) (fault : Option Panic) : Journal :=
  fault.toList.map fun payload => .failed (.panic payload) pending

def callbacks : Turn → Journal
  | opening fault => .opened :: reported [] fault
  | idle pending fault => .looped false pending :: reported pending fault
  | fed left fault => .looped true left :: reported left fault
  | stalled left capacity => [.looped true left, .failed (.bufferFull capacity) left]
  | failed error pending => [.failed error pending]
  | overflowed payload pending => [.failed (.panic payload) pending]
  | closing leftover fault => .closed leftover :: reported leftover fault

def buffer : Turn → Bytes
  | opening _ => []
  | idle pending _ => pending
  | fed left _ => left
  | stalled left _ => left
  | failed _ pending => pending
  | overflowed _ pending => pending
  | closing leftover _ => leftover

def isClosing : Turn → Bool
  | closing .. => true
  | _ => false

theorem closed_closing {turn : Turn} {leftover : Bytes}
    (member : .closed leftover ∈ turn.callbacks) :
    ∃ fault, turn = .closing leftover fault := by
  cases turn <;> simp_all [callbacks, reported]

theorem failed_given {turn : Turn} {error : Error} {pending : Bytes}
    (member : .failed error pending ∈ turn.callbacks) : pending = turn.buffer := by
  cases turn with
  | stalled left capacity | failed other held | overflowed payload held =>
    simp only [callbacks, List.mem_cons, List.not_mem_nil, or_false, Event.failed.injEq,
      reduceCtorEq, false_or] at member
    exact member.2
  | opening fault | idle held fault | fed held fault | closing held fault =>
    simp only [callbacks, reported, List.mem_cons, reduceCtorEq, false_or, List.mem_map,
      Event.failed.injEq] at member
    obtain ⟨_, _, _, rfl⟩ := member
    rfl

end Turn

/-- A chain run failed with the error. -/
def Journal.Faulted (events : Journal) (error : Error) : Prop :=
  ∃ offered left, .chained offered left (some error) ∈ events

/-- Between two journals a callback was called and came back. -/
def Call.Returned (service : Service σ) (before after : Journal) (call : Call)
    (result : Except Panic Unit) : Prop :=
  ∃ moment returned : Session σ, before <+: moment.journal ∧
    Run.attempt (call.program service.callbacks).run (moment.record call.event) =
      (.done result, returned) ∧
    returned.journal <+: after

namespace Turn

/-- The allocator can panic, and the error tells of it. -/
def OfAllocator (service : Service σ) (error : Error) : Prop :=
  ∃ payload capacity state, error = .panic payload ∧
    (service.allocator capacity state).1 = .error payload

/-- Why the exception callback of a turn was called: the callback before it panicked, the buffer
was full after it came back, the chain failed, the allocator panicked, or the buffers are larger than
any buffer can be. -/
def Explained (service : Service σ) (before events : Journal) : Turn → Prop
  | opening fault => ∀ payload ∈ fault,
    Call.Returned service before (before ++ events) .opening (.error payload)
  | idle pending fault => ∀ payload ∈ fault,
    Call.Returned service before (before ++ events) (.idle pending) (.error payload)
  | fed left fault => ∀ payload ∈ fault,
    Call.Returned service before (before ++ events) (.fed left) (.error payload)
  | closing leftover fault => ∀ payload ∈ fault,
    Call.Returned service before (before ++ events) (.closing leftover) (.error payload)
  | stalled left capacity =>
    Call.Returned service before (before ++ events) (.fed left) (.ok ()) ∧
      capacity = service.bufferSize ∧ service.bufferSize ≤ left.length
  | failed error _ => events.Faulted error ∨ OfAllocator service error
  | overflowed payload _ =>
    payload = .text "capacity overflow" ∧ Word.maxCapacity < service.bufferSize

def Reports (service : Service σ) (error : Error) : Turn → Prop
  | failed reported _ => reported = error ∨ OfAllocator service reported
  | _ => False

/-- What a unit finds on the channel when it makes the turn. -/
def Starts (service : Service σ) (channel : Channel) : Turn → Prop
  | opening _ => channel.opened = false
  | closing .. => channel.opened = true ∧ (channel.probe (service.room channel)).1 = .ok .closed
  | idle .. => channel.opened = true ∧ (channel.probe (service.room channel)).1 = .ok .empty
  | overflowed payload _ =>
    channel.opened = true ∧ (channel.probe (service.room channel)).1 = .error payload
  | fed .. | stalled .. | failed .. => channel.opened = true ∧ channel.closeRequested = false

/-- What a unit leaves on the channel once its turn is over. -/
def Leaves (before after : Channel) : Turn → Prop
  | closing .. => after.opened = true ∧ after.closeFired = true
  | opening _ | idle .. | overflowed .. =>
    after.opened = true ∧ after.closeFired = before.closeFired
  | fed .. | failed .. => after.opened = true ∧ after.closeFired = before.closeFired ∧
    after.connection.unread.length < before.connection.unread.length
  | stalled .. => after.opened = true ∧ after.closeFired = before.closeFired ∧
    after.connection.unread.length < before.connection.unread.length ∧ after.closeRequested = true

/-- A unit of work that began on one session, added the events to its journal and stands at another
has made the turn so far. -/
structure Made (service : Service σ) (before : Session σ) (events : Journal) (turn : Turn)
    (after : Session σ) : Prop where
  starts : turn.Starts service before.channel
  explained : turn.Explained service before.journal events
  buffer : turn.buffer = after.channel.pending
  alone : ∀ error, events.Faulted error → turn.Reports service error
  unfired : turn.isClosing = false → after.channel.closeFired = before.channel.closeFired

end Turn

/-! ### Events that leave a turn as it is -/

namespace Journal

variable {events more : Journal} {error : Error}

theorem faulted_append :
    Faulted (events ++ more) error ↔ events.Faulted error ∨ more.Faulted error := by
  simp only [Faulted, List.mem_append, exists_or]

theorem not_faulted_own (own : ∀ event ∈ events, event.isOwn = true) : ¬ events.Faulted error := by
  rintro ⟨offered, left, member⟩
  have mine := own _ member
  simp [Event.isOwn] at mine

theorem faulted_chained {offered left : Bytes} {result : Except Error Unit} :
    Faulted [.chained offered left (Service.fault? result)] error ↔ result = .error error := by
  constructor
  · rintro ⟨_, _, member⟩
    cases result with
    | error fault =>
      simp only [Service.fault?, List.mem_singleton, Event.chained.injEq,
        Option.some.injEq] at member
      rw [member.2.2]
    | ok _ => simp [Service.fault?] at member
  · rintro rfl
    exact ⟨offered, left, List.mem_singleton_self _⟩

theorem not_faulted_call (call : Call) : ¬ Faulted [call.event] error := by
  rintro ⟨offered, left, member⟩
  cases call <;> simp [Call.event] at member

end Journal

theorem Call.Returned.extend {service : Service σ} {call : Call} {before after : Journal}
    {result : Except Panic Unit} (returned : Returned service before after call result)
    (more : Journal) : Returned service before (after ++ more) call result := by
  obtain ⟨moment, later, first, ran, last⟩ := returned
  exact ⟨moment, later, first, ran, last.trans (List.prefix_append ..)⟩

namespace Turn

variable {service : Service σ} {before after last : Session σ} {events more : Journal} {turn : Turn}

theorem Explained.extend (explained : turn.Explained service before.journal events) :
    turn.Explained service before.journal (events ++ more) := by
  cases turn <;> simp only [Explained, ← List.append_assoc] at explained ⊢
  case opening | idle | fed | closing =>
    intro payload member
    exact (explained payload member).extend more
  case stalled => exact ⟨explained.1.extend more, explained.2⟩
  case overflowed => exact explained
  case failed => exact explained.imp_left fun faulted => Journal.faulted_append.mpr (.inl faulted)

theorem Made.extend (made : turn.Made service before events after)
    (plain : ∀ error, ¬ more.Faulted error) (same : last.channel.pending = after.channel.pending)
    (fired : last.channel.closeFired = after.channel.closeFired) :
    turn.Made service before (events ++ more) last where
  starts := made.starts
  explained := made.explained.extend
  buffer := made.buffer.trans same.symm
  alone := by
    intro error faulted
    exact made.alone error ((Journal.faulted_append.mp faulted).resolve_right (plain error))
  unfired := fun other => fired.trans (made.unfired other)

end Turn

/-! ### A unit makes one turn -/

/-- The turn that a callback makes if nothing but a panic of its own follows it. -/
def Call.turn (fault : Option Panic) : Call → Turn
  | opening => .opening fault
  | idle pending => .idle pending fault
  | fed left => .fed left fault
  | closing leftover => .closing leftover fault
  | report error pending => .failed error pending

def Call.buffer : Call → Bytes
  | opening => []
  | idle pending => pending
  | fed left => left
  | closing leftover => leftover
  | report _ pending => pending

/-- The unit has new bytes in hand and no callback has fired yet. -/
structure Digesting (before : Session σ) (events : Journal) (session : Session σ) : Prop where
  silent : events.callbacks = []
  opened : before.channel.opened = true
  unasked : before.channel.closeRequested = false
  still : session.channel.opened = true
  unfired : session.channel.closeFired = before.channel.closeFired
  less : session.channel.connection.unread.length < before.channel.connection.unread.length

/-- The first callback of the unit is about to fire. -/
structure Ready (service : Service σ) (before : Session σ) (events : Journal) (call : Call)
    (session : Session σ) : Prop where
  silent : events.callbacks = []
  calm : ∀ error, ¬ events.Faulted error
  starts : (call.turn none).Starts service before.channel
  buffer : (call.turn none).buffer = session.channel.pending
  leaves : (call.turn none).Leaves before.channel (call.mark session.channel)
  full : ∀ left, call = .fed left → service.bufferSize ≤ left.length →
    session.channel.closeRequested = true

/-- How far a unit that began on one session has come with its turn. -/
def Midway (service : Service σ) (before : Session σ) (events : Journal) :
    Point → Session σ → Prop
  | .begun, session => events = [] ∧ session = before
  | .read .., session | .offered _, session =>
    Digesting before events session ∧ ∀ error, ¬ events.Faulted error
  | .chained result .., session =>
    Digesting before events session ∧ ∀ error, events.Faulted error ↔ result = .error error
  | .calling (.report error pending), session =>
    ∃ turn : Turn, turn.callbacks = events.callbacks ++ [.failed error pending] ∧
      turn.Made service before events session ∧ turn.Leaves before.channel session.channel
  | .calling call, session => Ready service before events call session
  | .over, session =>
    ∃ turn : Turn, turn.callbacks = events.callbacks ∧ turn.Made service before events session ∧
      turn.Leaves before.channel session.channel
  | .stuck, session =>
    (events.callbacks = [] ∧ (∀ error, ¬ events.Faulted error) ∧
        session.channel.closeFired = before.channel.closeFired) ∨
      ∃ turn : Turn, turn.callbacks = events.callbacks ∧ turn.Made service before events session

namespace Digesting

variable {before session after : Session σ} {events more : Journal}

theorem extend (digesting : Digesting before events session)
    (own : ∀ event ∈ more, event.isOwn = true)
    (opened : after.channel.opened = session.channel.opened)
    (fired : after.channel.closeFired = session.channel.closeFired)
    (unread : after.channel.connection.unread = session.channel.connection.unread) :
    Digesting before (events ++ more) after where
  silent := by rw [Journal.callbacks_append, digesting.silent, Journal.callbacks_own own]; rfl
  opened := digesting.opened
  unasked := digesting.unasked
  still := opened.trans digesting.still
  unfired := fired.trans digesting.unfired
  less := by rw [unread]; exact digesting.less

/-- Whatever went wrong with the new bytes is reported alone. -/
theorem fails {service : Service σ} (digesting : Digesting before events session) {error : Error}
    (cause : events.Faulted error ∨ Turn.OfAllocator service error)
    (alone : ∀ other, events.Faulted other → error = other ∨ Turn.OfAllocator service error) :
    Midway service before events (.calling (.report error session.channel.pending)) session :=
  ⟨.failed error session.channel.pending, by rw [digesting.silent]; rfl,
    { starts := ⟨digesting.opened, digesting.unasked⟩
      explained := cause
      buffer := rfl
      alone
      unfired := fun _ => digesting.unfired }, digesting.still, digesting.unfired, digesting.less⟩

end Digesting

namespace Ready

variable {service : Service σ} {before session after : Session σ} {events own : Journal}
  {call : Call}

theorem calm_called (ready : Ready service before events call session)
    (mine : ∀ event ∈ own, event.isOwn = true) (error : Error) :
    ¬ (events ++ ([call.event] ++ own)).Faulted error := by
  intro faulted
  rcases Journal.faulted_append.mp faulted with early | late
  · exact ready.calm error early
  · exact (Journal.faulted_append.mp late).elim (Journal.not_faulted_call call)
      (Journal.not_faulted_own mine)

theorem callbacks_called (ready : Ready service before events call session)
    (mine : ∀ event ∈ own, event.isOwn = true) :
    (events ++ ([call.event] ++ own)).callbacks = [call.event] := by
  rw [Journal.callbacks_append, Journal.callbacks_append, ready.silent, Journal.callbacks_own mine]
  cases call <;> rfl

theorem made (ready : Ready service before events call session)
    (first : ∀ error pending, call ≠ .report error pending)
    (mine : ∀ event ∈ own, event.isOwn = true)
    (same : after.channel.pending = session.channel.pending)
    (fired : (call.turn none).isClosing = false →
      after.channel.closeFired = session.channel.closeFired) (fault : Option Panic)
    (came : ∀ payload ∈ fault, Call.Returned service before.journal
      (before.journal ++ (events ++ ([call.event] ++ own))) call (.error payload)) :
    (call.turn fault).Made service before (events ++ ([call.event] ++ own)) after where
  starts := by cases call <;> exact ready.starts
  explained := by cases call <;> first | exact came | exact absurd rfl (first _ _)
  buffer := by cases call <;> exact ready.buffer.trans same.symm
  alone := fun error faulted => (ready.calm_called mine error faulted).elim
  unfired := by
    have unfired := ready.leaves
    cases call with
    | closing _ => exact fun other => by simp [Call.turn, Turn.isClosing] at other
    | report _ _ => exact absurd rfl (first _ _)
    | opening | idle _ => exact fun _ => (fired rfl).trans unfired.2
    | fed _ => exact fun _ => (fired rfl).trans unfired.2.1

/-- Once the first callback is over, the unit is, or a report follows. -/
theorem called (ready : Ready service before events call session)
    (first : ∀ error pending, call ≠ .report error pending)
    (start : session.journal = before.journal ++ events) {result : Except Panic Unit}
    (ran : Run.attempt (call.program service.callbacks).run (session.record call.event) =
      (.done result, after))
    (grown : after.journal = session.journal ++ [call.event] ++ own)
    (mine : ∀ event ∈ own, event.isOwn = true)
    (inward : session.channel.SameInward after.channel) :
    Midway service before (events ++ ([call.event] ++ own))
      (call.next service.bufferSize after.channel.pending result)
      (after.updateChannel call.mark) := by
  have whole : after.journal = before.journal ++ (events ++ ([call.event] ++ own)) := by
    simp [grown, start]
  have came : Call.Returned service before.journal
      (before.journal ++ (events ++ ([call.event] ++ own))) call result :=
    ⟨session, after, start ▸ List.prefix_append .., ran, whole ▸ List.prefix_refl _⟩
  have fired := ready.callbacks_called mine
  have pending : after.channel.pending = session.channel.pending := inward.pending
  have same : (after.updateChannel call.mark).channel.pending = session.channel.pending := by
    rw [← pending]
    cases call <;> rfl
  have unmarked : (call.turn none).isClosing = false →
      (after.updateChannel call.mark).channel.closeFired = session.channel.closeFired := by
    cases call with
    | closing _ => exact fun other => by simp [Call.turn, Turn.isClosing] at other
    | opening | idle _ | fed _ | report _ _ => exact fun _ => inward.closeFired
  have leaves (fault : Option Panic) :
      (call.turn fault).Leaves before.channel (after.updateChannel call.mark).channel := by
    have plain := ready.leaves
    obtain ⟨_, _, _, _, same⟩ := inward
    rw [Session.updateChannel, same]
    cases call <;> exact plain
  cases result with
  | error payload =>
    have made := ready.made first mine same unmarked (some payload)
      (fun other member => by obtain rfl := Option.mem_some.mp member; exact came)
    have buffer := ready.buffer
    cases call with
    | opening =>
      refine ⟨_, ?_, made, leaves (some payload)⟩
      rw [fired]
      rfl
    | report error pending => exact absurd rfl (first _ _)
    | idle _ | fed _ | closing _ =>
      refine ⟨_, ?_, made, leaves (some payload)⟩
      rw [fired, pending, ← buffer]
      rfl
  | ok value =>
    have made := ready.made first mine same unmarked none (fun _ member => by simp at member)
    cases call with
    | opening | idle _ | closing _ =>
      refine ⟨_, ?_, made, leaves none⟩
      rw [fired]
      rfl
    | report error pending => exact absurd rfl (first _ _)
    | fed left =>
      have buffer := ready.buffer
      by_cases full : service.bufferSize ≤ left.length
      · have asked : after.channel.closeRequested = true :=
          inward.closeRequested.trans (ready.full left rfl full)
        obtain ⟨opened, unfired, less⟩ := leaves none
        rw [Call.next, if_pos full]
        refine ⟨.stalled left service.bufferSize, ?_, ?_, opened, unfired, less, asked⟩
        · rw [fired, pending, ← buffer]
          rfl
        · exact
            { starts := ready.starts
              explained := ⟨came, rfl, full⟩
              buffer := buffer.trans same.symm
              alone := fun error faulted => (ready.calm_called mine error faulted).elim
              unfired := fun _ => unfired }
      · rw [Call.next, if_neg full]
        refine ⟨_, ?_, made, leaves none⟩
        rw [fired]
        rfl

end Ready

theorem Turn.Made.called {service : Service σ} {before session after : Session σ}
    {events own : Journal} {turn : Turn} {error : Error} {pending : Bytes}
    (made : turn.Made service before events session)
    (fired : turn.callbacks = events.callbacks ++ [.failed error pending])
    (mine : ∀ event ∈ own, event.isOwn = true)
    (same : after.channel.pending = session.channel.pending)
    (unmarked : after.channel.closeFired = session.channel.closeFired) :
    turn.callbacks = (events ++ ([Call.event (.report error pending)] ++ own)).callbacks ∧
      turn.Made service before (events ++ ([Call.event (.report error pending)] ++ own)) after := by
  constructor
  · rw [Journal.callbacks_append, Journal.callbacks_append, Journal.callbacks_own mine, fired]
    rfl
  · refine made.extend (fun other faulted => ?_) same unmarked
    exact (Journal.faulted_append.mp faulted).elim
      (Journal.not_faulted_call (.report error pending)) (Journal.not_faulted_own mine)

theorem Service.place_panicked {service : Service σ} {placement : Placement}
    {session after : Session σ} {payload : Panic}
    (placed : service.place placement session = (.panicked payload, after)) :
    Turn.OfAllocator service (.panic payload) := by
  cases placement with
  | inPlace bytes => simp [place, Placement.place] at placed
  | copied bytes =>
    rcases answer : service.allocator bytes.length session.state with ⟨content | failure, next⟩
    · refine ⟨payload, bytes.length, session.state, rfl, ?_⟩
      have same := (Prod.mk.inj placed).1
      simp only [place, Placement.place, answer] at placed
      rw [answer, Outcome.panicked.inj (Prod.mk.inj placed).1]
    · simp [place, Placement.place, answer] at placed

namespace Midway

variable {service : Service σ} {before session after : Session σ} {point next : Point}

private theorem extend_own {events own : Journal} (mine : ∀ event ∈ own, event.isOwn = true)
    (calm : ∀ error, ¬ events.Faulted error) (error : Error) : ¬ (events ++ own).Faulted error :=
  fun faulted =>
    (Journal.faulted_append.mp faulted).elim (calm error) (Journal.not_faulted_own mine)

theorem move (unopened : before.channel.opened = false → before.channel.pending = [])
    (move : Move service point session next after)
    (stands : ∃ events, session.journal = before.journal ++ events ∧
      Midway service before events point session) :
    ∃ events, after.journal = before.journal ++ events ∧
      Midway service before events next after := by
  obtain ⟨events, start, midway⟩ := stands
  cases move with
  | opens closed =>
    obtain ⟨rfl, rfl⟩ := midway
    refine ⟨[], start, ?_⟩
    exact
      { silent := rfl
        calm := by simp [Journal.Faulted]
        starts := closed
        buffer := (unopened closed).symm
        leaves := ⟨rfl, rfl⟩
        full := by simp }
  | closes opened found =>
    obtain ⟨rfl, rfl⟩ := midway
    refine ⟨[], start, ?_⟩
    rw [Session.updateChannel, Channel.release_eq]
    exact
      { silent := rfl
        calm := by simp [Journal.Faulted]
        starts := ⟨opened, found⟩
        buffer := rfl
        leaves := ⟨opened, rfl⟩
        full := by simp }
  | idles opened found =>
    obtain ⟨rfl, rfl⟩ := midway
    refine ⟨[], start, ?_⟩
    exact
      { silent := rfl
        calm := by simp [Journal.Faulted]
        starts := ⟨opened, found⟩
        buffer := rfl
        leaves := ⟨opened, rfl⟩
        full := by simp }
  | overflows opened found =>
    obtain ⟨rfl, rfl⟩ := midway
    obtain ⟨_, _, much, text⟩ := Channel.probe_error found
    refine ⟨[], start, .overflowed _ session.channel.pending, rfl, ?_, opened, rfl⟩
    exact
      { starts := ⟨opened, found⟩
        explained := ⟨text, Nat.lt_of_lt_of_le much (Nat.sub_le ..)⟩
        buffer := rfl
        alone := by simp [Journal.Faulted]
        unfired := fun _ => rfl }
  | reads opened found =>
    obtain ⟨rfl, rfl⟩ := midway
    obtain ⟨_, unasked, some, taken, rfl⟩ := Channel.probe_data found
    refine ⟨[.read _], rfl, ?_, by simp [Journal.Faulted]⟩
    refine ⟨rfl, opened, unasked, opened, rfl, ?_⟩
    rw [taken] at some
    have room : 0 < service.room session.channel ∧
        0 < session.channel.connection.unread.length := by
      rw [← List.length_pos_iff, List.length_take] at some
      omega
    simp only [Session.record, List.length_drop]
    omega
  | @joins pending fresh _ after buffer placed =>
    obtain ⟨same, grown⟩ := Service.place_after placed
    obtain ⟨digesting, calm⟩ := midway
    have own := (Placement.extend pending fresh).events_own
    refine ⟨events ++ (Placement.extend pending fresh).events, ?_, ?_, extend_own own calm⟩
    · simp [Session.updateChannel, grown, start]
    · exact { digesting.extend own (congrArg Channel.opened same) (congrArg Channel.closeFired same)
        (by rw [same]) with }
  | @joinFails pending fresh _ _ payload placed =>
    obtain ⟨same, grown⟩ := Service.place_after placed
    obtain ⟨digesting, calm⟩ := midway
    have own := (Placement.extend pending fresh).events_own
    have still := digesting.extend own (congrArg Channel.opened same)
      (congrArg Channel.closeFired same) (by rw [same])
    refine ⟨_, by rw [grown, start, List.append_assoc], ?_⟩
    exact still.fails (.inr (Service.place_panicked placed))
      fun other faulted => (extend_own own calm other faulted).elim
  | @runs buffer _ _ result rest ran =>
    obtain ⟨_, middle, _, work, grown, channel⟩ := Service.chain_after ran
    obtain ⟨digesting, calm⟩ := midway
    obtain ⟨own, added, mine⟩ := work.grows
    have flags : after.channel.opened = session.channel.opened ∧
        after.channel.closeFired = session.channel.closeFired ∧
        after.channel.connection.unread = session.channel.connection.unread := by
      rcases channel with ⟨_, channel⟩ | ⟨_, _, _, channel⟩ <;> rw [channel] <;>
        exact ⟨work.sameInward.opened, work.sameInward.closeFired, work.sameInward.unread⟩
    have still : Digesting before (events ++ own) after :=
      digesting.extend mine flags.1 flags.2.1 flags.2.2
    refine ⟨events ++ own ++ [.chained buffer rest (Service.fault? result)], ?_,
      { still with silent := by rw [Journal.callbacks_append, still.silent]; rfl }, ?_⟩
    · rw [grown, added, start]
      simp only [List.append_assoc]
    · intro error
      rw [Journal.faulted_append, Journal.faulted_chained]
      exact or_iff_right (extend_own mine calm error)
  | runHangs ran =>
    obtain ⟨own, added, mine⟩ := (Service.chain_hung ran).grows
    refine ⟨events ++ own, by rw [added, start, List.append_assoc], ?_⟩
    refine .inl ⟨?_, extend_own mine midway.2,
      (Service.chain_hung ran).sameInward.closeFired.trans midway.1.unfired⟩
    rw [Journal.callbacks_append, midway.1.silent, Journal.callbacks_own mine]
    rfl
  | @keeps rest offered _ after left result placed =>
    obtain ⟨same, grown⟩ := Service.place_after placed
    obtain ⟨digesting, faults⟩ := midway
    have own := (Placement.compact rest offered).events_own
    have kept : Digesting before (events ++ (Placement.compact rest offered).events) after :=
      digesting.extend own (congrArg Channel.opened same) (congrArg Channel.closeFired same)
        (by rw [same])
    have still : Digesting before (events ++ (Placement.compact rest offered).events)
        (after.updateChannel (·.keep service.bufferSize left)) := { kept with }
    have faults' (error : Error) :
        (events ++ (Placement.compact rest offered).events).Faulted error ↔
          result = .error error := by
      rw [Journal.faulted_append, faults error]
      exact or_iff_left (Journal.not_faulted_own own)
    refine ⟨_, by rw [Session.updateChannel, grown, start, List.append_assoc], ?_⟩
    cases result with
    | error error =>
      exact still.fails (.inl ((faults' error).mpr rfl))
        fun other faulted => .inl (Except.error.inj ((faults' other).mp faulted))
    | ok _ =>
      exact
        { silent := still.silent
          calm := fun error faulted => by simpa using (faults' error).mp faulted
          starts := ⟨still.opened, still.unasked⟩
          buffer := rfl
          leaves := ⟨still.still, still.unfired, still.less⟩
          full := fun other same full => by
            obtain rfl := Call.fed.inj same
            simp [Session.updateChannel, Channel.keep, full] }
  | @keepFails rest offered _ _ payload _ placed =>
    obtain ⟨same, grown⟩ := Service.place_after placed
    obtain ⟨digesting, faults⟩ := midway
    have own := (Placement.compact rest offered).events_own
    have still := digesting.extend own (congrArg Channel.opened same)
      (congrArg Channel.closeFired same) (by rw [same])
    refine ⟨_, by rw [grown, start, List.append_assoc], ?_⟩
    exact still.fails (.inr (Service.place_panicked placed))
      fun _ _ => .inr (Service.place_panicked placed)
  | calls call ran =>
    have work := Run.attempt_handled ran
    obtain ⟨own, grown, mine⟩ := work.grows
    have whole := grown
    rw [Session.record, start, List.append_assoc, List.append_assoc] at whole
    refine ⟨_, whole, ?_⟩
    cases call with
    | opening | idle _ | fed _ | closing _ =>
      exact Ready.called midway (by simp) start ran grown mine work.sameInward
    | report error pending =>
      obtain ⟨turn, fired, made, leaves⟩ := midway
      obtain ⟨callbacks, made⟩ :=
        made.called fired mine work.sameInward.pending work.sameInward.closeFired
      refine ⟨turn, callbacks, { made with }, ?_⟩
      obtain ⟨_, _, _, _, same⟩ := work.sameInward
      rw [Session.updateChannel, same]
      cases turn <;> exact leaves
  | callHangs call ran =>
    have work := Run.attempt_handled ran
    obtain ⟨own, grown, mine⟩ := work.grows
    have whole := grown
    rw [Session.record, start, List.append_assoc, List.append_assoc] at whole
    have kept : after.channel.pending = session.channel.pending := work.sameInward.pending
    refine ⟨_, whole, .inr ?_⟩
    cases call with
    | opening | idle _ | fed _ | closing _ =>
      refine ⟨_, ?_, Ready.made midway (by simp) mine kept
        (fun _ => work.sameInward.closeFired) none (by simp)⟩
      exact (Ready.callbacks_called midway mine).symm
    | report error pending =>
      obtain ⟨turn, fired, made, _⟩ := midway
      exact ⟨turn, made.called fired mine kept work.sameInward.closeFired⟩

/-- Every callback is given the bytes that are pending when it is called. -/
theorem given {events : Journal} {call : Call}
    (midway : Midway service before events (.calling call) session) :
    call.buffer = session.channel.pending := by
  cases call with
  | opening | idle _ | fed _ | closing _ => exact Ready.buffer midway
  | report error pending =>
    obtain ⟨turn, fired, made, _⟩ := midway
    rw [← made.buffer]
    have member : .failed error pending ∈ turn.callbacks := by simp [fired]
    exact Turn.failed_given member

end Midway

namespace Session

variable {service : Service σ} {session : Session σ}

/-- What a unit of work adds to the journal: a turn that is over, or, if the unit hangs, a turn
that came to its last callback or no callback at all. -/
theorem work_turn (service : Service σ) (session : Session σ)
    (unopened : session.channel.opened = false → session.channel.pending = []) :
    ∃ events, (session.work service).journal = session.journal ++ events ∧
      ((session.work service).channel.locked = true ∧ events.callbacks = [] ∧
          (∀ error, ¬ events.Faulted error) ∧
          (session.work service).channel.closeFired = session.channel.closeFired ∨
        ∃ turn : Turn, turn.callbacks = events.callbacks ∧
          turn.Made service session events (session.work service) ∧
          ((session.work service).channel.locked = true ∨
            turn.Leaves session.channel (session.work service).channel)) := by
  have begun : ∃ events, session.lock.journal = session.lock.journal ++ events ∧
      Midway service session.lock events .begun session.lock := ⟨[], by simp, rfl, rfl⟩
  have unlocked {events : Journal} {turn : Turn} {final : Session σ}
      (made : turn.Made service session.lock events final) :
      turn.Made service session events final := by
    refine { made with starts := ?_ }
    have starts := made.starts
    cases turn
    case closing | idle | overflowed => exact ⟨starts.1, (Channel.probe_locked ..) ▸ starts.2⟩
    all_goals exact starts
  obtain ⟨final, ⟨course, same⟩ | ⟨course, same⟩⟩ := session.work_course service <;> rw [same] <;>
    obtain ⟨events, grown, midway⟩ := course.keeps
      (fun point after => ∃ events, after.journal = session.lock.journal ++ events ∧
        Midway service session.lock events point after)
      (fun {_ _ _ _} => Midway.move unopened) begun <;>
    refine ⟨events, grown, ?_⟩
  · obtain ⟨turn, fired, made, leaves⟩ := midway
    refine .inr ⟨turn, fired, { unlocked made with }, .inr ?_⟩
    cases turn <;> exact leaves
  · have locked : final.channel.locked = true := course.steady.locked
    rcases midway with silent | ⟨turn, fired, made⟩
    · exact .inl ⟨locked, silent⟩
    · exact .inr ⟨turn, fired, unlocked made, .inl locked⟩

end Session

end StreamDispatch
