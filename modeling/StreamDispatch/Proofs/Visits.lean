import StreamDispatch.Proofs.Conservation
import StreamDispatch.Proofs.Echoing
import StreamDispatch.Proofs.Oversize

/-! What a visit comes to, exactly. A service that has no callbacks and no allocator of its own, and
whose chain cuts frames and hands them to one more handler, does one of five things to a channel that
is not busy: it opens it, closes it, waits, reads and answers, or asks for more room than there is. -/
namespace StreamDispatch

variable {σ : Type}

/-- A handler that takes every row of frames in, and answers with bytes that reach the peer, as long
as the channel is open and its output is as the handler needs it. -/
def Handler.Answers (last : Handler σ) (ready : Option Bytes → Prop)
    (answer : List Bytes → Bytes) (absorb : σ → List Bytes → σ) : Prop :=
  ∀ frames (session : Session σ), session.channel.closed = false → ready session.channel.output →
    ∃ journal, (last.onItem (.frames frames)).run session =
      (.done (.ok none), ⟨session.channel.deliver (answer frames), absorb session.state frames,
        journal⟩)

/-- A service that only cuts frames and answers them. -/
structure Service.Plain (service : Service σ) (framing : Framing) (ready : Option Bytes → Prop)
    (answer : List Bytes → Bytes) (absorb : σ → List Bytes → σ) : Prop where
  callbacks : service.callbacks = {}
  allocator : service.allocator = Allocator.empty
  chain : ∃ last : Handler σ, service.handlers = [framing.handler, last] ∧
    last.Answers ready answer absorb
  nothing : answer [] = [] ∧ ∀ state, absorb state [] = state

namespace Channel

def fed (channel : Channel) (limit : Nat) (cut : Framing.Cut) (answer : Bytes) : Channel :=
  { channel with
    connection :=
      { channel.connection with
        unread := channel.connection.unread.drop (limit - channel.pending.length)
        delivered := channel.connection.delivered ++ answer }
    pending := cut.rest
    closeRequested := decide (limit ≤ cut.rest.length) }

end Channel

namespace Session

/-- What a visit of a sweep can come to on a channel that is not busy and not done. -/
inductive Visits (framing : Framing) (limit : Nat) (answer : List Bytes → Bytes)
    (absorb : σ → List Bytes → σ) (before after : Session σ) : Prop where
  | opens (unopened : before.channel.opened = false)
      (channel : after.channel = { before.channel with opened := true })
      (state : after.state = before.state)
  | closes (opened : before.channel.opened = true)
      (cause : before.channel.closed = true ∨ before.channel.closeRequested = true ∨
        before.channel.reading = false ∨ before.channel.connection.broken = true ∨
        before.channel.connection.unread = [] ∧ before.channel.connection.ended = true)
      (channel : after.channel = { before.channel.release with closeFired := true })
      (state : after.state = before.state)
  | waits (opened : before.channel.opened = true) (live : before.channel.closed = false)
      (unasked : before.channel.closeRequested = false)
      (nothing : limit ≤ before.channel.pending.length ∨
        before.channel.connection.unread = [] ∧ before.channel.connection.ended = false)
      (channel : after.channel = before.channel) (state : after.state = before.state)
  | balks (much : Word.maxCapacity < limit - before.channel.pending.length)
      (channel : after.channel = before.channel) (state : after.state = before.state)
  | reads (cut : Framing.Cut) (opened : before.channel.opened = true)
      (live : before.channel.closed = false) (unasked : before.channel.closeRequested = false)
      (some : before.channel.connection.unread.take (limit - before.channel.pending.length) ≠ [])
      (possible : limit - before.channel.pending.length ≤ Word.maxCapacity)
      (found : cut = framing.cut (before.channel.pending ++
        before.channel.connection.unread.take (limit - before.channel.pending.length)))
      (channel : after.channel = before.channel.fed limit cut (answer cut.frames))
      (state : after.state = absorb before.state cut.frames)

variable {service : Service σ} {framing : Framing} {ready : Option Bytes → Prop}
  {answer : List Bytes → Bytes} {absorb : σ → List Bytes → σ} {session : Session σ}

/-- The chain cuts off what it can and answers it. -/
theorem chain_plain (plain : service.Plain framing ready answer absorb) (session : Session σ)
    (buffer : Bytes) (live : session.channel.closed = false) (fit : ready session.channel.output) :
    ∃ result journal, service.chain buffer session =
      (.done (result, (framing.cut buffer).rest),
        ⟨session.channel.deliver (answer (framing.cut buffer).frames),
          absorb session.state (framing.cut buffer).frames, journal⟩) := by
  obtain ⟨last, chain, answers⟩ := plain.chain
  have rest := framing.decode_rest buffer
  have ran : ∃ ended journal, Handler.runBuffer service.handlers
      (session.withState (session.state, buffer)) =
        (.done ended, ⟨session.channel.deliver (answer (framing.cut buffer).frames),
          (absorb session.state (framing.cut buffer).frames, (framing.cut buffer).rest),
          journal⟩) := by
    rw [chain, Handler.runBuffer, Run.bind_apply, framing.handler_run]
    simp only [withState]
    rcases decoded : framing.decode buffer with ⟨fault | frames, left⟩ <;>
      rw [decoded] at rest <;> subst rest
    · have failed : (framing.decode buffer).1 = .error fault := by rw [decoded]
      obtain ⟨nothing, _⟩ := Framing.decode_error_iff.mp failed
      rw [nothing, plain.nothing.1, plain.nothing.2]
      refine ⟨.error (.frame fault), session.journal, ?_⟩
      simp [Framing.verdict, Channel.deliver, Run.pure_apply]
    · have same := Framing.decode_ok (by rw [decoded])
      rw [← same]
      cases frames with
      | nil =>
        rw [plain.nothing.1, plain.nothing.2]
        refine ⟨.ok (), session.journal, ?_⟩
        simp [Framing.verdict, Channel.deliver, Run.pure_apply]
      | cons frame later =>
        obtain ⟨journal, ran⟩ := answers (frame :: later) session live fit
        refine ⟨.ok (), journal, ?_⟩
        simp [Framing.verdict, Run.beside, withState, Handler.runItems, Run.bind_apply, ran,
          Run.pure_apply]
  obtain ⟨ended, journal, ran⟩ := ran
  have lent : Run.lend buffer (Handler.runBuffer service.handlers) session =
      (.done (.ok ended, (framing.cut buffer).rest),
        ⟨session.channel.deliver (answer (framing.cut buffer).frames),
          absorb session.state (framing.cut buffer).frames, journal⟩) := by
    rw [Run.lend, ran]
    rfl
  refine ⟨ended, journal ++ [.chained buffer (framing.cut buffer).rest (Service.fault? ended)], ?_⟩
  rw [Service.chain, Run.bind_apply, lent]
  rfl

theorem place_plain (plain : service.Plain framing ready answer absorb) (session : Session σ)
    (placement : Placement) :
    ∃ journal, service.place placement session =
      (.done placement.bytes, ⟨session.channel, session.state, journal⟩) := by
  cases placement <;>
    exact ⟨_, by simp [Service.place, Placement.place, plain.allocator, Allocator.empty,
      Placement.bytes]; rfl⟩

theorem loop_plain (plain : service.Plain framing ready answer absorb) (fresh : Bool)
    (pending : Bytes) :
    service.loop fresh pending session = (.done (), session.record (.looped fresh pending)) := by
  simp only [Service.loop, plain.callbacks, Run.bind_apply, Run.record]
  rfl

theorem conclude_plain (plain : service.Plain framing ready answer absorb) (session : Session σ)
    (left : Bytes) (ended : Except Error Unit) : ∃ result journal,
      service.conclude left ended session =
        (.done result, ⟨session.channel, session.state, journal⟩) := by
  cases ended with
  | error error => exact ⟨_, _, rfl⟩
  | ok _ =>
    simp only [Service.conclude, Run.bind_apply, loop_plain plain]
    split <;> exact ⟨_, _, rfl⟩

theorem digest_plain (plain : service.Plain framing ready answer absorb) (session : Session σ)
    (pending fresh : Bytes) (live : session.channel.closed = false)
    (fit : ready session.channel.output) :
    let cut := framing.cut (pending ++ fresh)
    ∃ result journal, service.digest pending fresh session =
      (.done result, ⟨(session.channel.deliver (answer cut.frames)).keep service.bufferSize cut.rest,
        absorb session.state cut.frames, journal⟩) := by
  intro cut
  obtain ⟨first, joined⟩ := place_plain plain session (.extend pending fresh)
  rw [Placement.bytes_extend] at joined
  obtain ⟨ended, second, ran⟩ := chain_plain plain
    ⟨{ session.channel with pending := pending ++ fresh }, session.state, first⟩
    (pending ++ fresh) live fit
  obtain ⟨third, placed⟩ := place_plain plain
    ⟨({ session.channel with pending := pending ++ fresh }).deliver (answer cut.frames),
      absorb session.state cut.frames, second⟩ (.compact cut.rest (pending ++ fresh).length)
  rw [Placement.bytes_compact] at placed
  obtain ⟨result, journal, concluded⟩ := conclude_plain plain
    ⟨(session.channel.deliver (answer cut.frames)).keep service.bufferSize cut.rest,
      absorb session.state cut.frames, third⟩ cut.rest ended
  refine ⟨result, journal, ?_⟩
  rw [← concluded]
  simp only [Service.digest, Run.bind_apply, joined, Service.publish, Run.update, updateChannel, ran]
  rw [placed]
  simp only [Service.keep_apply]
  rfl

/-- What a receive cycle does on a channel that was opened. Only its read can panic. -/
theorem cycle_plain (plain : service.Plain framing ready answer absorb)
    (fit : session.channel.closed = false → ready session.channel.output)
    (opened : session.channel.opened = true) :
    ∃ result after, Run.attempt service.cycle session = (.done result, after) ∧
      session.Visits framing service.bufferSize answer absorb after := by
  have probed := service.probe_apply session
  rcases session.channel.probe_cases (service.room session.channel) with
    ⟨cause, found⟩ | ⟨⟨live, unasked, nothing⟩, found⟩ | ⟨⟨_, _, much⟩, found⟩ |
      ⟨⟨live, unasked, some⟩, found⟩ <;>
    rw [found] at probed
  · have finished : service.finish session =
        (.done (), ⟨{ session.channel.release with closeFired := true }, session.state,
          session.journal ++ [.closed session.channel.release.pending]⟩) := by
      simp only [Service.finish, plain.callbacks, Run.bind_apply, Run.update, Run.channel,
        Run.record, Run.attempt]
      rfl
    have ran : service.cycle session =
        (.done (.ok ()), ⟨{ session.channel.release with closeFired := true }, session.state,
          session.journal ++ [.closed session.channel.release.pending]⟩) := by
      simp only [Service.cycle, Run.bind_apply, Run.channel, probed, finished]
      rfl
    exact ⟨_, _, Run.attempt_ok ran, .closes opened cause rfl rfl⟩
  · have ran : service.cycle session =
        (.done (.ok ()), session.record (.looped false session.channel.pending)) := by
      simp only [Service.cycle, Run.bind_apply, Run.channel, probed, loop_plain plain]
      rfl
    exact ⟨_, _, Run.attempt_ok ran,
      .waits opened live unasked (nothing.imp_left Nat.le_of_sub_eq_zero) rfl rfl⟩
  · have ran : service.cycle session = (.panicked (.text "capacity overflow"), session) := by
      simp only [Service.cycle, Run.bind_apply, Run.channel, probed]
    exact ⟨_, _, Run.attempt_error ran, .balks much rfl rfl⟩
  · let cut := framing.cut (session.channel.pending ++
      session.channel.connection.unread.take (service.room session.channel))
    obtain ⟨result, journal, digested⟩ := digest_plain plain
      (Session.record { session with channel := { session.channel with connection :=
        { session.channel.connection with
          unread := session.channel.connection.unread.drop (service.room session.channel) } } }
        (.read (session.channel.connection.unread.take (service.room session.channel))))
      session.channel.pending
      (session.channel.connection.unread.take (service.room session.channel)) live (fit live)
    have ran : service.cycle session = (.done result,
        ⟨session.channel.fed service.bufferSize cut (answer cut.frames),
          absorb session.state cut.frames, journal⟩) := by
      simp only [Service.cycle, Run.bind_apply, Run.channel, probed]
      refine digested.trans ?_
      simp [cut, Channel.fed, Channel.keep, Channel.deliver, Session.record, unasked, Service.room]
    have possible := Channel.probe_data_fits (congrArg Prod.fst found)
    exact ⟨_, _, Run.attempt_ok ran, .reads cut opened live unasked some possible rfl rfl rfl⟩

theorem report_plain (plain : service.Plain framing ready answer absorb) (error : Error)
    (pending : Bytes) :
    service.report error pending session = (.done (), session.record (.failed error pending)) := by
  simp only [Service.report, plain.callbacks, Run.bind_apply, Run.record, Run.attempt]
  rfl

/-- The journal is no part of what a visit comes to. -/
theorem Visits.record {after : Session σ} {limit : Nat}
    (visits : session.Visits framing limit answer absorb after) (event : Event) :
    session.Visits framing limit answer absorb (after.record event) := by
  cases visits with
  | opens unopened channel state => exact .opens unopened channel state
  | closes opened cause channel state => exact .closes opened cause channel state
  | waits opened live unasked nothing channel state =>
    exact .waits opened live unasked nothing channel state
  | balks much channel state => exact .balks much channel state
  | reads cut opened live unasked some possible found channel state =>
    exact .reads cut opened live unasked some possible found channel state

theorem receive_plain (plain : service.Plain framing ready answer absorb) (session : Session σ)
    (fit : session.channel.closed = false → ready session.channel.output)
    (opened : session.channel.opened = true) :
    ∃ after, service.receive session = (.done (), after) ∧
      session.Visits framing service.bufferSize answer absorb after := by
  obtain ⟨result, after, ran, visits⟩ := cycle_plain plain fit opened
  match result with
  | .ok (.ok ()) =>
    refine ⟨after, ?_, visits⟩
    simp only [Service.receive, Run.bind_apply, ran]
    rfl
  | .ok (.error error) =>
    refine ⟨after.record (.failed error after.channel.pending), ?_, visits.record _⟩
    simp only [Service.receive, Run.bind_apply, ran, Run.channel, report_plain plain]
  | .error payload =>
    refine ⟨after.record (.failed (.panic payload) after.channel.pending), ?_, visits.record _⟩
    simp only [Service.receive, Run.bind_apply, ran, Run.channel, report_plain plain]

theorem Visits.unlock {after : Session σ} {limit : Nat} (free : session.channel.locked = false)
    (visits : session.lock.Visits framing limit answer absorb after) :
    session.Visits framing limit answer absorb after.unlock := by
  cases visits with
  | opens unopened channel state =>
    refine .opens unopened ?_ state
    simp [Session.unlock, lock, updateChannel, channel, ← free]
  | closes opened cause channel state =>
    refine .closes opened cause ?_ state
    simp [Session.unlock, lock, updateChannel, channel, Channel.release_eq, Channel.deliver, ← free]
  | waits opened live unasked nothing channel state =>
    refine .waits opened live unasked nothing ?_ state
    simp [Session.unlock, lock, updateChannel, channel, ← free]
  | balks much channel state =>
    refine .balks much ?_ state
    simp [Session.unlock, lock, updateChannel, channel, ← free]
  | reads cut opened live unasked some possible found channel state =>
    refine .reads cut opened live unasked some possible found ?_ state
    simp [Session.unlock, lock, updateChannel, channel, Channel.fed, ← free]

theorem visit_visits (plain : service.Plain framing ready answer absorb)
    (free : session.channel.locked = false) (unfired : session.channel.closeFired = false)
    (fit : session.channel.closed = false → ready session.channel.output) :
    ∃ after, session.visit service false = some after ∧
      session.Visits framing service.bufferSize answer absorb after := by
  have visited : session.visit service false = some (session.work service) := by
    simp [visit, poll, unfired, free]
  refine ⟨_, visited, ?_⟩
  cases opened : session.channel.opened with
  | false =>
    have unit : service.unit session.lock = (.done (),
        ⟨{ session.lock.channel with opened := true }, session.state,
          session.journal ++ [.opened]⟩) := by
      have closed : session.lock.channel.opened = false := opened
      simp only [Service.unit, Run.bind_apply, Run.channel, closed, Service.opening, plain.callbacks]
      rfl
    have same : session.work service = Session.unlock
        ⟨{ session.lock.channel with opened := true }, session.state,
          session.journal ++ [.opened]⟩ := by
      rw [work, ← lock, unit]
      rfl
    rw [same]
    exact Visits.unlock free (.opens opened rfl rfl)
  | true =>
    obtain ⟨after, ran, visits⟩ := receive_plain plain session.lock fit opened
    have unit : service.unit session.lock = (.done (), after) := by
      simpa [Service.unit, Run.bind_apply, Run.channel, lock, updateChannel, opened] using ran
    have same : session.work service = after.unlock := by
      rw [work, ← lock, unit]
      rfl
    rw [same]
    exact visits.unlock free

end Session

end StreamDispatch
