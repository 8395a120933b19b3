import StreamDispatch.Proofs.Course

/-! The life of one channel. Its peer, the application and the sweeps of the dispatch loop act on a
session in any order; what every step keeps, every life keeps. -/
namespace StreamDispatch

variable {σ : Type}

namespace Session

/-- What can happen to a session between two units of work, and the visits that run them. -/
inductive Step where
  | arrive (bytes : Bytes)
  | peerEnds
  | breaks
  | act (action : Action)
  /-- A sweep comes by. -/
  | visit (closing : Bool)
  deriving DecidableEq, Repr

/-- A session that was let go stays as it is. -/
def step (service : Service σ) (session : Session σ) : Step → Session σ
  | .arrive bytes => (session.arrive bytes).2
  | .peerEnds => session.peerEnds
  | .breaks => session.breaks
  | .act action => (session.perform action).2
  | .visit closing => (session.visit service closing).getD session

def live (service : Service σ) (steps : List Step) (session : Session σ) : Session σ :=
  steps.foldl (step service) session

/-- A session as it is after some life, beginning as a new connection. -/
def Lived (service : Service σ) (session : Session σ) : Prop :=
  ∃ id steps, session = (service.session id).live service steps

theorem live_lived (service : Service σ) (id : Nat) (steps : List Step) :
    ((service.session id).live service steps).Lived service := ⟨id, steps, rfl⟩

def lock (session : Session σ) : Session σ := session.updateChannel ({ · with locked := true })

def unlock (session : Session σ) : Session σ := session.updateChannel ({ · with locked := false })

def request (session : Session σ) : Session σ :=
  session.updateChannel ({ · with closeRequested := true })

variable {service : Service σ} {session : Session σ}

@[simp] theorem live_nil : session.live service [] = session := rfl

@[simp] theorem live_append (earlier later : List Step) :
    session.live service (earlier ++ later) =
      (session.live service earlier).live service later := by
  simp [live]

theorem live_snoc (earlier : List Step) (last : Step) :
    session.live service (earlier ++ [last]) =
      (session.live service earlier).step service last := by
  simp [live]

theorem live_keeps (holds : Session σ → Prop)
    (step : ∀ session step, holds session → holds (session.step service step))
    (start : holds session) (steps : List Step) : holds (session.live service steps) := by
  induction steps generalizing session with
  | nil => exact start
  | cons first rest ih => exact ih (step session first start)

/-- What every step keeps unless something happens in it, every life keeps in which it never
happens. -/
theorem live_keeps_unless (happens : Session σ → Step → Prop) (holds : Session σ → Prop)
    (step : ∀ session step, ¬ happens session step → holds session →
      holds (session.step service step))
    {steps : List Step}
    (never : ∀ earlier step later, steps = earlier ++ step :: later →
      ¬ happens (session.live service earlier) step)
    (start : holds session) : holds (session.live service steps) := by
  induction steps generalizing session with
  | nil => exact start
  | cons first rest ih =>
    have kept := step session first (never [] first rest rfl) start
    refine ih (fun earlier next later same => ?_) kept
    exact never (first :: earlier) next later (by rw [same, List.cons_append])

/-- The same for what only visits come to. -/
theorem live_keeps_spared (happens : Session σ → Bool → Prop) (holds : Session σ → Prop)
    (step : ∀ session step, (∀ closing, step = .visit closing → ¬ happens session closing) →
      holds session → holds (session.step service step))
    {steps : List Step}
    (never : ¬ ∃ earlier closing later, steps = earlier ++ .visit closing :: later ∧
      happens (session.live service earlier) closing)
    (start : holds session) : holds (session.live service steps) := by
  refine live_keeps_unless
    (fun session step => ∃ closing, step = .visit closing ∧ happens session closing) holds
    (fun session next calm => step session next fun closing same here =>
      calm ⟨closing, same, here⟩) ?_ start
  rintro earlier _ later same ⟨closing, rfl, here⟩
  exact never ⟨earlier, closing, later, same, here⟩

theorem arrive_channel (service : Service σ) (session : Session σ) (bytes : Bytes) :
    ∃ unread, (session.step service (.arrive bytes)).channel =
      { session.channel with connection := { session.channel.connection with unread } } := by
  simp only [Session.step, arrive]
  split
  · exact ⟨_, rfl⟩
  · rename_i more
    rw [record, updateChannel, Channel.arrive_of_open (by simpa using more)]
    exact ⟨_, rfl⟩

/-- A unit of work ends with the lock given back, or never. -/
theorem work_course (service : Service σ) (session : Session σ) :
    ∃ final, Course service .begun session.lock .over final ∧ session.work service = final.unlock ∨
      Course service .begun session.lock .stuck final ∧ session.work service = final := by
  have course := service.unit_course session.lock
  unfold work
  rcases ran : service.unit session.lock with ⟨_ | _ | _, final⟩ <;> rw [ran] at course <;>
    simp only [lock] at ran <;> rw [ran]
  · exact ⟨final, .inl ⟨course, rfl⟩⟩
  · exact ⟨final, .inl ⟨course, rfl⟩⟩
  · exact ⟨final, .inr ⟨course, rfl⟩⟩

/-- A unit of work reads from the front of what is unread and leaves the peer's end alone. -/
theorem work_unread (service : Service σ) (session : Session σ) :
    (session.work service).channel.connection.unread <:+ session.channel.connection.unread ∧
      (session.work service).channel.connection.ended = session.channel.connection.ended := by
  obtain ⟨final, ⟨course, same⟩ | ⟨course, same⟩⟩ := session.work_course service <;> rw [same] <;>
    exact ⟨course.steady.unread, course.steady.ended⟩

/-- A property with its form at each point of a unit, kept by all moves, is kept by the unit. -/
theorem work_keeps (holds : Session σ → Prop) (stands : Point → Session σ → Prop)
    (begin : holds session → stands .begun session.lock)
    (move : ∀ {point session next after}, Move service point session next after →
      stands point session → stands next after)
    (finished : ∀ final, stands .over final → holds final.unlock)
    (stuck : ∀ final, stands .stuck final → holds final) (start : holds session) :
    holds (session.work service) := by
  obtain ⟨final, ⟨course, same⟩ | ⟨course, same⟩⟩ := session.work_course service
  · rw [same]
    exact finished final (course.keeps stands move (begin start))
  · rw [same]
    exact stuck final (course.keeps stands move (begin start))

/-- The steps a session can take, told apart by what they change. -/
theorem step_cases (service : Service σ) (session : Session σ) (step : Step) :
    session.step service step = session ∨
      (∃ bytes, session.channel.connection.ended = false ∧ step = .arrive bytes ∧
        session.step service step =
          (session.updateChannel (·.arrive bytes)).record (.arrived bytes)) ∨
      step = .peerEnds ∧ session.step service step = session.peerEnds ∨
      step = .breaks ∧ session.step service step = session.breaks ∨
      (∃ action, step = .act action ∧ session.step service step = (session.perform action).2) ∨
      session.channel.closeFired = false ∧
        (step = .visit true ∧ session.channel.locked = true ∧
          session.step service step = session.request ∨
        step = .visit true ∧ session.channel.locked = false ∧
          session.step service step = session.request.work service ∨
        step = .visit false ∧ session.channel.locked = false ∧
          session.step service step = session.work service) := by
  cases step with
  | arrive bytes =>
    cases ended : session.channel.connection.ended with
    | false => exact .inr (.inl ⟨bytes, rfl, rfl, by simp [Session.step, Session.arrive, ended]⟩)
    | true => exact .inl (by simp [Session.step, Session.arrive, ended])
  | peerEnds => exact .inr (.inr (.inl ⟨rfl, rfl⟩))
  | breaks => exact .inr (.inr (.inr (.inl ⟨rfl, rfl⟩)))
  | act action => exact .inr (.inr (.inr (.inr (.inl ⟨action, rfl, rfl⟩))))
  | visit closing =>
    cases fired : session.channel.closeFired with
    | true => exact .inl (by simp [Session.step, visit, fired])
    | false =>
      cases closing <;> cases locked : session.channel.locked
      · exact .inr (.inr (.inr (.inr (.inr ⟨rfl, .inr (.inr ⟨rfl, rfl, by
          simp [Session.step, visit, poll, fired, locked]⟩)⟩))))
      · exact .inl (by simp [Session.step, visit, poll, fired, locked])
      · exact .inr (.inr (.inr (.inr (.inr ⟨rfl, .inr (.inl ⟨rfl, rfl, by
          simp [Session.step, visit, poll, fired, locked, updateChannel, request]⟩)⟩))))
      · exact .inr (.inr (.inr (.inr (.inr ⟨rfl, .inl ⟨rfl, rfl, by
          simp [Session.step, visit, poll, fired, locked, updateChannel, request]⟩⟩))))

/-- A property that arrivals, ends, failures, actions, close requests and units keep is kept by all
steps. -/
theorem step_keeps (holds : Session σ → Prop)
    (arrived : ∀ session bytes, session.channel.connection.ended = false → holds session →
      holds ((session.updateChannel (·.arrive bytes)).record (.arrived bytes)))
    (ended : ∀ session, holds session → holds session.peerEnds)
    (broke : ∀ session, holds session → holds session.breaks)
    (acted : ∀ session action, holds session → holds (session.perform action).2)
    (requested : ∀ session, holds session → holds session.request)
    (worked : ∀ session, session.channel.closeFired = false → session.channel.locked = false →
      holds session → holds (session.work service))
    (session : Session σ) (step : Step) (start : holds session) :
    holds (session.step service step) := by
  rcases session.step_cases service step with same | ⟨bytes, open', _, same⟩ | ⟨_, same⟩ |
      ⟨_, same⟩ | ⟨action, _, same⟩ |
      ⟨fired, ⟨_, _, same⟩ | ⟨_, free, same⟩ | ⟨_, free, same⟩⟩ <;> rw [same]
  · exact start
  · exact arrived session bytes open' start
  · exact ended session start
  · exact broke session start
  · exact acted session action start
  · exact requested session start
  · exact worked _ fired free (requested session start)
  · exact worked session fired free start

/-- The peer has ended its side and everything it sent was read. -/
def Exhausted (session : Session σ) : Prop :=
  session.channel.connection.ended = true ∧ session.channel.connection.unread = []

theorem Exhausted.step (session : Session σ) (step : Step) (exhausted : session.Exhausted) :
    (session.step service step).Exhausted := by
  apply step_keeps Exhausted
  · intro session bytes more exhausted
    simp [exhausted.1] at more
  · exact fun session exhausted => ⟨rfl, exhausted.2⟩
  · exact fun _ exhausted => exhausted
  · intro session action exhausted
    have same := (session.perform_handled action).sameInward
    exact ⟨same.ended.trans exhausted.1, same.unread.trans exhausted.2⟩
  · exact fun _ exhausted => exhausted
  · intro session _ _ exhausted
    obtain ⟨shrinks, same⟩ := session.work_unread service
    rw [exhausted.2] at shrinks
    exact ⟨same.trans exhausted.1, List.suffix_nil.mp shrinks⟩
  · exact exhausted

theorem step_broken (session : Session σ) {step : Step} (other : step ≠ .breaks) :
    (session.step service step).channel.connection.broken = session.channel.connection.broken := by
  have worked (session : Session σ) :
      (session.work service).channel.connection.broken = session.channel.connection.broken := by
    obtain ⟨final, ⟨course, same⟩ | ⟨course, same⟩⟩ := session.work_course service <;> rw [same] <;>
      exact course.steady.broken
  rcases session.step_cases service step with same | ⟨bytes, more, _, same⟩ | ⟨_, same⟩ |
      ⟨broke, _⟩ | ⟨action, _, same⟩ | ⟨_, ⟨_, _, same⟩ | ⟨_, _, same⟩ | ⟨_, _, same⟩⟩
  · rw [same]
  · rw [same, record, updateChannel, Channel.arrive_of_open more]
  · rw [same]
    rfl
  · exact absurd broke other
  · rw [same]
    exact (session.perform_handled action).sameInward.broken
  · rw [same]
    rfl
  · rw [same]
    exact worked session.request
  · rw [same]
    exact worked session

/-- A peer that has ended its side never sends again. -/
theorem ended_step (session : Session σ) (step : Step)
    (ended : session.channel.connection.ended = true) :
    (session.step service step).channel.connection.ended = true := by
  apply step_keeps (fun session => session.channel.connection.ended = true)
  · intro session bytes more ended
    simp [ended] at more
  · exact fun _ _ => rfl
  · exact fun _ ended => ended
  · intro session action ended
    exact (session.perform_handled action).sameInward.ended.trans ended
  · exact fun _ ended => ended
  · intro session _ _ ended
    exact (session.work_unread service).2.trans ended
  · exact ended

end Session

end StreamDispatch
