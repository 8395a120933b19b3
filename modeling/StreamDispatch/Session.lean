import StreamDispatch.Channel
import StreamDispatch.Journal

/-!
A session is a channel together with the application's state for it and its journal. Work on a
session returns a value, panics or hangs; whatever it did before stays done.
-/
namespace StreamDispatch

/-- How a piece of work ends. -/
inductive Outcome (α : Type) where
  | done (value : α)
  | panicked (payload : Panic)
  | hung

structure Session (σ : Type) where
  channel : Channel
  state : σ
  journal : Journal := []

namespace Session

variable {σ τ : Type}

def record (session : Session σ) (event : Event) : Session σ :=
  { session with journal := session.journal ++ [event] }

def updateChannel (session : Session σ) (change : Channel → Channel) : Session σ :=
  { session with channel := change session.channel }

def withState (session : Session σ) (state : τ) : Session τ :=
  ⟨session.channel, state, session.journal⟩

/-- Performs an action; the payload of a successful send is written down. -/
def perform (session : Session σ) (action : Action) : Except Error Unit × Session σ :=
  match action.apply session.channel with
  | .ok channel =>
    let changed := { session with channel }
    (.ok (), match action with
      | .send data | .sendAndFlush data => changed.record (.wrote data)
      | .flush | .close | .closeNow => changed)
  | .error error => (.error error, session)

/-- The peer sends bytes; says whether it still can. -/
def arrive (session : Session σ) (bytes : Bytes) : Bool × Session σ :=
  if session.channel.connection.ended then (false, session)
  else (true, (session.updateChannel (·.arrive bytes)).record (.arrived bytes))

def peerEnds (session : Session σ) : Session σ :=
  (session.updateChannel (·.peerEnds)).record .ended

def breaks (session : Session σ) : Session σ := session.updateChannel (·.breaks)

end Session

/-- Work on a session. -/
def Run (σ α : Type) := Session σ → Outcome α × Session σ

namespace Run

variable {σ α β : Type}

protected def pure (value : α) : Run σ α := fun session => (.done value, session)

protected def bind (work : Run σ α) (next : α → Run σ β) : Run σ β := fun session =>
  match work session with
  | (.done value, after) => next value after
  | (.panicked payload, after) => (.panicked payload, after)
  | (.hung, after) => (.hung, after)

instance : Monad (Run σ) where
  pure := Run.pure
  bind := Run.bind

theorem pure_apply (value : α) (session : Session σ) :
    (pure value : Run σ α) session = (.done value, session) := rfl

theorem bind_apply (work : Run σ α) (next : α → Run σ β) (session : Session σ) :
    (work >>= next) session =
      match work session with
      | (.done value, after) => next value after
      | (.panicked payload, after) => (.panicked payload, after)
      | (.hung, after) => (.hung, after) := rfl

def panic (payload : Panic) : Run σ α := fun session => (.panicked payload, session)

/-- Turns a panic into a value. -/
def attempt (work : Run σ α) : Run σ (Except Panic α) := fun session =>
  match work session with
  | (.done value, after) => (.done (.ok value), after)
  | (.panicked payload, after) => (.done (.error payload), after)
  | (.hung, after) => (.hung, after)

def channel : Run σ Channel := fun session => (.done session.channel, session)

def update (change : Channel → Channel) : Run σ Unit := fun session =>
  (.done (), session.updateChannel change)

def record (event : Event) : Run σ Unit := fun session => (.done (), session.record event)

/-- Lends a buffer to work that keeps it beside the state; the work may end in a panic, and what it
left of the buffer is known either way. -/
def lend (buffer : Bytes) (work : Run (σ × Bytes) α) : Run σ (Except Panic α × Bytes) :=
  fun session =>
    match work (session.withState (session.state, buffer)) with
    | (.done value, after) =>
      (.done (.ok value, after.state.2), after.withState after.state.1)
    | (.panicked payload, after) =>
      (.done (.error payload, after.state.2), after.withState after.state.1)
    | (.hung, after) => (.hung, after.withState after.state.1)

/-- Work that leaves a buffer beside the state alone. -/
def beside (work : Run σ α) : Run (σ × Bytes) α := fun session =>
  let (outcome, after) := work (session.withState session.state.1)
  (outcome, after.withState (after.state, session.state.2))

end Run

end StreamDispatch
