import StreamDispatch.Session

/-!
Application code as data. A program looks at its channel, keeps a state, writes notes and acts on
the channel, one step after another; it ends with a value, panics or hangs. What a program cannot do
is anything else: flags, pending bytes and other channels are out of its reach.
-/
namespace StreamDispatch

inductive Program (σ α : Type) where
  | done (value : α)
  | panic (payload : Panic)
  | hang
  | look (next : Channel.View → σ → Program σ α)
  | keep (state : σ) (next : Program σ α)
  | note (entry : Note) (next : Program σ α)
  | act (action : Action) (next : Except Error Unit → Program σ α)

namespace Program

variable {σ α β : Type}

protected def bind : Program σ α → (α → Program σ β) → Program σ β
  | done value, next => next value
  | panic payload, _ => panic payload
  | hang, _ => hang
  | look rest, next => look fun view state => (rest view state).bind next
  | keep state rest, next => keep state (rest.bind next)
  | note entry rest, next => note entry (rest.bind next)
  | act action rest, next => act action fun result => (rest result).bind next

instance : Monad (Program σ) where
  pure := done
  bind := Program.bind

/-- What a program does to a session. -/
def run : Program σ α → Run σ α
  | done value, session => (.done value, session)
  | panic payload, session => (.panicked payload, session)
  | hang, session => (.hung, session)
  | look next, session => (next session.channel.view session.state).run session
  | keep state next, session => next.run { session with state }
  | note entry next, session => next.run (session.record (.noted entry))
  | act action next, session =>
    let (result, after) := session.perform action
    (next result).run after

/-! ### The steps -/

def state : Program σ σ := look fun _ state => done state

def setState (state : σ) : Program σ Unit := keep state (done ())

def jot (entry : Note) : Program σ Unit := note entry (done ())

/-- Acts, and goes on whatever the result. -/
def attempt (action : Action) : Program σ (Except Error Unit) := act action done

def ignore (action : Action) : Program σ Unit := act action fun _ => done ()

/-- A program never hangs. -/
def Ends : Program σ α → Prop
  | done _ | panic _ => True
  | hang => False
  | look next => ∀ view state, (next view state).Ends
  | keep _ next | note _ next => next.Ends
  | act _ next => ∀ result, (next result).Ends

end Program

end StreamDispatch
