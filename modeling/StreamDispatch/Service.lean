import StreamDispatch.Buffer
import StreamDispatch.Message
import StreamDispatch.Program

/-!
What an endpoint does with each of its channels. One unit of work is either the open callback or one
receive cycle: read at most the free room, put the bytes behind the pending ones, run the handler
chain over them, keep what it left, and call back. Panics of application code are caught and
reported, and only work that hangs keeps the channel locked.
-/
namespace StreamDispatch

/-- What a handler does with the buffer: end the chain, pass the buffer on, or pass something else
on and let the buffer go. -/
inductive Next where
  | stop
  | buffer
  | item (item : Item)
  deriving DecidableEq, Repr

/-- One stage of a chain. While it holds the buffer its program keeps the bytes beside the state;
what it leaves there stays pending, even if it fails or panics. -/
structure Handler (σ : Type) where
  onBuffer : Program (σ × Bytes) (Except Error Next)
  onItem : Item → Program σ (Except Error (Option Item))

/-- The lifecycle callbacks; each does nothing unless it is given. -/
structure Callbacks (σ : Type) where
  onOpen : Program σ Unit := .done ()
  onLoop : (fresh : Bool) → Bytes → Program σ Unit := fun _ _ => .done ()
  onException : Error → Bytes → Program σ Unit := fun _ _ => .done ()
  onClose : Bytes → Program σ Unit := fun _ => .done ()

structure Service (σ : Type) where
  handlers : List (Handler σ)
  callbacks : Callbacks σ := {}
  allocator : Allocator σ := Allocator.empty
  writer : Writer := .buffering
  bufferSize : Nat
  fresh : σ

namespace Handler

variable {σ : Type}

/-- Runs the rest of a chain once the buffer was let go. -/
def runItems : List (Handler σ) → Item → Run σ (Except Error Unit)
  | [], _ => return .ok ()
  | handler :: rest, item => do
    match ← (handler.onItem item).run with
    | .error error => return .error error
    | .ok none => return .ok ()
    | .ok (some next) => runItems rest next

/-- Runs a chain over the buffer, for as long as it is passed on. -/
def runBuffer : List (Handler σ) → Run (σ × Bytes) (Except Error Unit)
  | [] => return .ok ()
  | handler :: rest => do
    match ← handler.onBuffer.run with
    | .error error => return .error error
    | .ok .stop => return .ok ()
    | .ok .buffer => runBuffer rest
    | .ok (.item item) => Run.beside (runItems rest item)

end Handler

namespace Service

variable {σ : Type}

/-- Places bytes in a buffer; a request to the allocator is written down. -/
def place (service : Service σ) (placement : Placement) : Run σ Bytes := fun session =>
  let journal := session.journal ++ placement.request?.toList.map .asked
  match placement.place service.allocator session.state with
  | (.ok bytes, state) => (.done bytes, { session with state, journal })
  | (.error payload, state) => (.panicked payload, { session with state, journal })

def publish (bytes : Bytes) : Run σ Unit :=
  Run.update fun channel => { channel with pending := bytes }

def requestClose : Run σ Unit :=
  Run.update fun channel => { channel with closeRequested := true }

def probe (room : Nat) : Run σ Probe := fun session =>
  let (found, channel) := session.channel.probe room
  let after := { session with channel }
  match found with
  | .ok (.data bytes) => (.done (.data bytes), after.record (.read bytes))
  | .ok other => (.done other, after)
  | .error payload => (.panicked payload, after)

/-- What a chain run failed with, if it failed. -/
def fault? : Except Error Unit → Option Error
  | .ok () => none
  | .error error => some error

/-- Runs the chain over a buffer: how it ended and what it left. A panic asks for the channel to be
closed, because nobody knows what the chain meant to consume. -/
def chain (service : Service σ) (buffer : Bytes) : Run σ (Except Error Unit × Bytes) := do
  match ← Run.lend buffer (Handler.runBuffer service.handlers) with
  | (.ok result, left) => do
    Run.record (.chained buffer left (fault? result))
    return (result, left)
  | (.error payload, left) => do
    Run.record (.chained buffer left (some (.panic payload)))
    requestClose
    return (.error (.panic payload), left)

/-- Calls the exception callback; a panic in it is swallowed. -/
def report (service : Service σ) (error : Error) (pending : Bytes) : Run σ Unit := do
  Run.record (.failed error pending)
  let _ ← Run.attempt (service.callbacks.onException error pending).run
  return ()

def loop (service : Service σ) (fresh : Bool) (pending : Bytes) : Run σ Unit := do
  Run.record (.looped fresh pending)
  (service.callbacks.onLoop fresh pending).run

/-- Tears the channel down and calls the close callback, which is done even if it panics. -/
def finish (service : Service σ) : Run σ Unit := do
  Run.update Channel.release
  let leftover := (← Run.channel).pending
  Run.record (.closed leftover)
  let result ← Run.attempt (service.callbacks.onClose leftover).run
  Run.update fun channel => { channel with closeFired := true }
  match result with
  | .ok () => return ()
  | .error payload => Run.panic payload

/-- Keeps what a chain run left. A buffer that is still full afterwards can take no more, so the
chain would never run again and the channel is asked to close. -/
def keep (service : Service σ) (left : Bytes) : Run σ Unit := do
  publish left
  if service.bufferSize ≤ left.length then requestClose

def conclude (service : Service σ) (left : Bytes) : Except Error Unit → Run σ (Except Error Unit)
  | .error error => return .error error
  | .ok () => do
    service.loop true left
    if service.bufferSize ≤ left.length then return .error (.bufferFull service.bufferSize)
    return .ok ()

def digest (service : Service σ) (pending fresh : Bytes) : Run σ (Except Error Unit) := do
  let buffer ← service.place (.extend pending fresh)
  publish buffer
  let (result, rest) ← service.chain buffer
  let left ← service.place (.compact rest buffer.length)
  service.keep left
  service.conclude left result

def room (service : Service σ) (channel : Channel) : Nat :=
  service.bufferSize - channel.pending.length

/-- One receive cycle. -/
def cycle (service : Service σ) : Run σ (Except Error Unit) := do
  let channel ← Run.channel
  match ← probe (service.room channel) with
  | .closed => do
    service.finish
    return .ok ()
  | .empty => do
    service.loop false channel.pending
    return .ok ()
  | .data fresh => service.digest channel.pending fresh

def receive (service : Service σ) : Run σ Unit := do
  match ← Run.attempt service.cycle with
  | .ok (.ok ()) => return ()
  | .ok (.error error) => service.report error (← Run.channel).pending
  | .error payload => service.report (.panic payload) (← Run.channel).pending

/-- The open callback; the channel counts as opened even if it panics. -/
def opening (service : Service σ) : Run σ Unit := do
  Run.record .opened
  let result ← Run.attempt service.callbacks.onOpen.run
  Run.update fun channel => { channel with opened := true }
  match result with
  | .ok () => return ()
  | .error payload => service.report (.panic payload) []

def unit (service : Service σ) : Run σ Unit := do
  if (← Run.channel).opened then service.receive else service.opening

def session (service : Service σ) (id : Nat) : Session σ :=
  { channel := { id, capacity := service.bufferSize, writer := service.writer }
    state := service.fresh }

end Service

namespace Session

variable {σ : Type}

/-- Runs one unit of work under the lock; work that hangs never gives the lock back. -/
def work (service : Service σ) (session : Session σ) : Session σ :=
  match service.unit (session.updateChannel ({ · with locked := true })) with
  | (.hung, after) => after
  | (_, after) => after.updateChannel ({ · with locked := false })

/-- Runs one unit of work unless the channel is busy or done. -/
def poll (service : Service σ) (session : Session σ) : Session σ :=
  if session.channel.locked || session.channel.closeFired then session
  else session.work service

/-- One visit of a sweep: a session that is done is let go, the others are polled, after a close
request if the endpoint is closing. -/
def visit (service : Service σ) (closing : Bool) (session : Session σ) : Option (Session σ) :=
  if session.channel.closeFired then none
  else if closing then
    some ((session.updateChannel ({ · with closeRequested := true })).poll service)
  else some (session.poll service)

end Session

end StreamDispatch
