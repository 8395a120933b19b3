import StreamDispatch.ChannelSet
import StreamDispatch.Service

/-!
The dispatch loop of an endpoint. A sweep visits the live sessions in some order, lets go of those
whose close is done, and gives every other one that is not busy one unit of work. The loop ends once
no session can come any more and none is left.
-/
namespace StreamDispatch

structure Signals where
  closing : Bool := false
  /-- No session will come any more. -/
  acceptDone : Bool := false
  terminated : Bool := false
  deriving DecidableEq, Repr

structure Hub (σ : Type) where
  live : ChannelSet (Session σ) := {}
  /-- Sessions that were let go, the earliest first. -/
  departed : List (Session σ) := []
  signals : Signals := {}

namespace Hub

variable {σ : Type}

def visit (service : Service σ) (closing : Bool) (hub : Hub σ) (id : Nat) : Hub σ :=
  match hub.live.find? id with
  | none => hub
  | some session =>
    match session.visit service closing with
    | none => { hub with live := hub.live.remove id, departed := hub.departed ++ [session] }
    | some after => { hub with live := hub.live.update id fun _ => after }

/-- One sweep, in the order given; does nothing once the loop has ended. -/
def sweep (service : Service σ) (order : List Nat) (hub : Hub σ) : Hub σ :=
  if hub.signals.terminated then hub
  else
    let after := order.foldl (Hub.visit service hub.signals.closing) hub
    if after.signals.acceptDone && after.live.isEmpty then
      { after with signals := { after.signals with terminated := true } }
    else after

/-- Puts a new connection in the set. One that comes after the loop has ended is shut down at once
and not kept. -/
def enroll (service : Service σ) (hub : Hub σ) : Nat × Hub σ :=
  let (id, live) := hub.live.issue
  let session := service.session id
  if hub.signals.terminated then
    (id, { hub with
      live, departed := hub.departed ++ [session.updateChannel Channel.closeNow] })
  else (id, { hub with live := live.insert id session })

/-- A connection that cannot be set up: the id it was to have is spent. -/
def spend (hub : Hub σ) : Hub σ := { hub with live := hub.live.issue.2 }

/-- Ends the loop and drops every session without waiting. -/
def forceClose (hub : Hub σ) : Hub σ :=
  { live := hub.live.clear
    departed := hub.departed ++ hub.live.channels.map (·.updateChannel Channel.closeNow)
    signals := { hub.signals with closing := true, terminated := true } }

def beginClosing (hub : Hub σ) : Hub σ :=
  { hub with signals := { hub.signals with closing := true } }

/-- Nothing more is accepted after this; the acceptor says so once it has noticed the close. -/
def endAccepting (hub : Hub σ) : Hub σ :=
  { hub with signals := { hub.signals with acceptDone := true } }

def find? (hub : Hub σ) (id : Nat) : Option (Session σ) :=
  match hub.live.find? id with
  | some session => some session
  | none => hub.departed.find? fun session => session.channel.id = id

def touch (hub : Hub σ) (id : Nat) (change : Session σ → Session σ) : Hub σ :=
  { hub with
    live := hub.live.update id change
    departed := hub.departed.map fun session =>
      if session.channel.id = id then change session else session }

/-! ### Coming to rest -/

/-- A visit would do more to the session than an idle loop. -/
def restless (service : Service σ) (closing : Bool) (session : Session σ) : Bool :=
  let channel := session.channel
  channel.closeFired ||
    !channel.locked &&
      (!channel.opened || closing ||
        match (channel.probe (service.bufferSize - channel.pending.length)).1 with
        | .ok .empty => false
        | .ok (.data _) | .ok .closed | .error _ => true)

def isRestless (service : Service σ) (hub : Hub σ) : Bool :=
  !hub.signals.terminated &&
    ((hub.signals.acceptDone && hub.live.isEmpty) ||
      hub.live.channels.any (restless service hub.signals.closing))

/-- A bound on the visits that still change a session: it is opened, every read takes a byte or
more, it is closed and it is let go. -/
def effort (session : Session σ) : Nat := session.channel.connection.unread.length + 3

/-- Sweeps at most so many times, and only as long as a sweep changes something. -/
def settleWithin (service : Service σ) : Nat → Hub σ → Hub σ
  | 0, hub => hub
  | rounds + 1, hub =>
    if hub.isRestless service then
      settleWithin service rounds (hub.sweep service hub.live.ids)
    else hub

def settle (service : Service σ) (hub : Hub σ) : Hub σ :=
  hub.settleWithin service (hub.live.channels.foldr (fun session rest => effort session + rest) 1)

end Hub

end StreamDispatch
