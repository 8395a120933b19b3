import StreamDispatch.Duration
import StreamDispatch.Host
import StreamDispatch.Hub
import StreamDispatch.Lifecycle

/-!
What a server and a client are made of: a phase of life and a dispatch loop. Closing an endpoint
asks every session to close and waits for the loop to end; when the wait is cut short, and when there
is no wait at all, the sessions are dropped.
-/
namespace StreamDispatch

structure Endpoint (σ : Type) where
  service : Service σ
  phase : Phase := .created
  hub : Hub σ := {}

namespace Endpoint

variable {σ : Type}

def beginOpen (endpoint : Endpoint σ) : Except StateFault (Endpoint σ) :=
  match endpoint.phase.beginOpen with
  | .ok phase => .ok { endpoint with phase }
  | .error fault => .error fault

/-- Closes gracefully. `activity` is what the loops do until the wait ends, and `bounded` says
whether the wait ends even if the dispatch loop has not. -/
def closeDuring (activity : Hub σ → Hub σ) (bounded : Bool) (endpoint : Endpoint σ) :
    Outcome (Except Error Unit) × Endpoint σ :=
  match endpoint.phase.checkClose with
  | .error fault => (.done (.error (.state fault)), endpoint)
  | .ok false => (.done (.ok ()), endpoint)
  | .ok true =>
    let hub := activity endpoint.hub.beginClosing
    if hub.signals.terminated then (.done (.ok ()), { endpoint with hub, phase := .closed })
    else if bounded then
      (.done (.ok ()), { endpoint with hub := hub.forceClose, phase := .closed })
    else (.hung, { endpoint with hub })

/-- Closes gracefully with the loops coming to rest while waiting. -/
def close (timeout : Option Duration) (endpoint : Endpoint σ) :
    Outcome (Except Error Unit) × Endpoint σ :=
  endpoint.closeDuring (·.endAccepting.settle endpoint.service) timeout.isSome

def closeNow (endpoint : Endpoint σ) : Except Error Unit × Endpoint σ :=
  match endpoint.phase.checkClose with
  | .error fault => (.error (.state fault), endpoint)
  | .ok false => (.ok (), endpoint)
  | .ok true => (.ok (), { endpoint with hub := endpoint.hub.forceClose, phase := .closed })

def settle (endpoint : Endpoint σ) : Endpoint σ :=
  { endpoint with hub := endpoint.hub.settle endpoint.service }

def touch (endpoint : Endpoint σ) (id : Nat) (change : Session σ → Session σ) : Endpoint σ :=
  { endpoint with hub := endpoint.hub.touch id change }

end Endpoint

end StreamDispatch
