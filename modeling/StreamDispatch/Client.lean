import StreamDispatch.Endpoint
import StreamDispatch.Settings

/-!
A client holds one connection that it makes itself. It is closed once its channel is.
-/
namespace StreamDispatch

structure Client (σ : Type) extends Endpoint σ where
  settings : ClientSettings σ
  channel : Option Nat := none

namespace Client

variable {σ : Type}

def build (settings : ClientSettings σ) : Except ConfigFault (Client σ) := do
  return { service := ← settings.service, settings }

/-- An address to connect to, and the host as it is when the turn comes to it: the socket hook is
asked anew for every address. -/
structure Route where
  host : Host
  address : SocketAddress

/-- What a start comes upon, one thing after the other. -/
structure Attempt where
  lookup : Except IoError (List Route)
  /-- Whether the addresses of the two ends can be told once they are connected. -/
  named : Except IoError Unit := .ok ()

/-- Makes a socket, has it tuned and connects it. -/
def connectOne (route : Route) : Except Panic (Except IoError Unit) := do
  match ← route.host.tune with
  | .error cause => return .error cause
  | .ok () => return route.host.connect route.address

/-- Tries addresses in turn; the failure of the last one counts. A panic of the socket hook ends the
attempt. -/
def connectAny (last : IoError) : List Route → Except Error Unit
  | [] => .error (.io last)
  | route :: rest =>
    match connectOne route with
    | .error payload => .error (.panic payload)
    | .ok (.error cause) => connectAny cause rest
    | .ok (.ok ()) => .ok ()

/-- Finds the addresses of the target and connects to one of them. -/
def Attempt.connect (attempt : Attempt) : Except Error Unit :=
  match attempt.lookup with
  | .error cause => .error (.io cause)
  | .ok routes => connectAny .noAddress routes

/-- Connects and starts the loop. A failure, a panic of the socket hook included, gives the phase
back. The id of a channel is handed out as soon as there is a connection, and it is spent even if the
channel then cannot be set up. -/
def startOn (attempt : Attempt) (client : Client σ) : Except Error Unit × Client σ :=
  match client.beginOpen with
  | .error fault => (.error (.state fault), client)
  | .ok claimed =>
    match attempt.connect with
    | .error error =>
      (.error error, { client with toEndpoint := { claimed with phase := .created } })
    | .ok () =>
      match attempt.named with
      | .error cause =>
        (.error (.io cause),
          { client with toEndpoint := { claimed with phase := .created, hub := claimed.hub.spend } })
      | .ok () =>
        let (id, hub) := claimed.hub.enroll claimed.service
        let signals := { hub.signals with acceptDone := true }
        (.ok (),
          { client with
            toEndpoint := { claimed with phase := .opened, hub := { hub with signals } }
            channel := some id })

/-- Connects to one of the addresses, on a host that stays the same meanwhile. -/
def start (host : Host) (addresses : List SocketAddress) (client : Client σ) :
    Except Error Unit × Client σ :=
  client.startOn { lookup := .ok (addresses.map (Route.mk host)) }

/-- Closed as soon as the channel is gone. -/
def state (client : Client σ) : EndpointState :=
  if client.phase = .opened ∧ client.hub.signals.terminated = true then .closed
  else client.phase.state

def session? (client : Client σ) : Option (Session σ) := client.channel.bind client.hub.find?

def inspect (client : Client σ) (localName remoteName : String) : String :=
  Text.record "TcpClient"
    [("state", client.state.inspect),
      ("channel", Text.optional (client.session?.map fun session =>
        session.channel.inspect localName remoteName))]

end Client

end StreamDispatch
