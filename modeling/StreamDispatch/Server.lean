import StreamDispatch.Endpoint
import StreamDispatch.Settings

/-!
A server listens on one address and turns every connection it accepts into a session.
-/
namespace StreamDispatch

structure Server (σ : Type) extends Endpoint σ where
  settings : ServerSettings σ
  /-- The address it listens on; known once it was started. -/
  address : Option SocketAddress := none

namespace Server

variable {σ : Type}

def build (settings : ServerSettings σ) : Except ConfigFault (Server σ) := do
  return { service := ← settings.service, settings }

/-- Makes a socket, has it tuned, binds it and listens on it. -/
def listen (host : Host) (server : Server σ) : Except Panic (Except IoError Unit) := do
  match ← host.tune with
  | .error cause => return .error cause
  | .ok () => return do
    host.bind server.settings.endpoint
    host.listen server.settings.backlog

/-- Starts the server. A failure gives the phase back; a panic of the socket hook passes through the
start and leaves it claimed. -/
def start (host : Host) (server : Server σ) : Except Panic (Except Error Unit) × Server σ :=
  match server.beginOpen with
  | .error fault => (.ok (.error (.state fault)), server)
  | .ok claimed =>
    match server.listen host with
    | .error payload => (.error payload, { server with toEndpoint := claimed })
    | .ok (.error cause) =>
      (.ok (.error (.io cause)),
        { server with toEndpoint := { claimed with phase := .created } })
    | .ok (.ok ()) =>
      match host.boundTo server.settings.endpoint with
      | .error cause =>
        (.ok (.error (.io cause)),
          { server with toEndpoint := { claimed with phase := .created } })
      | .ok address =>
        (.ok (.ok ()),
          { server with toEndpoint := { claimed with phase := .opened }, address := some address })

def state (server : Server σ) : EndpointState := server.phase.state

def localAddress (server : Server σ) : Except Error SocketAddress :=
  match server.address with
  | some address => .ok address
  | none => .error (.state .noListener)

def channelCount (server : Server σ) : Nat := server.hub.live.size

/-- The listening socket is open. -/
def isAccepting (server : Server σ) : Bool :=
  server.phase == .opened && !server.hub.signals.closing

def accept (server : Server σ) : Nat × Server σ :=
  let (id, hub) := server.hub.enroll server.service
  (id, { server with toEndpoint := { server.toEndpoint with hub } })

/-- What comes out of the listening socket. -/
structure Arrival where
  /-- A connection, or why there is none. -/
  connection : Except IoError Unit := .ok ()
  /-- Whether the addresses of its two ends can be told. -/
  named : Except IoError Unit := .ok ()

/-- Takes what comes out of the socket that listens on the address. A failure is reported and does
not end the accepting. The id of a channel is handed out as soon as there is a connection, and it is
spent even if the channel then cannot be set up. -/
def takeIn (address : SocketAddress) (arrival : Arrival) (server : Server σ) :
    Except Error Nat × Server σ :=
  match arrival.connection with
  | .error cause => (.error (.accept address cause), server)
  | .ok () =>
    match arrival.named with
    | .error cause =>
      (.error (.accept address cause),
        { server with toEndpoint := { server.toEndpoint with hub := server.hub.spend } })
    | .ok () =>
      let (id, after) := server.accept
      (.ok id, after)

def inspect (server : Server σ) (addressText : SocketAddress → String) : String :=
  Text.record "TcpServer"
    [("state", server.state.inspect),
      ("local_addr", Text.optional (server.address.map addressText)),
      ("channels", toString server.channelCount)]

end Server

end StreamDispatch
