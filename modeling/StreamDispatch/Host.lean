import StreamDispatch.Error

/-!
What an endpoint finds around it when it starts: the application's hook for new sockets, the system's
resolver, the addresses that can be listened on, and the connections that can be made.
-/
namespace StreamDispatch

structure Host where
  /-- The hook that tunes a socket before it is used; it may fail or panic. -/
  tune : Except Panic (Except IoError Unit) := .ok (.ok ())
  /-- Looks a host up that is no literal: its addresses, each with the port. -/
  resolver : (name : List Char) → (port : Nat) → Except IoError (List SocketAddress) :=
    fun _ _ => .error .unknownHost
  bind : SocketAddress → Except IoError Unit
  listen : (backlog : Nat) → Except IoError Unit := fun _ => .ok ()
  /-- Which address a socket that is bound to this one has, once a port is chosen. -/
  boundTo : SocketAddress → Except IoError SocketAddress
  connect : SocketAddress → Except IoError Unit

namespace Host

/-- The addresses that a host and a port stand for. A literal stands for itself. -/
def lookup (host : Host) (name : List Char) (port : Nat) : Except IoError (List SocketAddress) :=
  match IpAddress.parse? name with
  | some ip => .ok [⟨ip, port, 0⟩]
  | none => host.resolver name port

/-- The address to listen on for a name: the first one it stands for. -/
def hostAddress (host : Host) (name : List Char) : Except IoError IpAddress :=
  match host.lookup name 0 with
  | .error cause => .error cause
  | .ok [] => .error (.unresolved (String.ofList name))
  | .ok (address :: _) => .ok address.ip

def chosenPort : Nat := 49152

def isLocal : IpAddress → Bool
  | .v4 a b c d => a == 127 || [a, b, c, d] == [0, 0, 0, 0]
  | .v6 groups => groups.toList.dropLast.all (· == 0) && groups.toList.all (· ≤ 1)

def bindLocally (address : SocketAddress) : Except IoError Unit :=
  if isLocal address.ip then .ok () else .error (.system .addressNotAvailable)

/-- The address that is asked for, with a port chosen where none is. -/
def withPort (address : SocketAddress) : Except IoError SocketAddress :=
  .ok { address with port := if address.port = 0 then chosenPort else address.port }

/-- A machine without a network: it knows no names, it can listen, but no connection can be made. -/
def isolated : Host where
  bind := bindLocally
  boundTo := withPort
  connect _ := .error (.system .networkUnreachable)

/-- A machine on which exactly the given addresses are listened on. -/
def loopback (listening : List SocketAddress) : Host where
  bind := bindLocally
  boundTo := withPort
  connect address :=
    if listening.contains address then .ok () else .error (.system .connectionRefused)

end Host

end StreamDispatch
