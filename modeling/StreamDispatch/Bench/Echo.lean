import StreamDispatch.Bench.Basic
import StreamDispatch.Echo.Command

/-!
A bench for the echo demonstration: a server on a free local port, and senders that talk to it one
after another.
-/
namespace StreamDispatch.Bench

structure EchoReport where
  address : SocketAddress
  senders : List Echo.Completed

namespace EchoBench

/-- A run that has to come to an end. -/
def complete (host : Host) (service : Service Unit) (arguments : List String) :
    Except Failure Echo.Completed :=
  match Echo.run host service arguments with
  | .completed ended => .ok ended
  | .serving _ | .waiting => .error .stuck

/-- Starts a server with the given options, and a sender with the given options for every list of
messages. A server that does not come up is reported as it ended. -/
def run (host : Host) (serving sending : List String) (conversations : List (List String)) :
    Except Failure (Except Echo.Completed EchoReport) := do
  match Echo.run host Echo.silence (["serve", "tcp!127.0.0.1!0"] ++ serving) with
  | .completed ended => return .error ended
  | .waiting => .error .stuck
  | .serving server =>
    let address ← server.localAddress.mapError Failure.error
    let dial := "tcp!" ++ address.ip.text ++ "!" ++ toString address.port
    let senders ← conversations.mapM fun messages =>
      complete host server.service (["send", dial] ++ sending ++ ["--"] ++ messages)
    return .ok { address, senders }

end EchoBench

end StreamDispatch.Bench
