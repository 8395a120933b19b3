import StreamDispatch.Address.Dial
import StreamDispatch.Client
import StreamDispatch.Echo.Arguments
import StreamDispatch.Echo.Exchange
import StreamDispatch.Server

/-!
The commands of the echo demonstration: a server that sends every frame back to its sender, and a
sender that prints the replies.
-/
namespace StreamDispatch.Echo

/-- What a run of the program leaves behind. -/
structure Completed where
  code : Nat
  stdout : String := ""
  stderr : String := ""
  deriving DecidableEq, Repr

namespace Completed

def misuse : Completed := { code := 2 }

def failed (error : Error) : Completed :=
  { code := 255, stderr := "Error: " ++ error.inspect ++ "\n" }

end Completed

/-- Host and port of an address on the command line. -/
def target (address : String) : Except Error (List Char × Nat) :=
  (Dial.parse address.toList).mapError fun fault => .io (.dial fault)

/-- Frames with their length in front. -/
def framing (width : Nat) : Except Error Framing :=
  (Framing.ofLengthField 0 width).mapError Error.config

def serverSettings (ip : IpAddress) (port backlog bufferSize : Nat) (framing : Framing) :
    ServerSettings Unit where
  handlers := [framing.handler, Stage.echoHandler]
  executor := some .multiThreaded
  bufferSize
  fresh := ()
  address := some ip
  port
  backlog

def clientSettings (connectTimeout : Duration) (bufferSize : Nat) (framing : Framing) :
    ClientSettings (List Bytes) where
  handlers := [framing.handler, repliesHandler]
  executor := some .multiThreaded
  bufferSize
  fresh := []
  connectTimeout := some connectTimeout

def serve (host : Host) (address : String) (backlog width bufferSize : Nat) :
    Except Error (Server Unit) := do
  let (name, port) ← target address
  let ip ← (host.hostAddress name).mapError Error.io
  let framing ← framing width
  let settings := serverSettings ip port backlog bufferSize framing
  let server ← (Server.build settings).mapError Error.config
  match server.start host with
  | (.error payload, _) => .error (.panic payload)
  | (.ok (.error error), _) => .error error
  | (.ok (.ok ()), started) => return started

/-- A service without an echo: what is at the other end where nobody can be reached. -/
def silence : Service Unit where
  handlers := []
  bufferSize := defaultBufferSize
  fresh := ()

def readyLine (addressText : String) : String := "[*] Ready to accept clients: " ++ addressText

/-- What comes of a command line. -/
inductive Result where
  | completed (completed : Completed)
  /-- A server that runs until it is interrupted. -/
  | serving (server : Server Unit)
  /-- A sender whose replies do not come and whose connection does not end. -/
  | waiting

/-- The end of a conversation: the replies on one line each, and a complaint if some are missing. -/
def conclude (printed : List Bytes) (total : Nat) : Except Error Unit → Completed
  | .error error => { Completed.failed error with stdout := shown printed }
  | .ok () =>
    if printed.length = total then { code := 0, stdout := shown printed }
    else
      { code := 1, stdout := shown printed
        stderr := toString printed.length ++ " of " ++ toString total ++ " replies received\n" }
where
  shown (printed : List Bytes) : String :=
    String.join (printed.map fun reply => Text.Utf8.text reply ++ "\n")

def connect (host : Host) (address : String) (connectTimeout : Duration) (width bufferSize : Nat) :
    Except Error (Client (List Bytes)) := do
  let (name, port) ← target address
  let framing ← framing width
  let settings := clientSettings connectTimeout bufferSize framing
  let client ← (Client.build settings).mapError Error.config
  let lookup := (host.lookup name port).map (·.map (Client.Route.mk host))
  match client.startOn { lookup } with
  | (.error error, _) => .error error
  | (.ok (), started) => return started

def converse (server : Service Unit) (client : Client (List Bytes)) (width : Nat)
    (messages : List String) : Result :=
  let payloads := messages.map fun message => message.toUTF8.toList
  let start := Exchange.start width server client.service payloads
  let exchange := start.rounds (Exchange.bound payloads)
  match exchange.task with
  | .finished result => .completed (conclude exchange.printed exchange.total result)
  | .submitting _ | .waiting => .waiting

/-- Runs a command line. `service` is what the server does that is found at the other end of every
connection. -/
def run (host : Host) (service : Service Unit) (arguments : List String) : Result :=
  match parse arguments with
  | .error .misuse => .completed .misuse
  | .error .help => .completed { code := 0 }
  | .ok { command := .serve address backlog, width, bufferSize } =>
    match serve host address backlog width bufferSize with
    | .ok server => .serving server
    | .error error => .completed (.failed error)
  | .ok { command := .send address messages connectTimeout, width, bufferSize } =>
    match connect host address connectTimeout width bufferSize with
    | .ok client => converse service client width messages
    | .error error => .completed (.failed error)

end StreamDispatch.Echo
