import StreamDispatch.Framing.Encode
import StreamDispatch.Stage.Basic

/-!
One conversation between a sender and an echo server: two sessions whose connections are the two ends
of one, and the sender's task, which submits its messages and prints the replies. Turns can be taken
in any order; `round` takes each kind once.
-/
namespace StreamDispatch.Echo

/-- Hands frames over to the sender's task, which keeps them in a queue. -/
def repliesHandler : Handler (List Bytes) where
  onBuffer := .done (.ok .stop)
  onItem item := do
    Program.setState ((← Program.state) ++ item.frames?.getD [])
    return .ok none

/-- What the sender's task is at. -/
inductive Task where
  | submitting (messages : List Bytes)
  | waiting
  /-- It is over, with an error or with every reply it will ever have. -/
  | finished (result : Except Error Unit)

structure Exchange where
  width : Nat
  total : Nat
  serverService : Service Unit
  clientService : Service (List Bytes)
  server : Session Unit
  client : Session (List Bytes)
  clientEnded : Bool := false
  carriedOut : Nat := 0
  carriedBack : Nat := 0
  task : Task
  printed : List Bytes := []

inductive Turn where
  | serverSweep
  | clientSweep
  /-- The network carries up to so many bytes to the server, and the end of the stream after them. -/
  | carryOut (count : Nat)
  | carryBack (count : Nat)
  /-- The sender's task goes on: it submits a message, flushes, or prints a reply. -/
  | proceed
  | notice
  deriving DecidableEq, Repr

namespace Exchange

def start (width : Nat) (serverService : Service Unit) (clientService : Service (List Bytes))
    (messages : List Bytes) : Exchange where
  width
  total := messages.length
  serverService
  clientService
  server := serverService.session 0
  client := clientService.session 0
  task := .submitting messages

def carry {σ τ : Type} (source : Session σ) (target : Session τ) (carried count : Nat) :
    Session τ × Nat :=
  let bytes := (source.channel.connection.delivered.drop carried).take count
  let moved := carried + bytes.length
  let arrived := (target.arrive bytes).2
  (if source.channel.atEnd && moved = source.channel.connection.delivered.length then
    arrived.peerEnds else arrived, moved)

def submit (exchange : Exchange) : List Bytes → Exchange
  | [] =>
    match exchange.client.perform .flush with
    | (.ok (), client) => { exchange with client, task := .waiting }
    | (.error error, client) => { exchange with client, task := .finished (.error error) }
  | message :: rest =>
    match Framing.encode exchange.width message with
    | .error payload => { exchange with task := .finished (.error (.panic payload)) }
    | .ok (.error cause) => { exchange with task := .finished (.error (.io cause)) }
    | .ok (.ok frame) =>
      match exchange.client.perform (.send frame) with
      | (.ok (), client) => { exchange with client, task := .submitting rest }
      | (.error error, client) => { exchange with client, task := .finished (.error error) }

/-- Prints the next reply; the task is over once there is one for every message. -/
def print (exchange : Exchange) : Exchange :=
  if exchange.printed.length = exchange.total then { exchange with task := .finished (.ok ()) }
  else match exchange.client.state with
    | [] => exchange
    | frame :: rest =>
      { exchange with
        client := { exchange.client with state := rest }
        printed := exchange.printed ++ [frame.drop exchange.width] }

def take (exchange : Exchange) : Turn → Exchange
  | .serverSweep =>
    match exchange.server.visit exchange.serverService false with
    | some server => { exchange with server }
    | none => exchange
  | .clientSweep =>
    match exchange.client.visit exchange.clientService false with
    | some client => { exchange with client }
    | none => { exchange with clientEnded := true }
  | .carryOut count =>
    let (server, carriedOut) :=
      carry exchange.client exchange.server exchange.carriedOut count
    { exchange with server, carriedOut }
  | .carryBack count =>
    let (client, carriedBack) :=
      carry exchange.server exchange.client exchange.carriedBack count
    { exchange with client, carriedBack }
  | .proceed =>
    match exchange.task with
    | .submitting messages => exchange.submit messages
    | .waiting => exchange.print
    | .finished _ => exchange
  | .notice =>
    match exchange.task with
    | .waiting =>
      if exchange.clientEnded then { exchange with task := .finished (.ok ()) } else exchange
    | .submitting _ | .finished _ => exchange

def takeAll (exchange : Exchange) (turns : List Turn) : Exchange := turns.foldl take exchange

/-- Everything that is ready is carried, and every party has a turn. -/
def round (exchange : Exchange) : Exchange :=
  let out := exchange.take .proceed |>.take .clientSweep
  let carried := out.take (.carryOut out.client.channel.connection.delivered.length)
  let swept := carried.take .serverSweep
  let back := swept.take (.carryBack swept.server.channel.connection.delivered.length)
  let after := back.take .clientSweep
  if after.clientEnded && after.client.state.isEmpty then after.take .notice else after

def rounds : Nat → Exchange → Exchange
  | 0, exchange => exchange
  | count + 1, exchange =>
    match exchange.task with
    | .finished _ => exchange
    | .submitting _ | .waiting => rounds count exchange.round

/-- Every round submits, prints, reads or closes something, so a conversation has no more rounds
than this. -/
def bound (messages : List Bytes) : Nat :=
  messages.foldr (fun message rest => 4 * message.length + 20 + rest) 16

end Exchange

end StreamDispatch.Echo
