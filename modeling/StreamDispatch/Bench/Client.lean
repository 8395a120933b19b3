import StreamDispatch.Bench.Basic
import StreamDispatch.Client

/-!
A bench for a client and the far side of the connections it makes. Everything comes to rest after
each step. A client that another one took the place of goes on serving its channel.
-/
namespace StreamDispatch.Bench

/-- Where a client is told to connect to. -/
inductive Target where
  | listening
  | closed

def Target.address : Target → SocketAddress
  | .listening => listener
  | .closed => nobody

inductive ClientStep where
  | start (targets : List Target)
  | startAndWait
  | close (timeout : Option Duration)
  | closeNow
  | remoteSend (data : Bytes)
  | remoteEnds
  /-- What has reached the far side since the last time. -/
  | read
  | wait
  | flags
  | channel
  | inspect
  | rebuild
  | call (call : ChannelCall)

/-- The far side of a connection. -/
structure Contact where
  /-- Which client made it, counted from the first. -/
  generation : Nat
  id : Nat
  reported : Nat := 0
  collected : Nat := 0

structure ClientReport where
  answer : Answer
  events : List Event
  state : EndpointState

structure ClientBench where
  host : Host
  /-- Clients whose place was taken, the earliest first. -/
  past : List (Client Nat) := []
  current : Client Nat
  contacts : List Contact := []

namespace ClientBench

def clients (bench : ClientBench) : List (Client Nat) := bench.past ++ [bench.current]

def session? (bench : ClientBench) (contact : Contact) : Option (Session Nat) :=
  bench.clients[contact.generation]?.bind fun client => client.hub.find? contact.id

def touch (bench : ClientBench) (contact : Contact) (change : Session Nat → Session Nat) :
    ClientBench :=
  let touched (client : Client Nat) : Client Nat :=
    { client with toEndpoint := client.toEndpoint.touch contact.id change }
  if contact.generation < bench.past.length then
    { bench with past := bench.past.modify contact.generation touched }
  else { bench with current := touched bench.current }

def settle (bench : ClientBench) : ClientBench :=
  let settled (client : Client Nat) : Client Nat :=
    { client with toEndpoint := client.toEndpoint.settle }
  { bench with past := bench.past.map settled, current := settled bench.current }

/-- The far side of the last connection, with its near side. -/
def remote? (bench : ClientBench) : Option (Contact × Session Nat) :=
  bench.contacts.getLast?.bind fun contact =>
    (bench.session? contact).map fun session => (contact, session)

def start (bench : ClientBench) (targets : List Target) : Except Error Unit × ClientBench :=
  match bench.current.start bench.host (targets.map Target.address) with
  | (.error error, current) => (.error error, { bench with current })
  | (.ok (), current) =>
    let contact := { generation := bench.past.length, id := current.channel.getD 0 }
    (.ok (), { bench with current, contacts := bench.contacts ++ [contact] })

def perform (bench : ClientBench) : ClientStep → Except Failure (Answer × ClientBench)
  | .start targets =>
    let (result, after) := bench.start targets
    .ok (.ofResult result, after)
  | .startAndWait =>
    match bench.start [.listening] with
    | (.error error, after) => .ok (.failed error, after)
    | (.ok (), after) =>
      let ended := (match after.remote? with
        | some (contact, _) => after.touch contact Session.peerEnds
        | none => after).settle
      if ended.current.hub.signals.terminated then .ok (.ok, ended) else .error .stuck
  | .close timeout =>
    match bench.current.toEndpoint.close timeout with
    | (.done result, endpoint) =>
      .ok (.ofResult result,
        { bench with current := { bench.current with toEndpoint := endpoint } })
    | (.panicked payload, _) => .error (.panic payload)
    | (.hung, _) => .error .stuck
  | .closeNow =>
    let (result, endpoint) := bench.current.toEndpoint.closeNow
    .ok (.ofResult result, { bench with current := { bench.current with toEndpoint := endpoint } })
  | .remoteSend data =>
    match bench.remote? with
    | none => .ok (.flag false, bench)
    | some (contact, session) =>
      .ok (.flag (session.arrive data).1,
        bench.touch contact fun session => (session.arrive data).2)
  | .remoteEnds =>
    match bench.remote? with
    | none => .error .noRemote
    | some (contact, _) => .ok (.ok, bench.touch contact Session.peerEnds)
  | .read =>
    match bench.remote? with
    | none => .ok (.nothing, bench)
    | some (contact, session) =>
      let delivered := session.channel.connection.delivered
      let collected := { contact with collected := delivered.length }
      .ok (.received (delivered.drop contact.collected) session.channel.atEnd,
        { bench with contacts := bench.contacts.dropLast ++ [collected] })
  | .wait => .ok (.flag bench.current.hub.signals.terminated, bench)
  | .flags => .ok (.flags bench.current.state, bench)
  | .channel => .ok (match bench.current.session? with
      | some session => .identity session.channel.id session.channel.capacity
      | none => .nothing, bench)
  | .inspect => .ok (.word (bench.current.inspect "LOCAL" "REMOTE"), bench)
  | .rebuild =>
    match Client.build bench.current.settings with
    | .ok next => .ok (.ok, { bench with past := bench.past ++ [bench.current], current := next })
    | .error fault => .ok (.failed (.config fault), bench)
  | .call call =>
    match bench.current.session?, bench.current.channel with
    | some session, some id =>
      let changed := bench.current.toEndpoint.touch id fun session => (call.run session).2
      .ok ((call.run session).1,
        { bench with current := { bench.current with toEndpoint := changed } })
    | _, _ => .ok (.word "no channel", bench)

/-- New events of every contact, with their places moved on. -/
def news (visibility : Visibility) (bench : ClientBench) :
    List Contact → List Event × List Contact
  | [] => ([], [])
  | contact :: rest =>
    let (later, moved) := bench.news visibility rest
    match bench.session? contact with
    | none => (later, contact :: moved)
    | some session =>
      let (events, reported) := visibility.since contact.reported session.journal
      (events ++ later, { contact with reported } :: moved)

def step (visibility : Visibility) (bench : ClientBench) (step : ClientStep) :
    Except Failure (ClientReport × ClientBench) := do
  let (answer, performed) ← bench.perform step
  let after := performed.settle
  let (events, contacts) := after.news visibility after.contacts
  return ({ answer, events, state := after.current.state }, { after with contacts })

def run (visibility : Visibility) (bench : ClientBench) :
    List ClientStep → Except Failure (List ClientReport)
  | [] => .ok []
  | step :: rest => do
    let (report, after) ← bench.step visibility step
    return report :: (← after.run visibility rest)

end ClientBench

end StreamDispatch.Bench
