import StreamDispatch.Bench.Basic
import StreamDispatch.Server

/-!
A bench for a server and the peers that connect to it. Everything comes to rest after each step. A
server that another one took the place of goes on serving its peers.
-/
namespace StreamDispatch.Bench

inductive ServerStep where
  | start
  /-- Starts it, and closes it from elsewhere as soon as it is open. -/
  | startAndWait (timeout : Option Duration)
  | close (timeout : Option Duration)
  | closeNow
  | connect
  | send (peer : Nat) (data : Bytes)
  | peerEnds (peer : Nat)
  | read (peer : Nat)
  | wait
  | flags
  | port
  | address
  | inspect
  | rebuild

/-- The far side of one connection. -/
structure Peer where
  /-- Which server it is connected to, counted from the first. -/
  generation : Nat
  id : Nat
  reported : Nat := 0
  collected : Nat := 0

structure ServerReport where
  answer : Answer
  /-- New events of the peers that have any. -/
  events : List (Nat × List Event)
  state : EndpointState
  count : Nat

structure ServerBench where
  host : Host
  /-- Servers whose place was taken, the earliest first. -/
  past : List (Server Nat) := []
  current : Server Nat
  peers : List Peer := []

namespace ServerBench

def servers (bench : ServerBench) : List (Server Nat) := bench.past ++ [bench.current]

def peer (bench : ServerBench) (index : Nat) : Except Failure Peer :=
  match bench.peers[index]? with
  | some peer => .ok peer
  | none => .error (.noPeer bench.peers.length index)

def session? (bench : ServerBench) (peer : Peer) : Option (Session Nat) :=
  bench.servers[peer.generation]?.bind fun server => server.hub.find? peer.id

def touch (bench : ServerBench) (peer : Peer) (change : Session Nat → Session Nat) :
    ServerBench :=
  let touched (server : Server Nat) : Server Nat :=
    { server with toEndpoint := server.toEndpoint.touch peer.id change }
  if peer.generation < bench.past.length then
    { bench with past := bench.past.modify peer.generation touched }
  else { bench with current := touched bench.current }

def settle (bench : ServerBench) : ServerBench :=
  let settled (server : Server Nat) : Server Nat :=
    { server with toEndpoint := server.toEndpoint.settle }
  { bench with past := bench.past.map settled, current := settled bench.current }

def start (bench : ServerBench) : Except Failure (Except Error Unit × ServerBench) :=
  match bench.current.start bench.host with
  | (.error payload, _) => .error (.panic payload)
  | (.ok result, current) => .ok (result, { bench with current })

def close (bench : ServerBench) (timeout : Option Duration) :
    Except Failure (Answer × ServerBench) :=
  match bench.current.toEndpoint.close timeout with
  | (.done result, endpoint) =>
    .ok (.ofResult result, { bench with current := { bench.current with toEndpoint := endpoint } })
  | (.panicked payload, _) => .error (.panic payload)
  | (.hung, _) => .error .stuck

def connect (bench : ServerBench) : Answer × ServerBench :=
  match bench.current.localAddress with
  | .error error => (.failed error, bench)
  | .ok address =>
    match bench.host.connect address, bench.current.isAccepting with
    | .ok (), true =>
      let (id, current) := bench.current.accept
      let generation := bench.past.length
      (.number bench.peers.length,
        { bench with current, peers := bench.peers ++ [{ generation, id }] })
    | _, _ => (.word "refused", bench)

def perform (bench : ServerBench) : ServerStep → Except Failure (Answer × ServerBench)
  | .start => do
    let (result, after) ← bench.start
    return (.ofResult result, after)
  | .startAndWait timeout => do
    let (result, started) ← bench.start
    let rested := started.settle
    if rested.current.phase == .opened then
      let (_, closed) ← rested.close timeout
      return (.ofResult result, closed)
    else return (.ofResult result, rested)
  | .close timeout => bench.close timeout
  | .closeNow =>
    let (result, endpoint) := bench.current.toEndpoint.closeNow
    .ok (.ofResult result, { bench with current := { bench.current with toEndpoint := endpoint } })
  | .connect => .ok bench.connect
  | .send index data => do
    let peer ← bench.peer index
    return (.ok, bench.touch peer fun session => (session.arrive data).2)
  | .peerEnds index => do
    let peer ← bench.peer index
    return (.ok, bench.touch peer Session.peerEnds)
  | .read index => do
    let peer ← bench.peer index
    match bench.session? peer with
    | none => return (.received [] true, bench)
    | some session =>
      let delivered := session.channel.connection.delivered
      let collected := { peer with collected := delivered.length }
      return (.received (delivered.drop peer.collected) session.channel.atEnd,
        { bench with peers := bench.peers.set index collected })
  | .wait => .ok (.flag bench.current.hub.signals.terminated, bench)
  | .flags => .ok (.flags bench.current.state, bench)
  | .port => .ok (match bench.current.localAddress with
      | .ok address => .flag (address.port != 0)
      | .error error => .failed error, bench)
  | .address => .ok (match bench.current.localAddress with
      | .ok address => .word address.ip.text
      | .error error => .failed error, bench)
  | .inspect => .ok (.word (bench.current.inspect fun _ => "ADDR"), bench)
  | .rebuild =>
    match Server.build bench.current.settings with
    | .ok next => .ok (.ok, { bench with past := bench.past ++ [bench.current], current := next })
    | .error fault => .ok (.failed (.config fault), bench)

/-- New events of every peer that has any, with the peers' places moved on. -/
def news (visibility : Visibility) (bench : ServerBench) :
    (index : Nat) → List Peer → List (Nat × List Event) × List Peer
  | _, [] => ([], [])
  | index, peer :: rest =>
    let (later, moved) := bench.news visibility (index + 1) rest
    match bench.session? peer with
    | none => (later, peer :: moved)
    | some session =>
      let (events, reported) := visibility.since peer.reported session.journal
      (if events.isEmpty then later else (index, events) :: later, { peer with reported } :: moved)

def step (visibility : Visibility) (bench : ServerBench) (step : ServerStep) :
    Except Failure (ServerReport × ServerBench) := do
  let (answer, performed) ← bench.perform step
  let after := performed.settle
  let (events, peers) := after.news visibility 0 after.peers
  return ({ answer, events, state := after.current.state, count := after.current.channelCount },
    { after with peers })

def run (visibility : Visibility) (bench : ServerBench) :
    List ServerStep → Except Failure (List ServerReport)
  | [] => .ok []
  | step :: rest => do
    let (report, after) ← bench.step visibility step
    return report :: (← after.run visibility rest)

end ServerBench

end StreamDispatch.Bench
