import StreamDispatch.Bench.Basic
import StreamDispatch.Hub

/-!
A bench for one channel: the peer on one side, single sweeps of the dispatch loop on the other.
-/
namespace StreamDispatch.Bench

inductive DispatchStep where
  | send (data : Bytes)
  | peerEnds
  | sweep (count : Nat)
  | probe (room : Nat)
  | closing
  | acceptDone
  | requestClose
  | setPending (data : Bytes)
  | lock
  | unlock
  | id
  | inspect
  /-- What has reached the peer since the last time. -/
  | read
  | call (call : ChannelCall)

structure DispatchReport where
  answer : Answer
  events : List Event
  opened : Bool
  closed : Bool
  closeFired : Bool
  pending : Bytes
  live : Nat

structure DispatchBench where
  service : Service Nat
  id : Nat
  hub : Hub Nat
  /-- The bench itself holds the channel's lock. -/
  holding : Bool := false
  /-- How much of the journal was reported. -/
  reported : Nat := 0
  /-- How much of the delivered output the peer has picked up. -/
  collected : Nat := 0

namespace DispatchBench

/-- Makes the connection and puts its channel in a set of its own. -/
def start (host : Host) (service : Service Nat) (id : Nat) : Except Failure DispatchBench :=
  match host.connect listener with
  | .error cause => .error (.unconnected cause)
  | .ok () =>
    let live := ({} : ChannelSet (Session Nat)).insert id (service.session id)
    .ok { service, id, hub := { live } }

def session (bench : DispatchBench) : Session Nat :=
  (bench.hub.find? bench.id).getD (bench.service.session bench.id)

def touch (bench : DispatchBench) (change : Session Nat → Session Nat) : DispatchBench :=
  { bench with hub := bench.hub.touch bench.id change }

def touchChannel (bench : DispatchBench) (change : Channel → Channel) : DispatchBench :=
  bench.touch (·.updateChannel change)

/-- So many sweeps, and whether the last one found or made an end of the loop. -/
def sweeps (service : Service Nat) : Nat → Hub Nat → Bool × Hub Nat
  | 0, hub => (false, hub)
  | count + 1, hub =>
    let after := hub.sweep service hub.live.ids
    match count with
    | 0 => (after.signals.terminated, after)
    | _ => sweeps service count after

def perform (bench : DispatchBench) : DispatchStep → Answer × DispatchBench
  | .send data =>
    let (sent, _) := bench.session.arrive data
    (.flag sent, bench.touch fun session => (session.arrive data).2)
  | .peerEnds => (.ok, bench.touch Session.peerEnds)
  | .sweep count =>
    let (ended, hub) := sweeps bench.service count bench.hub
    (.word (if ended then "ended" else "swept"), { bench with hub })
  | .probe room =>
    let (found, channel) := bench.session.channel.probe room
    let answer := match found with
      | .ok (.data bytes) => Answer.bytes bytes
      | .ok .empty => .word "empty"
      | .ok .closed => .word "closed"
      | .error payload => .failed (.panic payload)
    (answer, bench.touchChannel fun _ => channel)
  | .closing =>
    (.nothing, { bench with
      hub := { bench.hub with signals := { bench.hub.signals with closing := true } } })
  | .acceptDone =>
    (.nothing, { bench with
      hub := { bench.hub with signals := { bench.hub.signals with acceptDone := true } } })
  | .requestClose => (.nothing, bench.touchChannel ({ · with closeRequested := true }))
  | .setPending data => (.nothing, bench.touchChannel ({ · with pending := data }))
  | .lock =>
    if bench.session.channel.locked then (.flag false, bench)
    else (.flag true, { bench.touchChannel ({ · with locked := true }) with holding := true })
  | .unlock =>
    if bench.holding then
      (.flag true, { bench.touchChannel ({ · with locked := false }) with holding := false })
    else (.flag false, bench)
  | .id => (.identity bench.session.channel.id bench.session.channel.capacity, bench)
  | .inspect => (.word (bench.session.channel.inspect "LOCAL" "REMOTE"), bench)
  | .read =>
    let channel := bench.session.channel
    let content := channel.connection.delivered.drop bench.collected
    (.received content channel.atEnd,
      { bench with collected := channel.connection.delivered.length })
  | .call call =>
    ((call.run bench.session).1, bench.touch fun session => (call.run session).2)

def step (visibility : Visibility) (bench : DispatchBench) (step : DispatchStep) :
    DispatchReport × DispatchBench :=
  let (answer, after) := bench.perform step
  let session := after.session
  let (events, reported) := visibility.since after.reported session.journal
  let channel := session.channel
  ({ answer, events, opened := channel.opened, closed := channel.closed,
     closeFired := channel.closeFired, pending := channel.pending, live := after.hub.live.size },
    { after with reported })

def run (visibility : Visibility) (bench : DispatchBench) : List DispatchStep → List DispatchReport
  | [] => []
  | step :: rest =>
    let (report, after) := bench.step visibility step
    report :: after.run visibility rest

end DispatchBench

end StreamDispatch.Bench
