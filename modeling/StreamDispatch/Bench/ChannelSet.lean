import StreamDispatch.Bench.Basic
import StreamDispatch.ChannelSet

/-!
A bench for a set of channels. Every channel put in needs a connection of its own.
-/
namespace StreamDispatch.Bench

inductive SetStep where
  | nextId
  /-- Puts a channel in under a given id, or under the next one. -/
  | insert (id : Option Nat) (capacity : Nat)
  | remove (id : Nat)
  | clear

structure SetReport where
  answer : Answer
  size : Nat
  empty : Bool
  /-- Ids and capacities, in the order of ids. -/
  members : List (Nat × Nat)

namespace SetStep

def perform (host : Host) (set : ChannelSet Nat) :
    SetStep → Except Failure (Answer × ChannelSet Nat)
  | nextId =>
    let (id, after) := set.issue
    .ok (.number id, after)
  | insert given capacity =>
    match host.connect listener with
    | .error cause => .error (.unconnected cause)
    | .ok () =>
      let (id, after) := match given with
        | some id => (id, set)
        | none => set.issue
      .ok (.number id, after.insert id capacity)
  | remove id => .ok (.nothing, set.remove id)
  | clear => .ok (.nothing, set.clear)

def run (host : Host) (set : ChannelSet Nat) : List SetStep → Except Failure (List SetReport)
  | [] => .ok []
  | step :: rest => do
    let (answer, after) ← step.perform host set
    let reports ← run host after rest
    return { answer, size := after.size, empty := after.isEmpty, members := after.sorted } :: reports

end SetStep

end StreamDispatch.Bench
