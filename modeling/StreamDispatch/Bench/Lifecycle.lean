import StreamDispatch.Bench.Basic

/-!
A bench for the life of an endpoint, one transition at a time.
-/
namespace StreamDispatch.Bench

inductive PhaseStep where
  | beginOpen
  | finishOpen
  | abandonOpen
  | checkClose
  | close

structure PhaseReport where
  answer : Answer
  state : EndpointState

namespace PhaseStep

def perform (phase : Phase) : PhaseStep → Answer × Phase
  | beginOpen =>
    match phase.beginOpen with
    | .ok next => (.ok, next)
    | .error fault => (.failed (.state fault), phase)
  | finishOpen => (.ok, .opened)
  | abandonOpen => (.ok, .created)
  | checkClose =>
    match phase.checkClose with
    | .ok needed => (.flag needed, phase)
    | .error fault => (.failed (.state fault), phase)
  | close => (.ok, .closed)

def run (phase : Phase) : List PhaseStep → List PhaseReport
  | [] => []
  | step :: rest =>
    let (answer, next) := step.perform phase
    { answer, state := next.state } :: run next rest

end PhaseStep

end StreamDispatch.Bench
