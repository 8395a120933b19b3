import StreamDispatch.Error

/-!
The life of an endpoint: created, opened, closed. A start that is under way is a phase of its own,
which outside still counts as created.
-/
namespace StreamDispatch

inductive EndpointState where
  | created | opened | closed
  deriving DecidableEq, Repr

namespace EndpointState

def name : EndpointState → String
  | created => "created"
  | opened => "opened"
  | closed => "closed"

def inspect : EndpointState → String
  | created => "Created"
  | opened => "Opened"
  | closed => "Closed"

/-- The place of a state in the life of an endpoint. -/
def rank : EndpointState → Nat
  | created => 0
  | opened => 1
  | closed => 2

end EndpointState

inductive Phase where
  | created | starting | opened | closed
  deriving DecidableEq, Repr

namespace Phase

def state : Phase → EndpointState
  | created | starting => .created
  | opened => .opened
  | closed => .closed

/-- Claims the start; only a created endpoint can be started. -/
def beginOpen : Phase → Except StateFault Phase
  | created => .ok starting
  | starting => .error .starting
  | opened => .error .opened
  | closed => .error .closed

/-- Whether there is anything to close; an endpoint that was never started cannot be closed. -/
def checkClose : Phase → Except StateFault Bool
  | created | starting => .error .notStarted
  | opened => .ok true
  | closed => .ok false

end Phase

end StreamDispatch
