import StreamDispatch.Bytes
import StreamDispatch.Error

/-!
The journal of a channel: everything that happened to it, in order. What the peer sent, what was
read and offered to the chain, which callbacks fired with what, and what application code wrote down.
-/
namespace StreamDispatch

/-- What application code writes down. -/
inductive Note where
  | frames (list : List Bytes)
  | bytes (content : Bytes)
  | seen (shown : String)
  | number (value : UInt32)
  | text (value : String)
  deriving DecidableEq, Repr

inductive Event where
  | arrived (bytes : Bytes)
  | ended
  | read (bytes : Bytes)
  /-- The allocator was asked for a capacity. -/
  | asked (capacity : Nat)
  /-- A chain run was over: the bytes it was offered, those it left, and what it failed with. -/
  | chained (offered left : Bytes) (fault : Option Error)
  | wrote (bytes : Bytes)
  | opened
  /-- The loop callback fired, with or without new data. -/
  | looped (fresh : Bool) (pending : Bytes)
  | failed (error : Error) (pending : Bytes)
  | closed (leftover : Bytes)
  | noted (note : Note)
  deriving DecidableEq

namespace Event

def isCallback : Event → Bool
  | opened | looped .. | failed .. | closed .. => true
  | _ => false

end Event

abbrev Journal := List Event

namespace Journal

def sent (journal : Journal) : Bytes :=
  journal.flatMap fun event => match event with
    | .arrived bytes => bytes
    | _ => []

/-- All bytes that chain runs took off the front of what they were offered. -/
def consumed (journal : Journal) : Bytes :=
  journal.flatMap fun event => match event with
    | .chained offered left _ => offered.take (offered.length - left.length)
    | _ => []

def written (journal : Journal) : Bytes :=
  journal.flatMap fun event => match event with
    | .wrote bytes => bytes
    | _ => []

def callbacks (journal : Journal) : Journal := journal.filter Event.isCallback

/-- The frames that application code wrote down. -/
def frames (journal : Journal) : List Bytes :=
  journal.flatMap fun event => match event with
    | .noted (.frames list) => list
    | _ => []

def received (journal : Journal) : Bytes :=
  journal.flatMap fun event => match event with
    | .read bytes => bytes
    | _ => []

/-- How one event changes what waits for the chain. -/
def await (waiting : Bytes) : Event → Bytes
  | .read bytes => waiting ++ bytes
  | .chained _ left _ => left
  | _ => waiting

/-- What the last chain run left, and behind it what was read since. -/
def awaiting (journal : Journal) : Bytes := journal.foldl await []

variable (journal events : Journal)

@[simp] theorem sent_append : sent (journal ++ events) = journal.sent ++ sent events := by
  simp [sent]

@[simp] theorem consumed_append :
    consumed (journal ++ events) = journal.consumed ++ consumed events := by
  simp [consumed]

@[simp] theorem written_append :
    written (journal ++ events) = journal.written ++ written events := by
  simp [written]

@[simp] theorem callbacks_append :
    callbacks (journal ++ events) = journal.callbacks ++ callbacks events := by
  simp [callbacks]

@[simp] theorem frames_append : frames (journal ++ events) = journal.frames ++ frames events := by
  simp [frames]

@[simp] theorem received_append :
    received (journal ++ events) = journal.received ++ received events := by
  simp [received]

@[simp] theorem awaiting_append :
    awaiting (journal ++ events) = events.foldl await journal.awaiting := by
  simp [awaiting]

end Journal

end StreamDispatch
