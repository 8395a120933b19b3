import StreamDispatch.Host
import StreamDispatch.Lifecycle
import StreamDispatch.Service

/-!
A bench drives endpoints step by step, with the peers of their connections on the other side, and
answers every step.
-/
namespace StreamDispatch.Bench

inductive Answer where
  | ok
  | nothing
  | flag (value : Bool)
  | number (value : Nat)
  | word (value : String)
  | bytes (content : Bytes)
  /-- Bytes that reached a peer, and whether more can come. -/
  | received (content : Bytes) (atEnd : Bool)
  | flags (state : EndpointState)
  | identity (id capacity : Nat)
  | failed (error : Error)

def Answer.ofResult : Except Error Unit → Answer
  | .ok () => .ok
  | .error error => .failed error

/-- Why there is no answer at all. -/
inductive Failure where
  | error (cause : Error)
  | panic (payload : Panic)
  | unconnected (cause : IoError)
  | noPeer (count index : Nat)
  | noRemote
  | noPieces
  /-- More bytes were taken from a buffer than it has. -/
  | advance (count available : Nat)
  | stuck

structure Visibility where
  callbacks : Bool := true
  idle : Bool := false
  requests : Bool := false

def Visibility.shows (visibility : Visibility) : Event → Bool
  | .looped false _ => visibility.callbacks && visibility.idle
  | .opened | .looped true _ | .failed .. | .closed _ => visibility.callbacks
  | .asked _ => visibility.requests
  | .noted _ => true
  | .arrived _ | .ended | .read _ | .chained .. | .wrote _ => false

def Visibility.since (visibility : Visibility) (place : Nat) (journal : Journal) :
    List Event × Nat :=
  ((journal.drop place).filter visibility.shows, journal.length)

/-- An address that is listened on, and one that is not. -/
def listener : SocketAddress := ⟨.localhost, Host.chosenPort, 0⟩

def nobody : SocketAddress := ⟨.localhost, 1, 0⟩

/-- Calls on a channel from outside handlers and callbacks. -/
inductive ChannelCall where
  | send (data : Bytes)
  | sendParts (parts : List Bytes)
  | flush
  | sendAndFlush (data : Bytes)
  /-- Sends what a reader yields, flushes, and counts the bytes. -/
  | sendFrom (data : Bytes)
  | close
  | closeNow

def ChannelCall.run {σ : Type} (call : ChannelCall) (session : Session σ) :
    Answer × Session σ :=
  let plainly (action : Action) : Answer × Session σ :=
    let (result, after) := session.perform action
    (.ofResult result, after)
  match call with
  | send data => plainly (.send data)
  | sendParts parts => plainly (.send parts.flatten)
  | flush => plainly .flush
  | sendAndFlush data => plainly (.sendAndFlush data)
  | close => plainly .close
  | closeNow => plainly .closeNow
  | sendFrom data =>
    match session.perform (.sendAndFlush data) with
    | (.ok (), after) => (.number data.length, after)
    | (.error error, after) => (.failed error, after)

end StreamDispatch.Bench
