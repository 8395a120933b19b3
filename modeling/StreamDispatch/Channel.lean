import StreamDispatch.Bytes
import StreamDispatch.Error
import StreamDispatch.Word

/-!
One live connection and its buffering state. Output is held back until it is flushed or outgrows its
buffer; input is read in portions of bounded size and kept as `pending` until a handler consumes it.
-/
namespace StreamDispatch

/-- What stands between a channel and the network. A writer passes on what it is given in order, and
until it is flushed it holds back at most an end of it; how much may depend on everything that went
out before. -/
structure Writer where
  /-- What goes out now and what is held back after, when data is added to what is held back. -/
  push (gone held data : Bytes) : Bytes × Bytes
  whole : ∀ gone held data, (push gone held data).1 ++ (push gone held data).2 = held ++ data

namespace Writer

def capacity : Nat := 8192

/-- Adds data to output that is held back: what goes out now and what is held back after. Output
that would outgrow its buffer goes out first, and data as large as the buffer is never held back. -/
def buffered (held data : Bytes) : Bytes × Bytes :=
  let (sent, kept) := if capacity < held.length + data.length then (held, []) else ([], held)
  if capacity ≤ data.length then (sent ++ kept ++ data, []) else (sent, kept ++ data)

theorem buffered_append (held data : Bytes) :
    (buffered held data).1 ++ (buffered held data).2 = held ++ data := by
  simp only [buffered]
  split <;> split <;> simp

def buffering : Writer := ⟨fun _ => buffered, fun _ => buffered_append⟩

end Writer

/-- The network's part of a connection: a queue of bytes in each direction. -/
structure Connection where
  unread : Bytes := []
  ended : Bool := false
  /-- Reads fail from now on. -/
  broken : Bool := false
  delivered : Bytes := []
  deriving DecidableEq, Repr

structure Channel where
  id : Nat
  /-- The bound on unconsumed bytes. -/
  capacity : Nat
  connection : Connection := {}
  /-- The input side is still held. -/
  reading : Bool := true
  /-- Output that is held back; `none` once the output side is given up. -/
  output : Option Bytes := some []
  writer : Writer := .buffering
  pending : Bytes := []
  locked : Bool := false
  opened : Bool := false
  /-- The connection was shut down locally or by the peer. -/
  closed : Bool := false
  closeRequested : Bool := false
  /-- Output that is held back must be dropped. -/
  discard : Bool := false
  /-- The close callback has run, so the channel can be forgotten. -/
  closeFired : Bool := false

/-- What a try to read without waiting finds. -/
inductive Probe where
  | data (bytes : Bytes)
  | empty
  | closed
  deriving DecidableEq, Repr

namespace Channel

/-! ### Output -/

def deliver (channel : Channel) (bytes : Bytes) : Channel :=
  { channel with
    connection := { channel.connection with delivered := channel.connection.delivered ++ bytes } }

def openOutput (channel : Channel) : Except Error Bytes :=
  match channel.closed, channel.output with
  | false, some held => .ok held
  | _, _ => .error .channelClosed

def send (channel : Channel) (data : Bytes) : Except Error Channel := do
  let held ← channel.openOutput
  let (sent, kept) := channel.writer.push channel.connection.delivered held data
  return { channel.deliver sent with output := some kept }

def flush (channel : Channel) : Except Error Channel := do
  let held ← channel.openOutput
  return { channel.deliver held with output := some [] }

def sendAndFlush (channel : Channel) (data : Bytes) : Except Error Channel := do
  (← channel.send data).flush

/-! ### Closing -/

def shutdown (channel : Channel) : Channel :=
  match channel.output with
  | some held => { channel.deliver held with output := none }
  | none => channel

/-- Flushes and shuts down; does nothing on a closed channel. -/
def close (channel : Channel) : Channel :=
  if channel.closed then channel else { channel with closed := true }.shutdown

/-- Shuts down and drops output that is held back. -/
def closeNow (channel : Channel) : Channel :=
  let marked := { channel with discard := true }
  if marked.closed then marked else { marked with closed := true, output := none }

/-- Gives both sides up, flushing the output unless it is to be dropped. -/
def release (channel : Channel) : Channel :=
  let marked := { channel with closed := true }
  let still := if marked.discard then { marked with output := none } else marked.shutdown
  { still with reading := false }

/-! ### Input -/

/-- Reads what is there, at most `room` bytes. A close comes before everything else, and without
room even the end of the stream goes unnoticed. Room is asked for before the read, so more than any
buffer holds is a panic whatever the peer did. A read that fails counts as the end. -/
def probe (channel : Channel) (room : Nat) : Except Panic Probe × Channel :=
  if channel.closed || channel.closeRequested then (.ok .closed, channel)
  else if room = 0 then (.ok .empty, channel)
  else if !channel.reading then (.ok .closed, channel)
  else if Word.maxCapacity < room then (.error (.text "capacity overflow"), channel)
  else if channel.connection.broken then (.ok .closed, channel)
  else if channel.connection.unread.isEmpty then
    (.ok (if channel.connection.ended then .closed else .empty), channel)
  else
    (.ok (.data (channel.connection.unread.take room)),
      { channel with
        connection :=
          { channel.connection with unread := channel.connection.unread.drop room } })

/-! ### The peer -/

/-- The peer sends bytes, unless it has ended its sending side. -/
def arrive (channel : Channel) (bytes : Bytes) : Channel :=
  if channel.connection.ended then channel
  else
    { channel with
      connection :=
        { channel.connection with unread := channel.connection.unread ++ bytes } }

def peerEnds (channel : Channel) : Channel :=
  { channel with connection := { channel.connection with ended := true } }

/-- The connection fails; what was not read by then is never read. -/
def breaks (channel : Channel) : Channel :=
  { channel with connection := { channel.connection with broken := true } }

def atEnd (channel : Channel) : Bool := channel.output.isNone

/-! ### What others see -/

def inspect (channel : Channel) (localName remoteName : String) : String :=
  Text.record "TcpChannel"
    [("id", toString channel.id), ("local_addr", localName), ("remote_addr", remoteName),
      ("opened", Text.flag channel.opened), ("closed", Text.flag channel.closed)]

structure View where
  id : Nat
  capacity : Nat
  opened : Bool
  closed : Bool
  deriving DecidableEq, Repr

def view (channel : Channel) : View :=
  ⟨channel.id, channel.capacity, channel.opened, channel.closed⟩

end Channel

inductive Action where
  | send (data : Bytes)
  | flush
  | sendAndFlush (data : Bytes)
  | close
  | closeNow
  deriving DecidableEq, Repr

namespace Action

def payload : Action → Bytes
  | send data | sendAndFlush data => data
  | flush | close | closeNow => []

def apply : Action → Channel → Except Error Channel
  | send data, channel => channel.send data
  | flush, channel => channel.flush
  | sendAndFlush data, channel => channel.sendAndFlush data
  | close, channel => .ok channel.close
  | closeNow, channel => .ok channel.closeNow

end Action

end StreamDispatch
