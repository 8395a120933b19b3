import StreamDispatch.Duration
import StreamDispatch.Service

/-!
The configuration of endpoints. It is checked as a whole when an endpoint is built, in a fixed
order, and a built endpoint never changes it.
-/
namespace StreamDispatch

/-- Where callbacks and handlers run. -/
inductive Executor where
  | multiThreaded
  | singleThreaded
  deriving DecidableEq, Repr

/-- The pause between two sweeps unless told otherwise: one millisecond. -/
def defaultInterval : Duration := .ofMilliseconds 1

/-- The number of connections that may wait to be accepted unless told otherwise. -/
def defaultBacklog : Nat := 50

/-- How an allocator is shown, whatever it does. -/
def allocatorName : String := "BufferAllocator"

/-- What servers and clients have in common. -/
structure Settings (σ : Type) where
  handlers : List (Handler σ) := []
  callbacks : Callbacks σ := {}
  allocator : Allocator σ := Allocator.empty
  executor : Option Executor := none
  bufferSize : Nat := defaultBufferSize
  interval : Duration := defaultInterval
  fresh : σ

structure ServerSettings (σ : Type) extends Settings σ where
  /-- All version 4 interfaces unless an address is given. -/
  address : Option IpAddress := none
  /-- Zero lets the system choose. -/
  port : Nat := 0
  backlog : Nat := defaultBacklog

structure ClientSettings (σ : Type) extends Settings σ where
  /-- How long to wait for a connection; without a bound unless given. -/
  connectTimeout : Option Duration := none

variable {σ : Type}

namespace Settings

def service (settings : Settings σ) : Except ConfigFault (Service σ) :=
  if settings.handlers.isEmpty then .error .noHandlers
  else match settings.executor with
    | none => .error .noExecutor
    | some .singleThreaded => .error .singleThreaded
    | some .multiThreaded =>
      if settings.bufferSize = 0 then .error .noBuffer
      else if settings.interval.isZero then .error .noInterval
      else .ok
        { handlers := settings.handlers
          callbacks := settings.callbacks
          allocator := settings.allocator
          bufferSize := settings.bufferSize
          fresh := settings.fresh }

def shown (settings : Settings σ) : List (String × String) :=
  [("channel_handlers", toString settings.handlers.length),
    ("channel_buffer_size", toString settings.bufferSize),
    ("loop_interval", settings.interval.text)]

end Settings

namespace ServerSettings

def service (settings : ServerSettings σ) : Except ConfigFault (Service σ) :=
  if settings.backlog = 0 then .error .noBacklog else settings.toSettings.service

def endpoint (settings : ServerSettings σ) : SocketAddress :=
  ⟨settings.address.getD .unspecified, settings.port, 0⟩

def inspect (settings : ServerSettings σ) : String :=
  Text.openRecord "ServerBuilder"
    ([("address", Text.optional (settings.address.map IpAddress.text)),
      ("port", toString settings.port), ("backlog", toString settings.backlog)] ++
      settings.toSettings.shown)

end ServerSettings

namespace ClientSettings

def service (settings : ClientSettings σ) : Except ConfigFault (Service σ) :=
  if settings.connectTimeout.any Duration.isZero then .error .noConnectTimeout
  else settings.toSettings.service

def inspect (settings : ClientSettings σ) : String :=
  Text.openRecord "ClientBuilder"
    (settings.toSettings.shown ++
      [("connect_timeout", Text.optional (settings.connectTimeout.map Duration.text))])

end ClientSettings

end StreamDispatch
