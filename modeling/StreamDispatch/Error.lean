import StreamDispatch.Address.Socket
import StreamDispatch.Text.Quoted
import StreamDispatch.Text.Record

/-!
What can go wrong, as causes. `message` is the text shown to people, `inspect` the quoted form that
the command line prints.
-/
namespace StreamDispatch

/-- What unwound, out of application code for the most part: a text, or a value that is not one. -/
inductive Panic where
  | text (content : String)
  | untyped
  deriving DecidableEq, Repr, Inhabited

def Panic.message : Panic → String
  | .text content => content
  | .untyped => "unknown panic payload"

inductive IoKind where
  | invalidInput | invalidData | other | notFound | notConnected | timedOut
  | connectionRefused | connectionReset | networkUnreachable | addressNotAvailable
  | uncategorized
  deriving DecidableEq, Repr

def IoKind.name : IoKind → String
  | .invalidInput => "InvalidInput"
  | .invalidData => "InvalidData"
  | .other => "Other"
  | .notFound => "NotFound"
  | .notConnected => "NotConnected"
  | .timedOut => "TimedOut"
  | .connectionRefused => "ConnectionRefused"
  | .connectionReset => "ConnectionReset"
  | .networkUnreachable => "NetworkUnreachable"
  | .addressNotAvailable => "AddrNotAvailable"
  | .uncategorized => "Uncategorized"

/-- A failure that the operating system reports by number. -/
structure SystemFault where
  code : Nat
  kind : IoKind
  description : String
  deriving DecidableEq, Repr

namespace SystemFault

def networkUnreachable : SystemFault := ⟨101, .networkUnreachable, "Network is unreachable"⟩

def connectionRefused : SystemFault := ⟨111, .connectionRefused, "Connection refused"⟩

def addressNotAvailable : SystemFault :=
  ⟨99, .addressNotAvailable, "Cannot assign requested address"⟩

end SystemFault

/-- Why a dial string is refused; the tests are made in this order. -/
inductive DialFault where
  | parts
  | protocol (name : String)
  | port (text : String)
  deriving DecidableEq, Repr

inductive IoError where
  | system (fault : SystemFault)
  | dial (fault : DialFault)
  /-- A payload too long for the length in front of it. -/
  | payload (size width : Nat)
  | noAddress
  /-- A host that the resolver does not know. -/
  | unknownHost
  /-- A host that the resolver knows no address of. -/
  | unresolved (host : String)
  | application (kind : IoKind) (text : String)
  deriving DecidableEq, Repr

namespace IoError

def kind : IoError → IoKind
  | .system fault => fault.kind
  | .dial _ | .payload .. | .noAddress => .invalidInput
  | .unknownHost => .uncategorized
  | .unresolved _ => .notFound
  | .application kind _ => kind

def message : IoError → String
  | .system fault => fault.description ++ " (os error " ++ toString fault.code ++ ")"
  | .dial .parts => "expected proto!address!port"
  | .dial (.protocol name) => "unsupported protocol: " ++ name
  | .dial (.port text) => "invalid port: " ++ text
  | .payload size width =>
    toString size ++ " bytes do not fit a " ++ toString width ++ "-byte length"
  | .noAddress => "address resolved to nothing"
  | .unknownHost => "failed to lookup address information: Name or service not known"
  | .unresolved host => host ++ " did not resolve"
  | .application _ text => text

def inspect : IoError → String
  | .system fault =>
    Text.record "Os" [("code", toString fault.code), ("kind", fault.kind.name),
      ("message", Text.Quoted.quote fault.description)]
  | other =>
    Text.record "Custom" [("kind", other.kind.name), ("error", Text.Quoted.quote other.message)]

end IoError

inductive ConfigFault where
  | emptyFixedFrame
  | lengthWidth (width : Nat)
  | lengthOffset (offset : Nat)
  | noBacklog
  | noConnectTimeout
  | noHandlers
  | noExecutor
  | singleThreaded
  | noBuffer
  | noInterval
  | custom (text : String)
  deriving DecidableEq, Repr

def ConfigFault.message : ConfigFault → String
  | .emptyFixedFrame => "fixed frame length must be > 0"
  | .lengthWidth width => "length field width must be 1, 2 or 4, got " ++ toString width
  | .lengthOffset offset => "length field offset " ++ toString offset ++ " is out of range"
  | .noBacklog => "backlog must be > 0"
  | .noConnectTimeout => "connect timeout must be > 0"
  | .noHandlers => "channel handlers are empty"
  | .noExecutor => "executor is not set"
  | .singleThreaded => "executor must be a multi-threaded runtime"
  | .noBuffer => "channel buffer size must be > 0"
  | .noInterval => "loop interval must be > 0"
  | .custom text => text

inductive StateFault where
  | starting
  | opened
  | closed
  | notStarted
  | noListener
  | custom (text : String)
  deriving DecidableEq, Repr

def StateFault.message : StateFault → String
  | .starting => "endpoint is already starting"
  | .opened => "cannot start an endpoint that is opened"
  | .closed => "cannot start an endpoint that is closed"
  | .notStarted => "endpoint has not been started"
  | .noListener => "server has not been started"
  | .custom text => text

inductive FrameFault where
  | tooLong (length : Nat)
  /-- Something other than the channel's buffer came to the framing stage. -/
  | noBuffer (shown : String)
  | custom (text : String)
  deriving DecidableEq, Repr

/-- The largest length that a length field may announce. -/
def maxLength : Nat := 2147483647

def FrameFault.message : FrameFault → String
  | .tooLong length => "length " ++ toString length ++ " exceeds " ++ toString maxLength
  | .noBuffer shown => "length-based handler expects the raw channel buffer, got " ++ shown
  | .custom text => text

inductive Error where
  | config (fault : ConfigFault)
  | state (fault : StateFault)
  | io (cause : IoError)
  | accept (address : SocketAddress) (cause : IoError)
  | channelClosed
  | frame (fault : FrameFault)
  | bufferFull (capacity : Nat)
  /-- An error of the application, given as a text. -/
  | handler (text : String)
  /-- An error of the application that is itself one of these. -/
  | nested (inner : Error)
  | panic (payload : Panic)
  deriving DecidableEq

namespace Error

def message : Error → String
  | .config fault => "invalid configuration: " ++ fault.message
  | .state fault => "illegal state: " ++ fault.message
  | .io cause => "I/O error: " ++ cause.message
  | .accept address cause => "failed to accept on " ++ address.text ++ ": " ++ cause.message
  | .channelClosed => "channel is closed"
  | .frame fault => "invalid frame: " ++ fault.message
  | .bufferFull capacity =>
    "channel buffer is full (" ++ toString capacity ++ " bytes) and holds no complete message"
  | .handler text => "handler error: " ++ text
  | .nested inner => "handler error: " ++ inner.message
  | .panic payload => "callback panicked: " ++ payload.message

def source? : Error → Option String
  | .io cause | .accept _ cause => some cause.message
  | .handler text => some text
  | .nested inner => some inner.message
  | _ => none

def inspect : Error → String
  | .config fault => Text.wrapped "Config" (Text.Quoted.quote fault.message)
  | .state fault => Text.wrapped "State" (Text.Quoted.quote fault.message)
  | .io cause => Text.wrapped "Io" cause.inspect
  | .accept address cause =>
    Text.record "Accept" [("local_addr", address.text), ("source", cause.inspect)]
  | .channelClosed => "ChannelClosed"
  | .frame fault => Text.wrapped "Frame" (Text.Quoted.quote fault.message)
  | .bufferFull capacity => Text.record "BufferFull" [("capacity", toString capacity)]
  | .handler text => Text.wrapped "Handler" (Text.Quoted.quote text)
  | .nested inner => Text.wrapped "Handler" inner.inspect
  | .panic payload => Text.wrapped "Panic" (Text.Quoted.quote payload.message)

end Error

end StreamDispatch
