import StreamDispatch.Framing.Stage
import StreamDispatch.Text.Utf8

/-!
Ready-made stages for handler chains, described by data: cutting, collecting, echoing, converting,
and failing in every way a stage can fail. What a stage does not care about it passes on unchanged.
-/
namespace StreamDispatch

inductive Stage where
  | framing (rule : Framing)
  /-- Notes what it gets and ends the chain. -/
  | collect
  | echo
  /-- Notes how a message is shown. -/
  | peek
  | take (size : Nat)
  | skip (size : Nat)
  | replace (content : Bytes)
  /-- Cuts a frame at each line end. -/
  | lines
  | count
  | text
  /-- Notes a number; anything else is passed on or refused. -/
  | wantNumber (pass : Bool)
  | wantText (pass : Bool)
  | reject (only : Option Bytes) (reason : String)
  | failInput (only : Option Bytes) (reason : String)
  | panic (only : Option Bytes) (payload : Panic)
  | stop (only : Option Bytes)
  /-- Drops the buffer and closes the channel without flushing. -/
  | hangup (only : Option Bytes)
  | close (only : Option Bytes)
  /-- Drops the buffer and sends bytes without flushing. -/
  | answer (content : Bytes)
  | stuck

namespace Stage

variable {σ : Type}

def splitLines : Bytes → List Bytes × Bytes
  | [] => ([], [])
  | byte :: rest =>
    match byte == 10, splitLines rest with
    | true, (pieces, last) => ([] :: pieces, last)
    | false, ([], last) => ([], byte :: last)
    | false, (piece :: pieces, last) => ((byte :: piece) :: pieces, last)

def onBytes (work : Bytes → Bytes × Next) : Handler σ where
  onBuffer := do
    let (left, next) := work (← Handler.bytes)
    Handler.leave left
    return .ok next
  onItem := Handler.passItem

def onItems (work : Item → Program σ (Except Error (Option Item))) : Handler σ where
  onBuffer := Handler.passBuffer
  onItem := work

def someFrames : List Bytes → Next
  | [] => .stop
  | frames => .item (.frames frames)

def sendAll : List Bytes → Program σ (Except Error Unit)
  | [] => .done (.ok ())
  | piece :: rest => .act (.send piece) fun result =>
    match result with
    | .ok () => sendAll rest
    | .error error => .done (.error error)

def echoFrames (frames : List Bytes) : Program σ (Except Error Unit) := do
  match ← sendAll frames with
  | .ok () => Program.attempt .flush
  | .error error => return .error error

def echoHandler : Handler σ where
  onBuffer := do return (← echoFrames []).map fun _ => .stop
  onItem item := do return (← echoFrames (item.frames?.getD [])).map fun _ => none

def collectHandler : Handler σ where
  onBuffer := do
    Program.jot (.bytes (← Handler.bytes))
    Handler.leave []
    return .ok .stop
  onItem
    | .frames frames => do
      Program.jot (.frames frames)
      return .ok none
    | .value _ => return .error (.handler "unexpected value")

def peekHandler : Handler σ where
  onBuffer := do
    Program.jot (.seen (Message.buffer (← Handler.bytes)).inspect)
    return .ok .buffer
  onItem item := do
    Program.jot (.seen item.inspect)
    return .ok (some item)

/-- A stage that wants one kind of value, and otherwise passes on or refuses with a text. -/
def wantHandler (pass : Bool) (wanted : Value → Option Note) (refusal : String) : Handler σ where
  onBuffer := do
    let shown := (Message.buffer (← Handler.bytes)).inspect
    return if pass then .ok .buffer else .error (.handler (refusal ++ shown))
  onItem item := do
    match item.value?.bind wanted with
    | some entry => do
      Program.jot entry
      return .ok none
    | none => return if pass then .ok (some item) else .error (.handler (refusal ++ item.inspect))

/-- A stage that acts on every message, or only on frames among which is a given one. -/
def onHit (only : Option Bytes) (buffer : Program (σ × Bytes) (Except Error Next))
    (item : Program σ (Except Error (Option Item))) : Handler σ where
  onBuffer := if only.isNone then buffer else Handler.passBuffer
  onItem message :=
    let hit := match only, message with
      | none, _ => true
      | some frame, .frames frames => frames.contains frame
      | some _, .value _ => false
    if hit then item else Handler.passItem message

def failHandler (only : Option Bytes) (error : Error) : Handler σ :=
  onHit only (.done (.error error)) (.done (.error error))

def handler : Stage → Handler σ
  | framing rule => rule.handler
  | collect => collectHandler
  | echo => echoHandler
  | peek => peekHandler
  | take size => onBytes fun bytes =>
    (bytes.drop size, if (bytes.take size).isEmpty then .stop
      else .item (.frames [bytes.take size]))
  | skip size => onBytes fun bytes => (bytes.drop size, .buffer)
  | replace content => onBytes fun _ => (content, .buffer)
  | lines => onBytes fun bytes =>
    let (pieces, last) := splitLines bytes
    (last, someFrames pieces)
  | count => onItems fun item => match item with
    | .frames frames => .done (.ok (some (.value (.number (UInt32.ofNat frames.length)))))
    | .value _ => Handler.passItem item
  | text => onItems fun item => match item with
    | .frames frames =>
      .done (.ok (some (.value (.text (",".intercalate (frames.map Text.Utf8.text))))))
    | .value _ => Handler.passItem item
  | wantNumber pass =>
    wantHandler pass (fun value => value.number?.map Note.number) "not a u32: "
  | wantText pass => wantHandler pass (fun value => value.text?.map Note.text) "not a string: "
  | reject only reason => failHandler only (.handler reason)
  | failInput only reason => failHandler only (.io (.application .invalidData reason))
  | panic only payload => onHit only (.panic payload) (.panic payload)
  | stop only => onHit only (.done (.ok .stop)) (.done (.ok none))
  | hangup only =>
    onHit only
      (do Handler.leave []; Program.ignore .closeNow; return .ok .stop)
      (do Program.ignore .closeNow; return .ok none)
  | close only =>
    onHit only
      (do return (← Program.attempt .close).map fun _ => .stop)
      (do return (← Program.attempt .close).map fun _ => none)
  | answer content =>
    { onBuffer := do
        Handler.leave []
        return (← Program.attempt (.send content)).map fun _ => .stop
      onItem := fun _ => do return (← Program.attempt (.send content)).map fun _ => none }
  | stuck => { onBuffer := .hang, onItem := fun _ => .hang }

end Stage

end StreamDispatch
