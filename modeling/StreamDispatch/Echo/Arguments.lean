import StreamDispatch.Settings
import StreamDispatch.Text.Numeral
import StreamDispatch.Word

/-!
The command line of the echo demonstration: `serve` with an address, `send` with an address and
messages, or `help` with at most one command. The length width and the buffer size can be given
before or after the name of the command; after it counts. No option can be given twice in one place.
-/
namespace StreamDispatch.Echo

/-- Why there is nothing to run. -/
inductive Usage where
  | misuse
  | help
  deriving DecidableEq, Repr

inductive Command where
  | serve (address : String) (backlog : Nat)
  | send (address : String) (messages : List String) (connectTimeout : Duration)
  deriving DecidableEq, Repr

structure Invocation where
  command : Command
  width : Nat
  bufferSize : Nat
  deriving DecidableEq, Repr

inductive Flag where
  | width | bufferSize | backlog | connectTimeout
  deriving DecidableEq, Repr

namespace Flag

def name : Flag → List Char
  | width => "width".toList
  | bufferSize => "buffer-size".toList
  | backlog => "backlog".toList
  | connectTimeout => "connect-timeout".toList

/-- A number between zero and a bound, where zero may have a minus sign. -/
def signedBelow? (bound : Nat) : List Char → Option Nat
  | '-' :: digits => (Text.numeral? 10 digits).filter (· = 0)
  | text => Text.natBelow? bound text

def value? : Flag → List Char → Option Nat
  | backlog, text => signedBelow? Word.shortBound text
  | width, text | bufferSize, text | connectTimeout, text => Text.natBelow? Word.bound text

end Flag

/-- Options with their values, arguments in order, and the option that was read last as long as its
value is not judged. -/
structure Parsed where
  options : List (Flag × Nat) := []
  arguments : List (List Char) := []
  unjudged : Option (Flag × List Char) := none
  deriving Repr

namespace Parsed

def option? (parsed : Parsed) (flag : Flag) : Option Nat := parsed.options.lookup flag

def add (parsed : Parsed) (flag : Flag) (text : List Char) : Except Usage Parsed :=
  match flag.value? text, parsed.option? flag with
  | some value, none => .ok { parsed with options := parsed.options ++ [(flag, value)] }
  | _, _ => .error .misuse

def judge (parsed : Parsed) : Except Usage Parsed :=
  match parsed.unjudged with
  | none => .ok parsed
  | some (flag, text) => { parsed with unjudged := none }.add flag text

end Parsed

/-- The name of a long option and its value after an equals sign. -/
def splitOption (text : List Char) : List Char × Option (List Char) :=
  match text.span (· != '=') with
  | (name, '=' :: value) => (name, some value)
  | (name, _) => (name, none)

def isOption : List Char → Bool
  | '-' :: _ :: _ => true
  | _ => false

/-- Help can be asked for by a long option without a value, and by a short option that may have more
letters after it. -/
def asksForHelp (word : List Char) : Bool :=
  word == "--help".toList || word.take 2 == "-h".toList

/-- Reads options, and arguments up to a limit; stops before the first argument beyond it, and after
two dashes takes every word for an argument. An option without an equals sign takes the next word
for its value, which cannot look like an option itself, and is judged when reading goes on. -/
def scan (known : List Flag) (limit : Option Nat) :
    Parsed → List (List Char) → Except Usage (Parsed × List (List Char))
  | parsed, [] => .ok (parsed, [])
  | parsed, word :: rest =>
    if word = ['-', '-'] then .ok ({ parsed with arguments := parsed.arguments ++ rest }, [])
    else if isOption word then
      match parsed.judge with
      | .error usage => .error usage
      | .ok judged =>
        if asksForHelp word then .error .help
        else if word.take 2 ≠ ['-', '-'] then .error .misuse
        else
          let (name, given) := splitOption (word.drop 2)
          match known.find? (·.name = name), given with
          | none, _ => .error .misuse
          | some flag, some value =>
            match judged.add flag value with
            | .error usage => .error usage
            | .ok next => scan known limit next rest
          | some flag, none =>
            match rest with
            | [] => .error .misuse
            | value :: after =>
              if isOption value then .error .misuse
              else scan known limit { judged with unjudged := some (flag, value) } after
    else if limit.any (· ≤ parsed.arguments.length) then .ok (parsed, word :: rest)
    else
      match parsed.judge with
      | .error usage => .error usage
      | .ok judged => scan known limit { judged with arguments := judged.arguments ++ [word] } rest

/-- The value given after the name of the command, else the one before it, else the default. -/
def choose (inner outer : Parsed) (flag : Flag) (standard : Nat) : Nat :=
  ((inner.option? flag).or (outer.option? flag)).getD standard

def everywhere : List Flag := [.width, .bufferSize]

private def invocation (outer inner : Parsed) (command : Command) : Invocation where
  command
  width := choose inner outer .width 2
  bufferSize := choose inner outer .bufferSize defaultBufferSize

def parseServe (outer : Parsed) (words : List (List Char)) : Except Usage Invocation := do
  let (read, beyond) ← scan (.backlog :: everywhere) (some 1) {} words
  let inner ← read.judge
  match inner.arguments, beyond with
  | [address], [] =>
    let backlog := (inner.option? .backlog).getD defaultBacklog
    return invocation (← outer.judge) inner (.serve (String.ofList address) backlog)
  | _, _ => .error .misuse

def parseSend (outer : Parsed) (words : List (List Char)) : Except Usage Invocation := do
  let (read, _) ← scan (.connectTimeout :: everywhere) none {} words
  let inner ← read.judge
  match inner.arguments with
  | address :: message :: more =>
    let seconds := (inner.option? .connectTimeout).getD 5
    return invocation (← outer.judge) inner (.send (String.ofList address)
      ((message :: more).map String.ofList) (.ofSeconds seconds))
  | _ => .error .misuse

/-- What comes of asking for help in words: help on everything, or on one command. -/
def parseHelp : List (List Char) → Usage
  | [] => .help
  | [name] => if ["serve", "send", "help"].contains (String.ofList name) then .help else .misuse
  | _ :: _ :: _ => .misuse

/-- Reads a command line. The last option before the name of the command is judged after everything
behind the name, so a bad one does not stand in the way of help on the command. -/
def parse (arguments : List String) : Except Usage Invocation := do
  let (outer, beyond) ← scan everywhere (some 0) {} (arguments.map String.toList)
  match outer.arguments, beyond with
  | [], name :: words =>
    match String.ofList name with
    | "serve" => parseServe outer words
    | "send" => parseSend outer words
    | "help" => .error (parseHelp words)
    | _ => .error .misuse
  | _, _ => .error .misuse

end StreamDispatch.Echo
