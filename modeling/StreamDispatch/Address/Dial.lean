import StreamDispatch.Host

/-!
Dial strings: a protocol, a host and a port with an exclamation mark between them, such as
`tcp!127.0.0.1!7000`. What follows a third mark is ignored.
-/
namespace StreamDispatch.Dial

/-- Protocol, host and port, not yet looked at. -/
def parts? (text : List Char) : Option (List Char × List Char × List Char) :=
  match Text.fields '!' text with
  | proto :: host :: port :: _ => some (proto, host, port)
  | _ => none

/-- A decimal port number, with one plus sign allowed in front. -/
def port? (text : List Char) : Option Nat := Text.natBelow? 65536 text

/-- Host and port of a `tcp` dial string. -/
def parse (text : List Char) : Except DialFault (List Char × Nat) :=
  match parts? text with
  | none => .error .parts
  | some (proto, host, port) =>
    if proto = ['t', 'c', 'p'] then
      match port? port with
      | some number => .ok (host, number)
      | none => .error (.port (String.ofList port))
    else .error (.protocol (String.ofList proto))

/-- The address to listen on where only literals have one. -/
def resolve (host : List Char) : Except IoError IpAddress := Host.isolated.hostAddress host

end StreamDispatch.Dial
