import StreamDispatch.Address.Ip
import StreamDispatch.Word

/-!
Socket addresses: an internet address and a port. A version 6 address stands in brackets, with its
scope after a percent sign if it has one.
-/
namespace StreamDispatch

structure SocketAddress where
  ip : IpAddress
  port : Nat
  scope : Nat := 0
  deriving DecidableEq

namespace SocketAddress

private def portBelow? (text : List Char) : Option Nat :=
  (Text.numeral? 10 text).filter (· < 65536)

/-- The part up to the last occurrence of `mark`, and the part after it. -/
def splitLast (mark : Char) (text : List Char) : Option (List Char × List Char) :=
  match (Text.fields mark text).reverse with
  | last :: previous :: more => some (Text.join mark (previous :: more).reverse, last)
  | _ => none

/-- `address` or `address%scope`, of version 6. -/
private def scoped? (text : List Char) : Option (IpAddress × Nat) :=
  match Text.fields '%' text with
  | [address] => (IpAddress.v6? address).map (·, 0)
  | [address, scope] =>
    match IpAddress.v6? address, (Text.numeral? 10 scope).filter (· < Word.shortBound) with
    | some ip, some number => some (ip, number)
    | _, _ => none
  | _ => none

def parse? (text : List Char) : Option SocketAddress :=
  match splitLast ':' text with
  | none => none
  | some (address, port) =>
    match portBelow? port, address.head?, address.getLast? with
    | some number, some '[', some ']' =>
      (scoped? (address.drop 1).dropLast).map fun (ip, scope) => ⟨ip, number, scope⟩
    | some number, _, _ => (IpAddress.v4? address).map fun ip => ⟨ip, number, 0⟩
    | none, _, _ => none

def text (address : SocketAddress) : String :=
  match address.ip with
  | .v4 .. => address.ip.text ++ ":" ++ toString address.port
  | .v6 .. =>
    let scope := if address.scope = 0 then "" else "%" ++ toString address.scope
    "[" ++ address.ip.text ++ scope ++ "]:" ++ toString address.port

example : (parse? "[2001:db8::ff00:42:8329]:443".toList).map text =
    some "[2001:db8::ff00:42:8329]:443" := by decide +kernel
example : (parse? "0.0.0.0:0".toList).map text = some "0.0.0.0:0" := by decide +kernel

end SocketAddress

end StreamDispatch
