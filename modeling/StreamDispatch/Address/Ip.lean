import StreamDispatch.Text.Fields
import StreamDispatch.Text.Numeral

/-!
Internet addresses as text. Version 4 is four decimal numbers; version 6 is eight groups of
hexadecimal digits, of which `::` stands for one or more zero groups, and of which the last two may
be written as a version 4 address. The written form is the shortest: the first of the longest runs
of at least two zero groups becomes `::`.
-/
namespace StreamDispatch

/-- An internet address; a version 6 address has eight 16-bit groups. -/
inductive IpAddress where
  | v4 (a b c d : UInt8)
  | v6 (groups : Vector UInt16 8)
  deriving DecidableEq

namespace IpAddress

def unspecified : IpAddress := .v4 0 0 0 0

def localhost : IpAddress := .v4 127 0 0 1

/-! ### Reading -/

/-- One part of a version 4 address: at most three digits, no leading zero, at most 255. -/
def octet? (text : List Char) : Option Nat :=
  if text.length ≤ 3 ∧ (text.head? ≠ some '0' ∨ text.length = 1) then
    (Text.numeral? 10 text).filter (· < 256)
  else none

def octets? (text : List Char) : Option (Nat × Nat × Nat × Nat) :=
  match (Text.fields '.' text).map octet? with
  | [some a, some b, some c, some d] => some (a, b, c, d)
  | _ => none

/-- One group of a version 6 address: one to four hexadecimal digits. -/
def group? (text : List Char) : Option Nat :=
  if text.length ≤ 4 then Text.numeral? 16 text else none

/-- The groups between colons. Only the last part may be a version 4 address. -/
def groups? (lastMayBeV4 : Bool) : List (List Char) → Option (List Nat)
  | [] => some []
  | [part] =>
    match group? part with
    | some value => some [value]
    | none =>
      if lastMayBeV4 then
        (octets? part).map fun (a, b, c, d) => [a * 256 + b, c * 256 + d]
      else none
  | part :: next :: more =>
    match group? part, groups? lastMayBeV4 (next :: more) with
    | some value, some rest => some (value :: rest)
    | _, _ => none

/-- The text before and after the first `::`. -/
def splitGap : List Char → Option (List Char × List Char)
  | ':' :: ':' :: rest => some ([], rest)
  | c :: rest => (splitGap rest).map fun (before, after) => (c :: before, after)
  | [] => none

def side? (lastMayBeV4 : Bool) (text : List Char) : Option (List Nat) :=
  if text.isEmpty then some [] else groups? lastMayBeV4 (Text.fields ':' text)

private def ofGroups (groups : List Nat) : Option IpAddress :=
  let words := groups.map UInt16.ofNat
  if full : words.length = 8 then some (.v6 ⟨words.toArray, by simpa using full⟩) else none

def v6? (text : List Char) : Option IpAddress :=
  match splitGap text with
  | none => (groups? true (Text.fields ':' text)).bind ofGroups
  | some (before, after) =>
    match side? false before, side? true after with
    | some head, some tail =>
      if head.length + tail.length ≤ 7 then
        ofGroups (head ++ List.replicate (8 - head.length - tail.length) 0 ++ tail)
      else none
    | _, _ => none

def v4? (text : List Char) : Option IpAddress :=
  (octets? text).map fun (a, b, c, d) =>
    .v4 (UInt8.ofNat a) (UInt8.ofNat b) (UInt8.ofNat c) (UInt8.ofNat d)

def parse? (text : List Char) : Option IpAddress := v4? text <|> v6? text

/-! ### Writing -/

def dotted (a b c d : UInt8) : String :=
  ".".intercalate [toString a.toNat, toString b.toNat, toString c.toNat, toString d.toNat]

def zeros : List UInt16 → Nat
  | [] => 0
  | group :: rest => if group = 0 then zeros rest + 1 else 0

/-- Place and length of the first of the longest runs of zero groups. -/
def longestGap : (place : Nat) → List UInt16 → Nat × Nat
  | place, [] => (place, 0)
  | place, group :: rest =>
    let here := zeros (group :: rest)
    let later := longestGap (place + 1) rest
    if later.2 ≤ here then (place, here) else later

def hexGroups (groups : List UInt16) : String :=
  ":".intercalate (groups.map fun group => String.ofList (Nat.toDigits 16 group.toNat))

/-- Version 4 addresses inside version 6 keep their dotted form. -/
def v6Text (groups : List UInt16) : String :=
  match groups with
  | [0, 0, 0, 0, 0, 0xFFFF, high, low] =>
    "::ffff:" ++ dotted (high >>> 8).toUInt8 high.toUInt8 (low >>> 8).toUInt8 low.toUInt8
  | _ =>
    let (place, length) := longestGap 0 groups
    if length < 2 then hexGroups groups
    else hexGroups (groups.take place) ++ "::" ++ hexGroups (groups.drop (place + length))

def text : IpAddress → String
  | .v4 a b c d => dotted a b c d
  | .v6 groups => v6Text groups.toList

example : (parse? "2001:db8:0:0:1:0:0:1".toList).map text = some "2001:db8::1:0:0:1" := by
  decide +kernel
example : (parse? "::ffff:1.2.3.4".toList).map text = some "::ffff:1.2.3.4" := by decide +kernel
example : (parse? "::".toList).map text = some "::" := by decide +kernel
example : parse? "1.2.3.04".toList = none := by decide +kernel
example : parse? "1:2:3:4:5:6:7::8".toList = none := by decide +kernel

end IpAddress

end StreamDispatch
