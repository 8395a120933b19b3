/-!
Unsigned numerals. Only ASCII digits count as digits; any number of leading zeros is allowed.
-/
namespace StreamDispatch.Text

/-- The value of a digit in a base of at most sixteen; letters of both cases count from ten. -/
def digit? (base : Nat) (c : Char) : Option Nat :=
  let value :=
    if '0' ≤ c ∧ c ≤ '9' then c.toNat - '0'.toNat
    else if 'a' ≤ c ∧ c ≤ 'f' then c.toNat - 'a'.toNat + 10
    else if 'A' ≤ c ∧ c ≤ 'F' then c.toNat - 'A'.toNat + 10
    else base
  if value < base then some value else none

/-- Reads digits on top of a value already read. -/
def digits? (base : Nat) : (value : Nat) → List Char → Option Nat
  | value, [] => some value
  | value, c :: rest =>
    match digit? base c with
    | some d => digits? base (value * base + d) rest
    | none => none

def numeral? (base : Nat) : List Char → Option Nat
  | [] => none
  | text => digits? base 0 text

/-- A decimal numeral below a bound, with one plus sign allowed in front. -/
def natBelow? (bound : Nat) (text : List Char) : Option Nat :=
  let unsigned := match text with
    | '+' :: rest => rest
    | other => other
  match numeral? 10 unsigned with
  | some value => if value < bound then some value else none
  | none => none

end StreamDispatch.Text
