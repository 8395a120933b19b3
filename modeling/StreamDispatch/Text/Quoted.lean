import StreamDispatch.Text.Visible

/-!
Quoted text: one line between double quotes, with every character that a line cannot show, the
quote and the backslash written as escapes.
-/
namespace StreamDispatch.Text.Quoted

/-- A code point in lower-case hexadecimal without leading zeros. -/
def hexadecimal (value : Nat) : List Char := Nat.toDigits 16 value

def escape (c : Char) : List Char :=
  if c = '\x00' then ['\\', '0']
  else if c = '\t' then ['\\', 't']
  else if c = '\r' then ['\\', 'r']
  else if c = '\n' then ['\\', 'n']
  else if c = '\\' then ['\\', '\\']
  else if c = '"' then ['\\', '"']
  else if Visible.isVisible c then [c]
  else ['\\', 'u', '\x7b'] ++ hexadecimal c.toNat ++ ['\x7d']

def quote (text : String) : String :=
  String.ofList (['"'] ++ text.toList.flatMap escape ++ ['"'])

end StreamDispatch.Text.Quoted
