/-!
The display form of records and of optional values: `Name { a: 1, b: 2 }`, with `..` last when
the record shows only part of what it holds, and `Some(..)` or `None`.
-/
namespace StreamDispatch.Text

private def shown (fields : List (String × String)) : List String :=
  fields.map fun field => field.1 ++ ": " ++ field.2

def record (name : String) (fields : List (String × String)) : String :=
  name ++ " \x7b " ++ String.intercalate ", " (shown fields) ++ " \x7d"

def openRecord (name : String) (fields : List (String × String)) : String :=
  name ++ " \x7b " ++ String.intercalate ", " (shown fields ++ [".."]) ++ " \x7d"

/-- A value wrapped in the name of its variant. -/
def wrapped (name inner : String) : String := name ++ "(" ++ inner ++ ")"

def optional : Option String → String
  | none => "None"
  | some inner => wrapped "Some" inner

def flag (value : Bool) : String := if value then "true" else "false"

end StreamDispatch.Text
