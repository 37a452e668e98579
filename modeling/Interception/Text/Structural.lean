/-
The structural text of a value, as diagnostics show it.

A value with named parts is written `Name { part: value, other: value }`, a value wrapped in a
constructor `Name(value)`, and a sequence `[first, second]`.
-/

namespace Interception.Text

/-- A sequence of already written values. -/
def listed (items : List String) : String :=
  "[" ++ String.intercalate ", " items ++ "]"

/-- A constructor applied to an already written value. -/
def wrapped (name value : String) : String :=
  name ++ "(" ++ value ++ ")"

/-- A constructor with named parts. -/
def labelled (name : String) (parts : List (String × String)) : String :=
  let body := String.intercalate ", " (parts.map fun part => part.1 ++ ": " ++ part.2)
  name ++ " \x7b " ++ body ++ " \x7d"

/-- The text of a truth value. -/
def truth (b : Bool) : String :=
  if b then "true" else "false"

end Interception.Text
