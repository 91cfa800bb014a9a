import SharedSegment.Text.Escaped

/-!
# Diagnostic forms

How values look in a diagnostic: texts are quoted, a record shows its head and its named fields,
and a value that wraps another shows it in parentheses.
-/

namespace SharedSegment.Diagnostic

def text (s : String) : String :=
  Text.Escaped.quoted s

/-- A head and named fields, whose values are rendered already. -/
def record (head : String) (fields : List (String × String)) : String :=
  head ++ " \x7b " ++ ", ".intercalate (fields.map fun f => f.1 ++ ": " ++ f.2) ++ " \x7d"

/-- A head and the value it wraps. -/
def wrapped (head inner : String) : String :=
  head ++ "(" ++ inner ++ ")"

end SharedSegment.Diagnostic
