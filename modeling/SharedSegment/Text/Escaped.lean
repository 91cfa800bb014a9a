import SharedSegment.Text.Escaped.Table

/-!
# Quoted text for diagnostics

A text in a diagnostic stands between double quotes. Quote, backslash, tab, both line ends and NUL
have short escapes; every other character without a visible form is shown by its code point.
-/

namespace SharedSegment.Text.Escaped

/-- Whether a character is shown by its code point. -/
def byNumber (c : Char) : Bool :=
  table.any fun r => r.1 ≤ c.toNat && c.toNat ≤ r.2

/-- A number in lower-case hexadecimal, without leading zeros. -/
def hex (n : Nat) : String :=
  String.ofList (Nat.toDigits 16 n)

/-- The form of one character between the quotes. -/
def escape (c : Char) : String :=
  if c = '"' then "\\\""
  else if c = '\\' then "\\\\"
  else if c = '\t' then "\\t"
  else if c = '\n' then "\\n"
  else if c = '\r' then "\\r"
  else if c = '\x00' then "\\0"
  else if ' ' ≤ c ∧ c ≤ '~' then c.toString
  else if byNumber c then "\\u\x7b" ++ hex c.toNat ++ "\x7d"
  else c.toString

def quoted (s : String) : String :=
  "\"" ++ String.join (s.toList.map escape) ++ "\""

end SharedSegment.Text.Escaped
