/-!
# Blank text

A text is blank when all its characters are white space in the sense of the Unicode property
`White_Space`; the empty text is blank.
-/

namespace SharedSegment.Text

/-- Ranges of the white space characters, in rising order. -/
def whiteSpace : List (Nat × Nat) :=
  [(9, 13), (32, 32), (133, 133), (160, 160), (5760, 5760), (8192, 8202), (8232, 8233),
    (8239, 8239), (8287, 8287), (12288, 12288)]

def isWhiteSpace (c : Char) : Bool :=
  whiteSpace.any fun r => r.1 ≤ c.toNat && c.toNat ≤ r.2

/-- Whether a text holds white space only. -/
def isBlank (s : String) : Bool :=
  s.toList.all isWhiteSpace

end SharedSegment.Text
