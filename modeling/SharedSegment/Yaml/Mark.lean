/-!
# Positions in a text

A mark counts characters, lines and columns from zero. In messages lines and columns count from
one; the start of the text, which most messages leave out, is a position.
-/

namespace SharedSegment.Yaml

/-- A position in a text. -/
structure Mark where
  index : Nat
  line : Nat
  column : Nat
deriving DecidableEq

namespace Mark

def zero : Mark := ⟨0, 0, 0⟩

/-- Whether a mark stands at the first column of the first line. -/
def isOrigin (m : Mark) : Bool :=
  m.line == 0 && m.column == 0

/-- The mark some characters further on the same line. -/
def forward (m : Mark) (n : Nat) : Mark :=
  ⟨m.index + n, m.line, m.column + n⟩

/-- The mark at the start of the next line, behind a break of some characters. -/
def nextLine (m : Mark) (n : Nat) : Mark :=
  ⟨m.index + n, m.line + 1, 0⟩

def text (m : Mark) : String :=
  if m.isOrigin then "position " ++ toString m.index
  else "line " ++ toString (m.line + 1) ++ " column " ++ toString (m.column + 1)

end Mark
end SharedSegment.Yaml
