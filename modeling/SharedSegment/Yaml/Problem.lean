import SharedSegment.Yaml.Mark

/-!
# Why a text is no document

A problem has a sentence and a place, and often the thing that was being read with the place where
that began. A character that may not occur at all is placed by its byte offset alone.
-/

namespace SharedSegment.Yaml

/-- Why a text is no document. -/
structure Problem where
  sentence : String
  mark : Mark
  /-- What was being read, and where that began. -/
  context : Option (String × Mark)
  /-- The byte offset of a character that may not occur. -/
  offset : Nat
deriving DecidableEq

namespace Problem

def within (context : String) (start : Mark) (sentence : String) (mark : Mark) : Problem :=
  ⟨sentence, mark, some (context, start), 0⟩

def alone (sentence : String) (mark : Mark) : Problem :=
  ⟨sentence, mark, none, 0⟩

/-- The place of a problem, where it is worth saying. -/
def place (p : Problem) : String :=
  if !p.mark.isOrigin then " at " ++ p.mark.text
  else if p.offset ≠ 0 then " at position " ++ toString p.offset
  else ""

/-- The place where the thing being read began, where it differs. -/
def contextPlace (p : Problem) (start : Mark) : String :=
  if !start.isOrigin && (start.line ≠ p.mark.line || start.column ≠ p.mark.column) then
    " at " ++ start.text
  else ""

def text (p : Problem) : String :=
  p.sentence ++ p.place ++
    match p.context with
    | some (c, start) => ", " ++ c ++ p.contextPlace start
    | none => ""

end Problem
end SharedSegment.Yaml
