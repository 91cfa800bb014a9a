import SharedSegment.Yaml.Cursor

/-!
# Gaps between the words of a scalar

Blanks and breaks between two words of a plain or quoted scalar. Within a line the blanks count as
they stand. Across lines a single break becomes a space, of several the first is dropped, and a
separator of lines or paragraphs is always kept.
-/

namespace SharedSegment.Yaml

/-- What stands between two words. -/
structure Gap where
  /-- Blanks before the first break. -/
  blanks : List Char
  /-- The first break. -/
  first : List Char
  /-- The breaks after the first. -/
  more : List Char
  /-- Whether a new line has begun. -/
  broken : Bool

namespace Gap

def none : Gap := ⟨[], [], [], false⟩

/-- A gap that begins behind an escaped break. -/
def escaped : Gap := ⟨[], [], [], true⟩

/-- What a gap contributes to the text. -/
def text (g : Gap) : List Char :=
  if g.broken then
    if g.first.head? = some '\n' then
      if g.more.isEmpty then [' '] else g.more
    else g.first ++ g.more
  else g.blanks

/-- Reads blanks and breaks onto a gap. A tab in the first columns of a line, fewer than
`indent` of them, is refused with its place. -/
def read (indent : Nat) : Nat → Gap → Cursor → Except Mark (Gap × Cursor)
  | 0, g, c => .ok (g, c)
  | fuel + 1, g, c =>
    if c.atBlank then
      if g.broken && c.mark.column < indent && c.at? '\t' then .error c.mark
      else if g.broken then read indent fuel g (c.skip 1)
      else read indent fuel { g with blanks := g.blanks ++ c.peek.toList } (c.skip 1)
    else if c.atBreak then
      if g.broken then
        read indent fuel { g with more := g.more ++ c.takeBreak.1 } c.takeBreak.2
      else read indent fuel ⟨[], c.takeBreak.1, g.more, true⟩ c.takeBreak.2
    else .ok (g, c)

end Gap
end SharedSegment.Yaml
