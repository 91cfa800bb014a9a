import SharedSegment.Yaml.Token.Block
import SharedSegment.Yaml.Token.Directive
import SharedSegment.Yaml.Token.Plain
import SharedSegment.Yaml.Token.Quoted

/-!
# The stream of tokens

Tokens are read on demand. A scalar, an alias or a bracket may turn out to be the key of a mapping
only when a colon follows on its line; such a candidate holds back the tokens from its own on,
because the token that opens the key, and perhaps the one that opens the mapping, are put in front
of it later. Indentation opens and closes blocks.
-/

namespace SharedSegment.Yaml

/-- A token that may be the beginning of a key. -/
structure Candidate where
  /-- Whether a key is the only thing that can stand here. -/
  required : Bool
  /-- The number of the token in the whole stream. -/
  number : Nat
  mark : Mark

/-- The longest distance between the beginning of a key and its colon. -/
def Candidate.maxDistance : Nat := 1024

/-- What has been read of a text, and what comes next. -/
structure TokenStream where
  cursor : Cursor
  /-- Tokens read but not taken yet. -/
  queue : List Token
  /-- How many tokens were taken. -/
  taken : Nat
  /-- The candidate of the block context and of each open bracket, innermost first. -/
  candidates : List (Option Candidate)
  /-- The column of the current block, minus one outside all blocks. -/
  indent : Int
  /-- The columns of the blocks around it, innermost first. -/
  outer : List Int
  /-- Whether a key may begin here. -/
  keyAllowed : Bool

namespace TokenStream

def ofCursor (c : Cursor) : TokenStream :=
  ⟨c, [], 0, [none], -1, [], true⟩

def inFlow (s : TokenStream) : Bool :=
  s.candidates.length > 1

def column (s : TokenStream) : Int :=
  s.cursor.mark.column

def push (s : TokenStream) (t : Token) : TokenStream :=
  { s with queue := s.queue ++ [t] }

/-- Puts a token in front of the one with the given number. -/
def insert (s : TokenStream) (number : Nat) (t : Token) : TokenStream :=
  let n := number - s.taken
  { s with queue := s.queue.take n ++ t :: s.queue.drop n }

def candidate? (s : TokenStream) : Option Candidate :=
  s.candidates.head?.join

def setCandidate (s : TokenStream) (k : Option Candidate) : TokenStream :=
  { s with candidates := k :: s.candidates.tail }

def missingColon {α : Type} (k : Candidate) (at_ : Mark) : Except Problem α :=
  .error (.within "while scanning a simple key" k.mark "could not find expected ':'" at_)

def dropCandidate (s : TokenStream) : Except Problem TokenStream :=
  match s.candidate? with
  | some k => if k.required then missingColon k s.cursor.mark else .ok (s.setCandidate none)
  | none => .ok s

/-- Makes the next token a candidate, if a key may begin here. -/
def offerCandidate (s : TokenStream) : Except Problem TokenStream := do
  if s.keyAllowed then
    let k : Candidate :=
      { required := !s.inFlow && s.indent == s.column
        number := s.taken + s.queue.length
        mark := s.cursor.mark }
    let s ← s.dropCandidate
    return s.setCandidate (some k)
  else return s

/-- Whether the colon of a candidate would come too late at a mark. -/
def Candidate.isStale (k : Candidate) (m : Mark) : Bool :=
  k.mark.line < m.line || k.mark.index + Candidate.maxDistance < m.index

/-- Gives up a candidate that has become stale. -/
def refresh (m : Mark) : Option Candidate → Except Problem (Option Candidate)
  | some k =>
    if Candidate.isStale k m then
      if k.required then missingColon k m else .ok none
    else .ok (some k)
  | none => .ok none

/-- Gives up all stale candidates, outermost first. -/
def dropStale (s : TokenStream) : Except Problem TokenStream := do
  let ks ← s.candidates.reverse.mapM (refresh s.cursor.mark)
  return { s with candidates := ks.reverse }

/-- Opens a block at a column deeper than the current one. -/
def openBlock (s : TokenStream) (column : Nat) (number : Option Nat) (kind : Token.Kind)
    (m : Mark) : TokenStream :=
  if !s.inFlow && s.indent < column then
    let s := { s with outer := s.indent :: s.outer, indent := column }
    match number with
    | some n => s.insert n ⟨kind, m, m⟩
    | none => s.push ⟨kind, m, m⟩
  else s

/-- Closes the blocks of the given columns that are deeper than a limit. -/
def closeBlocks (limit : Int) : List Int → TokenStream → TokenStream
  | [], s => { s with outer := [] }
  | up :: outer, s =>
    if s.indent > limit then
      let m := s.cursor.mark
      closeBlocks limit outer { s.push ⟨.blockEnd, m, m⟩ with indent := up }
    else { s with outer := up :: outer }

/-- Closes all blocks deeper than a column. Within brackets indentation does not count. -/
def unroll (s : TokenStream) (limit : Int) : TokenStream :=
  if s.inFlow then s else closeBlocks limit s.outer s

/-- Moves over blanks, comments and breaks. Tabs do not count as blanks where a key may begin. -/
def skipToToken : Nat → TokenStream → TokenStream
  | 0, s => s
  | fuel + 1, s =>
    let c := s.cursor
    let c := if c.mark.column == 0 && c.at? '\uFEFF' then c.skip 1 else c
    let tabs := s.inFlow || !s.keyAllowed
    let c := (c.skipWhile fun x => x == ' ' || tabs && x == '\t').skipComment
    if c.atBreak then
      skipToToken fuel { s with cursor := c.skipBreak, keyAllowed := s.keyAllowed || !s.inFlow }
    else { s with cursor := c }

/-- Takes a token made of the next characters. -/
def mark (s : TokenStream) (kind : Token.Kind) (width : Nat) : TokenStream :=
  let c := s.cursor.skip width
  { s.push ⟨kind, s.cursor.mark, c.mark⟩ with cursor := c }

def fetchEnd (s : TokenStream) : Except Problem TokenStream := do
  let m := s.cursor.mark
  let m := if m.column = 0 then m else ⟨m.index, m.line + 1, 0⟩
  let s ← ({ s with cursor := ⟨[], m⟩ }.unroll (-1)).dropCandidate
  return { s with keyAllowed := false }.mark .streamEnd 0

def fetchDirective (s : TokenStream) : Except Problem TokenStream := do
  let s ← (s.unroll (-1)).dropCandidate
  let (t, c) ← Directive.read s.cursor
  return { s.push t with cursor := c, keyAllowed := false }

def fetchMarker (s : TokenStream) (kind : Token.Kind) : Except Problem TokenStream := do
  let s ← (s.unroll (-1)).dropCandidate
  return { s with keyAllowed := false }.mark kind 3

def fetchOpen (s : TokenStream) (kind : Token.Kind) : Except Problem TokenStream := do
  let s ← s.offerCandidate
  return { s with candidates := none :: s.candidates, keyAllowed := true }.mark kind 1

def fetchClose (s : TokenStream) (kind : Token.Kind) : Except Problem TokenStream := do
  let s ← s.dropCandidate
  let candidates := if s.inFlow then s.candidates.tail else s.candidates
  return { s with candidates, keyAllowed := false }.mark kind 1

def fetchComma (s : TokenStream) : Except Problem TokenStream := do
  let s ← s.dropCandidate
  return { s with keyAllowed := true }.mark .flowEntry 1

/-- Opens a block at the cursor, where a new line allows it. -/
def openHere (s : TokenStream) (kind : Token.Kind) (refusal : String) :
    Except Problem TokenStream :=
  if s.inFlow then .ok s
  else if !s.keyAllowed then .error (.alone refusal s.cursor.mark)
  else .ok (s.openBlock s.cursor.mark.column none kind s.cursor.mark)

/-- A dash in front of an entry. -/
def fetchEntry (s : TokenStream) : Except Problem TokenStream := do
  let s ← s.openHere .blockSequenceStart
    "block sequence entries are not allowed in this context"
  let s ← s.dropCandidate
  return { s with keyAllowed := true }.mark .blockEntry 1

/-- A question mark in front of a key. -/
def fetchKey (s : TokenStream) : Except Problem TokenStream := do
  let s ← s.openHere .blockMappingStart "mapping keys are not allowed in this context"
  let s ← s.dropCandidate
  return { s with keyAllowed := !s.inFlow }.mark .key 1

/-- A colon in front of a value. -/
def fetchValue (s : TokenStream) : Except Problem TokenStream :=
  match s.candidate? with
  | some k =>
    -- The key began earlier: its tokens are put in front of what was read since.
    let s := s.insert k.number ⟨.key, k.mark, k.mark⟩
    let s := s.openBlock k.mark.column (some k.number) .blockMappingStart k.mark
    .ok ({ s.setCandidate none with keyAllowed := false }.mark .value 1)
  | none => do
    let s ← s.openHere .blockMappingStart "mapping values are not allowed in this context"
    return { s with keyAllowed := !s.inFlow }.mark .value 1

def fetchAnchor (s : TokenStream) (what : String) (kind : String → Token.Kind) :
    Except Problem TokenStream := do
  let s ← s.offerCandidate
  let (name, c) ← anchorName what s.cursor
  return { s.push ⟨kind name, s.cursor.mark, c.mark⟩ with cursor := c, keyAllowed := false }

def fetchTag (s : TokenStream) : Except Problem TokenStream := do
  let s ← s.offerCandidate
  let ((handle, suffix), c) ← Tag.read s.inFlow s.cursor
  return { s.push ⟨.tag handle suffix, s.cursor.mark, c.mark⟩ with
    cursor := c, keyAllowed := false }

def fetchBlock (s : TokenStream) (folded : Bool) : Except Problem TokenStream := do
  let s ← s.dropCandidate
  let (text, stop, c) ← Block.read folded s.indent s.cursor
  let style := if folded then Style.folded else .literal
  return { s.push ⟨.scalar text style, s.cursor.mark, stop⟩ with cursor := c, keyAllowed := true }

def fetchQuoted (s : TokenStream) (form : Quoted.Form) : Except Problem TokenStream := do
  let s ← s.offerCandidate
  let (text, c) ← Quoted.read form s.cursor
  let style := if form = .single then Style.singleQuoted else .doubleQuoted
  return { s.push ⟨.scalar text style, s.cursor.mark, c.mark⟩ with
    cursor := c, keyAllowed := false }

def fetchPlain (s : TokenStream) : Except Problem TokenStream := do
  let s ← s.offerCandidate
  let (text, broken, stop, c) ← Plain.read s.inFlow (s.indent + 1).toNat s.cursor
  return { s.push ⟨.scalar text .plain, s.cursor.mark, stop⟩ with
    cursor := c, keyAllowed := broken }

def indicators : List Char :=
  "-?:,[]\x7b\x7d#&*!|>'\"%@\x60".toList

/-- Whether a plain scalar begins with a character before another. -/
def beginsPlain (flow : Bool) (c : Char) (next : Option Char) : Bool :=
  !(endsWord (some c) || indicators.contains c)
    || c == '-' && !next.any isBlank
    || !flow && (c == '?' || c == ':') && !endsWord next

/-- Reads the next token, with those that it brings along. -/
def fetch (s : TokenStream) : Except Problem TokenStream := do
  let s ← (skipToToken (s.cursor.rest.length + 1) s).dropStale
  let s := s.unroll s.column
  let c := s.cursor
  let next := c.peekAt 1
  match c.peek with
  | none => s.fetchEnd
  | some x =>
    let structural := s.inFlow || endsWord next
    if c.mark.column == 0 && x == '%' then s.fetchDirective
    else if c.atMarker '-' then s.fetchMarker .documentStart
    else if c.atMarker '.' then s.fetchMarker .documentEnd
    else if x == '[' then s.fetchOpen .flowSequenceStart
    else if x == '\x7b' then s.fetchOpen .flowMappingStart
    else if x == ']' then s.fetchClose .flowSequenceEnd
    else if x == '\x7d' then s.fetchClose .flowMappingEnd
    else if x == ',' then s.fetchComma
    else if x == '-' && endsWord next then s.fetchEntry
    else if x == '?' && structural then s.fetchKey
    else if x == ':' && structural then s.fetchValue
    else if x == '*' then s.fetchAnchor "alias" .alias
    else if x == '&' then s.fetchAnchor "anchor" .anchor
    else if x == '!' then s.fetchTag
    else if x == '|' && !s.inFlow then s.fetchBlock false
    else if x == '>' && !s.inFlow then s.fetchBlock true
    else if x == '\'' then s.fetchQuoted .single
    else if x == '"' then s.fetchQuoted .double
    else if beginsPlain s.inFlow x next then s.fetchPlain
    else
      .error (.within "while scanning for the next token" c.mark
        "found character that cannot start any token" c.mark)

/-- Whether the next token is held back by a candidate. -/
def isHeldBack (s : TokenStream) : Bool :=
  s.candidates.any fun k => k.any fun k => k.number == s.taken

/-- Reads tokens until the next one is certain. -/
def fill : Nat → TokenStream → Except Problem TokenStream
  | 0, s => .ok s
  | fuel + 1, s =>
    if s.queue.isEmpty then do
      let s ← s.fetch
      fill fuel s
    else do
      let s ← s.dropStale
      -- The colon that would make this token a key may still come.
      if s.isHeldBack then
        let s ← s.fetch
        fill fuel s
      else return s

/-- The next token, which stays in the stream. -/
def peek (s : TokenStream) : Except Problem (Token × TokenStream) := do
  let s ← fill (s.cursor.rest.length + 2) s
  match s.queue with
  | t :: _ => return (t, s)
  | [] => return (⟨.streamEnd, s.cursor.mark, s.cursor.mark⟩, s)

def drop (s : TokenStream) : TokenStream :=
  { s with queue := s.queue.tail, taken := s.taken + 1 }

end TokenStream
end SharedSegment.Yaml
