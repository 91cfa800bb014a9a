import SharedSegment.Yaml.Event
import SharedSegment.Yaml.Token.Stream

/-!
# From tokens to events

The grammar of documents: each rule takes tokens off the stream and adds events. Where a rule fails,
the events before the failure stand. A rule calls others with less fuel; every call takes a token or
ends the node, so that the fuel of `Grammar.document`, ten for each character, never runs out.
-/

namespace SharedSegment.Yaml

/-- What the grammar works on. -/
structure Grammar.State where
  tokens : TokenStream
  /-- The meaning of tag handles. -/
  handles : List (String × Tag)
  /-- The events so far, last first. -/
  events : List Event
  /-- The numbers of the anchors so far. -/
  anchors : List (String × Nat)

/-- A rule of the grammar: it may fail, and keeps what it has done until then. -/
abbrev Grammar := ExceptT Break (StateM Grammar.State)

namespace Grammar

def standardHandles : List (String × Tag) :=
  [("!", [0x21]), ("!!", "tag:yaml.org,2002:".toUTF8.toList)]

/-- A failure of the grammar within something. -/
def failWithin {α : Type} (what : String) (start : Mark) (sentence : String) (m : Mark) :
    Grammar α :=
  throw (.problem (.within what start sentence m))

def peek : Grammar Token := do
  let s ← get
  match s.tokens.peek with
  | .ok (t, ts) =>
    set { s with tokens := ts }
    return t
  | .error p => throw (.problem p)

def drop : Grammar Unit :=
  modify fun s => { s with tokens := s.tokens.drop }

def emit (e : Event) : Grammar Unit :=
  modify fun s => { s with events := e :: s.events }

def emitEmpty (m : Mark) : Grammar Unit :=
  emit (.scalar m none .empty)

/-- Gives the next number to an anchor, if there is one. A name that is used again loses its old
number. -/
def register : Option String → Grammar (Option Nat)
  | none => return none
  | some name => do
    let s ← get
    let n := s.anchors.length
    set { s with anchors := (name, n) :: s.anchors.filter fun a => a.1 != name }
    return some n

def emitAlias (name : String) (m : Mark) : Grammar Unit := do
  match (← get).anchors.lookup name with
  | some n => emit (.alias m n)
  | none => throw (.unknownAnchor m)

/-- Anchor and tag in front of a node. -/
structure Properties where
  anchor : Option String
  tag : Option (String × Tag × Mark)
  start : Mark

/-- Anchor and tag in front of a node, in either order. -/
def properties : Grammar Properties := do
  let t ← peek
  match t.kind with
  | .anchor a =>
    drop
    let u ← peek
    match u.kind with
    | .tag h x => drop; return ⟨some a, some (h, x, u.start), t.start⟩
    | _ => return ⟨some a, none, t.start⟩
  | .tag h x =>
    drop
    let u ← peek
    match u.kind with
    | .anchor a => drop; return ⟨some a, some (h, x, t.start), t.start⟩
    | _ => return ⟨none, some (h, x, t.start), t.start⟩
  | _ => return ⟨none, none, t.start⟩

/-- The tag that a handle and a suffix stand for. -/
def resolve (p : Properties) : Grammar (Option Tag) := do
  match p.tag with
  | none => return none
  | some (handle, suffix, m) =>
    if handle.isEmpty then return some suffix
    match (← get).handles.lookup handle with
    | some lead => return some (lead ++ suffix)
    | none => failWithin "while parsing a node" p.start "found undefined tag handle" m

/-- The tag of a scalar: the one that asks for no particular tag is none. -/
def scalarTag (tag : Option Tag) : Option Tag :=
  if tag = some [0x21] then none else tag

/-- Whether a token ends an entry of a block mapping. -/
def endsEntry : Token.Kind → Bool
  | .key | .value | .blockEnd => true
  | _ => false

/-- Whether a token ends an item of a block sequence. -/
def endsItem : Token.Kind → Bool
  | .blockEntry | .blockEnd => true
  | _ => false

/-- Whether a token ends an item of a sequence without indentation of its own. -/
def endsLooseItem (k : Token.Kind) : Bool :=
  k = .blockEntry || endsEntry k

mutual

def node (block loose : Bool) : Nat → Grammar Unit
  | 0 => return ()
  | fuel + 1 => do
    let t ← peek
    match t.kind with
    | .alias name =>
      emitAlias name t.start
      drop
    | _ =>
      let p ← properties
      let tag ← resolve p
      let t ← peek
      match t.kind with
      | .scalar text style =>
        let anchor ← register p.anchor
        emit (.scalar p.start anchor ⟨text, style, scalarTag tag⟩)
        drop
      | .flowSequenceStart =>
        emit (.opens .sequence p.start (← register p.anchor) tag)
        drop
        flowItems true t.start fuel
      | .flowMappingStart =>
        emit (.opens .mapping p.start (← register p.anchor) tag)
        drop
        flowEntries true t.start fuel
      | k =>
        if loose && k = .blockEntry then
          emit (.opens .sequence p.start (← register p.anchor) tag)
          looseItems fuel
        else if block && k = .blockSequenceStart then
          emit (.opens .sequence p.start (← register p.anchor) tag)
          drop
          items t.start fuel
        else if block && k = .blockMappingStart then
          emit (.opens .mapping p.start (← register p.anchor) tag)
          drop
          entries t.start fuel
        else if p.anchor.isSome || tag.isSome then
          emit (.scalar p.start (← register p.anchor) { Scalar.empty with tag })
        else
          failWithin (if block then "while parsing a block node" else "while parsing a flow node")
            p.start "did not find expected node content" t.start

def items (start : Mark) : Nat → Grammar Unit
  | 0 => return ()
  | fuel + 1 => do
    let t ← peek
    match t.kind with
    | .blockEntry =>
      drop
      if endsItem (← peek).kind then emitEmpty t.stop else node true false fuel
      items start fuel
    | .blockEnd =>
      emit .closes
      drop
    | _ =>
      failWithin "while parsing a block collection" start
        "did not find expected '-' indicator" t.start

/-- The items of a sequence that has the indentation of its mapping. -/
def looseItems : Nat → Grammar Unit
  | 0 => return ()
  | fuel + 1 => do
    let t ← peek
    if t.kind = .blockEntry then
      drop
      if endsLooseItem (← peek).kind then emitEmpty t.stop else node true false fuel
      looseItems fuel
    else emit .closes

def entries (start : Mark) : Nat → Grammar Unit
  | 0 => return ()
  | fuel + 1 => do
    let t ← peek
    match t.kind with
    | .key =>
      drop
      if endsEntry (← peek).kind then emitEmpty t.stop else node true true fuel
      let v ← peek
      if v.kind = .value then
        drop
        if endsEntry (← peek).kind then emitEmpty v.stop else node true true fuel
      else emitEmpty v.start
      entries start fuel
    | .blockEnd =>
      emit .closes
      drop
    | _ =>
      failWithin "while parsing a block mapping" start "did not find expected key" t.start

/-- The items of a sequence in brackets. -/
def flowItems (first : Bool) (start : Mark) : Nat → Grammar Unit
  | 0 => return ()
  | fuel + 1 => do
    if (← peek).kind ≠ .flowSequenceEnd then
      if !first then
        let t ← peek
        if t.kind = .flowEntry then drop
        else
          failWithin "while parsing a flow sequence" start
            "did not find expected ',' or ']'" t.start
      let t ← peek
      match t.kind with
      | .key =>
        emit (.opens .mapping t.start none none)
        drop
        flowPair fuel
        flowItems false start fuel
      | .flowSequenceEnd =>
        emit .closes
        drop
      | _ =>
        node false false fuel
        flowItems false start fuel
    else
      emit .closes
      drop

/-- A single entry that stands as an item of a sequence in brackets. Without a key, the token
that follows is passed over. -/
def flowPair : Nat → Grammar Unit
  | 0 => return ()
  | fuel + 1 => do
    let t ← peek
    if t.kind ≠ .value && t.kind ≠ .flowEntry && t.kind ≠ .flowSequenceEnd then
      node false false fuel
    else
      -- An empty key takes the token that ends it along.
      drop
      emitEmpty t.stop
    let v ← peek
    if v.kind = .value then
      drop
      let w ← peek
      if w.kind ≠ .flowEntry && w.kind ≠ .flowSequenceEnd then node false false fuel
      else emitEmpty w.start
    else emitEmpty v.start
    let _ ← peek
    emit .closes

/-- The entries of a mapping in brackets. -/
def flowEntries (first : Bool) (start : Mark) : Nat → Grammar Unit
  | 0 => return ()
  | fuel + 1 => do
    if (← peek).kind ≠ .flowMappingEnd then
      if !first then
        let t ← peek
        if t.kind = .flowEntry then drop
        else
          failWithin "while parsing a flow mapping" start
            "did not find expected ',' or '\x7d'" t.start
      let t ← peek
      match t.kind with
      | .key =>
        drop
        let k ← peek
        if k.kind ≠ .value && k.kind ≠ .flowEntry && k.kind ≠ .flowMappingEnd then
          node false false fuel
        else emitEmpty k.start
        let v ← peek
        if v.kind = .value then
          drop
          let w ← peek
          if w.kind ≠ .flowEntry && w.kind ≠ .flowMappingEnd then node false false fuel
          else emitEmpty w.start
        else emitEmpty v.start
        flowEntries false start fuel
      | .flowMappingEnd =>
        emit .closes
        drop
      | _ =>
        node false false fuel
        emitEmpty (← peek).start
        flowEntries false start fuel
    else
      emit .closes
      drop

end

/-- The directives in front of a document. -/
def directives : Nat → Bool → List (String × Tag) → Grammar (List (String × Tag))
  | 0, _, handles => return handles
  | fuel + 1, versioned, handles => do
    let t ← peek
    match t.kind with
    | .version major minor =>
      if versioned then throw (.problem (.alone "found duplicate %YAML directive" t.start))
      if major ≠ 1 || (minor ≠ 1 && minor ≠ 2) then
        throw (.problem (.alone "found incompatible YAML document" t.start))
      drop
      directives fuel true handles
    | .tagShorthand handle lead =>
      if (handles.lookup handle).isSome then
        throw (.problem (.alone "found duplicate %TAG directive" t.start))
      drop
      directives fuel versioned ((handle, lead) :: handles)
    | _ => return handles

/-- Whether a token begins a document by itself. -/
def isDirective : Token.Kind → Bool
  | .version .. | .tagShorthand .. => true
  | _ => false

/-- Whether a token leaves a document that has begun without content. -/
def leavesEmpty : Token.Kind → Bool
  | .documentStart | .documentEnd | .streamEnd => true
  | k => isDirective k

/-- The first document of a stream, if there is any. -/
def document (fuel : Nat) : Grammar Unit := do
  let t ← peek
  if t.kind = .streamEnd then return ()
  else
    if isDirective t.kind || t.kind = .documentStart then
      let handles ← directives fuel false []
      modify fun s => { s with handles := handles ++ standardHandles }
      let t ← peek
      if t.kind ≠ .documentStart then
        throw (.problem (.alone "did not find expected <document start>" t.start))
      drop
      let t ← peek
      if leavesEmpty t.kind then emitEmpty t.start else node true false fuel
    else node true false fuel
    let t ← peek
    if t.kind = .documentEnd then drop

def isFollowed : Nat → TokenStream → Bool
  | 0, _ => false
  | fuel + 1, s =>
    match s.peek with
    | .ok (t, s) =>
      if t.kind = .documentEnd then isFollowed fuel s.drop else t.kind ≠ .streamEnd
    | .error _ => true

end Grammar
end SharedSegment.Yaml
