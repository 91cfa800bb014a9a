import SharedSegment.Text.Bounded

/-!
# Segment names

A segment is found under a name: one separator and a stem. Whatever a caller writes, its leading
separators count as one, and what would make the name longer than `Name.maxBytes` bytes is cut off
on a character boundary. Only a raw text with nothing behind its separators, or with a NUL anywhere
behind them, names nothing.
-/

namespace SharedSegment

/-- Why a raw text names no segment. -/
inductive Name.Fault where
  /-- Nothing stands behind the separators. -/
  | empty
  /-- A NUL stands behind the separators. -/
  | nul
deriving DecidableEq

/-- The sentence that tells a caller of a fault. -/
def Name.Fault.reason : Name.Fault → String
  | .empty => "Name cannot be empty"
  | .nul => "Name cannot contain NUL bytes"

/-- The character in front of every name. -/
def Name.separator : Char := '/'

/-- The longest name in bytes, separator included. -/
def Name.maxBytes : Nat := 254

/-- What a stem has to satisfy. -/
structure Name.IsStem (stem : List Char) : Prop where
  ne_nil : stem ≠ []
  head_ne : stem.head? ≠ some Name.separator
  nul_not_mem : '\x00' ∉ stem
  byteLength_le : Text.byteLength stem + 1 ≤ Name.maxBytes

/-- A segment name, kept without its separator. -/
structure Name where
  stem : List Char
  isStem : Name.IsStem stem
deriving DecidableEq

namespace Name

/-- A raw text without its leading separators. -/
def bare (raw : List Char) : List Char :=
  raw.dropWhile (· = separator)

theorem head?_bare_ne (raw : List Char) : (bare raw).head? ≠ some separator := by
  unfold bare
  induction raw with
  | nil => simp
  | cons c cs ih =>
    by_cases h : c = separator
    · simpa [h] using ih
    · simp [h]

theorem utf8Size_le_four (c : Char) : c.utf8Size ≤ 4 := by
  unfold Char.utf8Size
  simp only []
  split
  · omega
  · split
    · omega
    · split <;> omega

/-- Cutting a bare text leaves a stem. -/
theorem isStem_takeBytes {cs : List Char} (ne : cs ≠ []) (head : cs.head? ≠ some separator)
    (nul : '\x00' ∉ cs) : IsStem (Text.takeBytes (maxBytes - 1) cs) := by
  obtain _ | ⟨c, cs⟩ := cs
  · exact absurd rfl ne
  have fits : c.utf8Size ≤ maxBytes - 1 := Nat.le_trans (utf8Size_le_four c) (by decide)
  refine ⟨?_, ?_, fun h => nul (Text.mem_of_mem_takeBytes h), ?_⟩
  · simp [Text.takeBytes, fits]
  · simpa [Text.takeBytes, fits] using head
  · have := Text.byteLength_takeBytes_le (maxBytes - 1) (c :: cs)
    simp only [maxBytes] at this ⊢
    omega

/-- The name that a raw text stands for. -/
def ofRaw (raw : String) : Except Fault Name :=
  if empty : bare raw.toList = [] then .error .empty
  else if nul : '\x00' ∈ bare raw.toList then .error .nul
  else .ok ⟨_, isStem_takeBytes empty (head?_bare_ne _) nul⟩

def chars (n : Name) : List Char :=
  separator :: n.stem

def text (n : Name) : String :=
  String.ofList n.chars

/-- The name without its separator, which is what the store files it under. -/
def file (n : Name) : String :=
  String.ofList n.stem

def byteLength (n : Name) : Nat :=
  Text.byteLength n.chars

theorem byteLength_le (n : Name) : n.byteLength ≤ maxBytes := by
  have h := n.isStem.byteLength_le
  have : separator.utf8Size = 1 := by decide
  simp only [byteLength, chars, Text.byteLength, this]
  omega

/-- A name with some text behind it, the name cut first so that the whole fits. -/
def withSuffix (n : Name) (suffix : String) : String :=
  String.ofList
    (Text.takeBytes (maxBytes - Text.byteLength suffix.toList) n.chars ++ suffix.toList)

end Name
end SharedSegment
