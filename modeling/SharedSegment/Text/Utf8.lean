/-!
# UTF-8

Bytes of a text and back. Reading is strict (`decode`: only well-formed input has an answer) or
lossy (`decodeLossy`: each longest ill-formed run that begins a character, or else each stray byte,
becomes one U+FFFD). Both take one character after the other by `step`, which tells how many bytes
it has read, so that they end with the input.
-/

namespace SharedSegment.Text.Utf8

def encode (cs : List Char) : List UInt8 :=
  cs.flatMap String.utf8EncodeChar

def bytes (s : String) : List UInt8 :=
  encode s.toList

def isContinuation (b : UInt8) : Bool :=
  0x80 ≤ b && b ≤ 0xBF

/-- What stands at the head of some bytes: a character, or a run that begins none. -/
inductive Head where
  /-- A character and the number of bytes after the first that belong to it. -/
  | char (c : Char) (more : Nat)
  /-- An ill-formed run and the number of its bytes after the first. -/
  | bad (more : Nat)

/-- The admitted second bytes after a first byte of three or four. -/
def secondRange (first : UInt8) : UInt8 × UInt8 :=
  if first = 0xE0 then (0xA0, 0xBF)
  else if first = 0xED then (0x80, 0x9F)
  else if first = 0xF0 then (0x90, 0xBF)
  else if first = 0xF4 then (0x80, 0x8F)
  else (0x80, 0xBF)

/-- The six payload bits of a continuation byte. -/
def low6 (b : UInt8) : Nat := b.toNat % 64

/-- Whether a byte may follow a given first byte. -/
def isSecond (first b : UInt8) : Bool :=
  (secondRange first).1 ≤ b && b ≤ (secondRange first).2

/-- What stands at the head of `first :: rest`. -/
def step (first : UInt8) (rest : List UInt8) : Head :=
  if first < 0x80 then .char (Char.ofNat first.toNat) 0
  else if 0xC2 ≤ first && first ≤ 0xDF then
    match rest with
    | b :: _ =>
      if isContinuation b then .char (Char.ofNat (first.toNat % 32 * 64 + low6 b)) 1 else .bad 0
    | [] => .bad 0
  else if 0xE0 ≤ first && first ≤ 0xEF then
    match rest with
    | b :: rest =>
      if isSecond first b then
        match rest with
        | d :: _ =>
          if isContinuation d then
            .char (Char.ofNat ((first.toNat % 16 * 64 + low6 b) * 64 + low6 d)) 2
          else .bad 1
        | [] => .bad 1
      else .bad 0
    | [] => .bad 0
  else if 0xF0 ≤ first && first ≤ 0xF4 then
    match rest with
    | b :: rest =>
      if isSecond first b then
        match rest with
        | d :: rest =>
          if isContinuation d then
            match rest with
            | e :: _ =>
              if isContinuation e then
                .char (Char.ofNat (((first.toNat % 8 * 64 + low6 b) * 64 + low6 d) * 64 + low6 e)) 3
              else .bad 2
            | [] => .bad 2
          else .bad 1
        | [] => .bad 1
      else .bad 0
    | [] => .bad 0
  else .bad 0

/-- The text that some bytes form, if they are well-formed. -/
def decodeChars : List UInt8 → Option (List Char)
  | [] => some []
  | first :: rest =>
    match step first rest with
    | .char c more => (decodeChars (rest.drop more)).map (c :: ·)
    | .bad _ => none
termination_by bs => bs.length
decreasing_by simp only [List.length_drop, List.length_cons]; omega

/-- The text that some bytes form, ill-formed runs replaced. -/
def decodeLossyChars : List UInt8 → List Char
  | [] => []
  | first :: rest =>
    match step first rest with
    | .char c more => c :: decodeLossyChars (rest.drop more)
    | .bad more => '\uFFFD' :: decodeLossyChars (rest.drop more)
termination_by bs => bs.length
decreasing_by all_goals simp only [List.length_drop, List.length_cons]; omega

/-- The text that some bytes form, if they are well-formed. -/
def decode (bs : List UInt8) : Option String :=
  (decodeChars bs).map String.ofList

/-- The text that some bytes form, ill-formed runs replaced. -/
def decodeLossy (bs : List UInt8) : String :=
  String.ofList (decodeLossyChars bs)

end SharedSegment.Text.Utf8
