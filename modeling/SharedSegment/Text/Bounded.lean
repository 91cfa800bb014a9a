/-!
# Text within a number of bytes

Texts are cut where their UTF-8 form would grow beyond a limit, and never inside a character.
`takeBytes n cs` is the longest initial part of `cs` whose UTF-8 form has at most `n` bytes:
`byteLength_takeBytes_le` is the bound, `takeBytes_append_isPrefix` the cut, and
`takeBytes_longest` says that no longer part fits.
-/

namespace SharedSegment.Text

/-- Length of the UTF-8 form in bytes. -/
def byteLength : List Char → Nat
  | [] => 0
  | c :: cs => c.utf8Size + byteLength cs

/-- The longest initial part whose UTF-8 form has at most the given number of bytes. -/
def takeBytes : Nat → List Char → List Char
  | _, [] => []
  | n, c :: cs => if c.utf8Size ≤ n then c :: takeBytes (n - c.utf8Size) cs else []

@[simp] theorem byteLength_append (a b : List Char) :
    byteLength (a ++ b) = byteLength a + byteLength b := by
  induction a with
  | nil => simp [byteLength]
  | cons c cs ih => simp only [List.cons_append, byteLength, ih]; omega

theorem byteLength_takeBytes_le (n : Nat) (cs : List Char) : byteLength (takeBytes n cs) ≤ n := by
  induction cs generalizing n with
  | nil => simp [takeBytes, byteLength]
  | cons c cs ih =>
    simp only [takeBytes]
    split
    · have := ih (n - c.utf8Size)
      simp only [byteLength]; omega
    · simp [byteLength]

/-- A text that fits is not cut. -/
theorem takeBytes_of_le {n : Nat} {cs : List Char} (h : byteLength cs ≤ n) :
    takeBytes n cs = cs := by
  induction cs generalizing n with
  | nil => rfl
  | cons c cs ih =>
    simp only [byteLength] at h
    rw [takeBytes, if_pos (by omega), ih (by omega)]

theorem takeBytes_append_isPrefix (n : Nat) (cs : List Char) :
    ∃ r, takeBytes n cs ++ r = cs := by
  induction cs generalizing n with
  | nil => exact ⟨[], rfl⟩
  | cons c cs ih =>
    simp only [takeBytes]
    split
    · obtain ⟨r, hr⟩ := ih (n - c.utf8Size)
      exact ⟨r, by rw [List.cons_append, hr]⟩
    · exact ⟨c :: cs, rfl⟩

/-- Every initial part that fits is an initial part of the cut one. -/
theorem takeBytes_longest {n : Nat} {p r : List Char} (h : byteLength p ≤ n) :
    ∃ q, takeBytes n (p ++ r) = p ++ q := by
  induction p generalizing n with
  | nil => exact ⟨_, rfl⟩
  | cons c cs ih =>
    simp only [byteLength] at h
    obtain ⟨q, hq⟩ := @ih (n - c.utf8Size) (by omega)
    exact ⟨q, by rw [List.cons_append, takeBytes, if_pos (by omega), hq, List.cons_append]⟩

/-- A character survives the cut only if it was there. -/
theorem mem_of_mem_takeBytes {n : Nat} {cs : List Char} {c : Char} (h : c ∈ takeBytes n cs) :
    c ∈ cs := by
  obtain ⟨r, hr⟩ := takeBytes_append_isPrefix n cs
  rw [← hr]
  exact List.mem_append_left _ h

end SharedSegment.Text
