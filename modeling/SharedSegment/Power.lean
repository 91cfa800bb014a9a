/-!
# Powers

Powers of two bound the numbers that words hold and scale binary numbers; powers of ten scale
decimals.
-/

namespace SharedSegment

/-- A power of two: how many numbers a word of so many bits holds. -/
def twoTo (n : Nat) : Nat := Nat.pow 2 n

def tenTo (n : Nat) : Nat := Nat.pow 10 n

theorem twoTo_succ (n : Nat) : twoTo (n + 1) = 2 * twoTo n :=
  Nat.mul_comm _ _

theorem tenTo_succ (n : Nat) : tenTo (n + 1) = 10 * tenTo n :=
  Nat.mul_comm _ _

end SharedSegment
