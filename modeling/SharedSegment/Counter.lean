import SharedSegment.Facade

/-!
# Counters

The first eight bytes of a payload hold a number, lowest byte first. `Counter.increment` adds one to
it under the lock; beyond the greatest number it starts at zero again.
-/

namespace SharedSegment.Counter

def width : Nat := 8

/-- The number in some bytes, lowest first. -/
def ofBytes : List UInt8 → Nat
  | [] => 0
  | b :: r => b.toNat + 256 * ofBytes r

/-- The lowest bytes of a number, lowest first. -/
def toBytes : Nat → Nat → List UInt8
  | 0, _ => []
  | k + 1, n => n.toUInt8 :: toBytes k (n / 256)

/-- Adds one to the counter of a segment, if its lock can be had. -/
def increment (f : Facade) : Program Unit := do
  match ← f.guard with
  | none => return ()
  | some _ =>
    let bs ← f.read 0 width
    let _ ← f.write 0 (toBytes width (ofBytes bs + 1))
    f.unlock

def incrementTimes (f : Facade) : Nat → Program Unit
  | 0 => return ()
  | n + 1 => do
    increment f
    incrementTimes f n

/-- Attaches to a segment, counts, and lets it go. -/
def worker (raw : String) (c : Config) (n : Nat) : Program Unit := do
  let f ← Facade.openWith raw 0 c
  incrementTimes f n
  f.drop

def workers (raw : String) (c : Config) (n : Nat) : Nat → Program Unit
  | 0 => return ()
  | k + 1 => do
    worker raw c n
    workers raw c n k

end SharedSegment.Counter
