import SharedSegment.Host.Condition

/-!
# Memory objects

A memory object has a length, bytes, permission bits, and in its first bytes a mutex and a
condition. Bytes outside what was written are zero. The layout of the first bytes is fixed: a size
of four bytes, the mutex, the condition, then the payload.
-/

namespace SharedSegment

namespace Layout

def mutexEnd : Nat := 48

/-- Where the condition ends and the payload begins. -/
def headerSize : Nat := 96

end Layout

/-- A memory object. -/
structure Object where
  length : Nat
  bytes : Nat → UInt8
  mode : UInt32
  mutex : Mutex
  condition : Condition

namespace Object

/-- The bits of a mode that an object keeps. -/
def modeBits : UInt32 := 0o7777

def fresh (mode : UInt32) : Object :=
  ⟨0, fun _ => 0, mode &&& modeBits, .blank, .blank⟩

def read (o : Object) (off len : Nat) : List UInt8 :=
  (List.range len).map fun i => o.bytes (off + i)

/-- The bytes of an object before the first zero, from some place on and up to a number of them. -/
def readText (o : Object) : Nat → Nat → List UInt8
  | _, 0 => []
  | off, n + 1 => if o.bytes off = 0 then [] else o.bytes off :: o.readText (off + 1) n

/-- The first byte that is read, and those behind it. -/
theorem read_succ (o : Object) (off n : Nat) :
    o.read off (n + 1) = o.bytes off :: o.read (off + 1) n := by
  simp [read, List.range_succ_eq_map, Nat.add_comm, Nat.add_left_comm, Function.comp_def]

/-- What stands before the first zero is what is read up to there. -/
theorem readText_eq (o : Object) (off n : Nat) :
    o.readText off n = (o.read off n).takeWhile (· ≠ 0) := by
  induction n generalizing off with
  | zero => rfl
  | succ n ih =>
    by_cases h : o.bytes off = 0
    · simp [readText, read_succ, h]
    · simp [readText, read_succ, h, ih]

/-- An object with some bytes written over. -/
def write (o : Object) (off : Nat) (bs : Array UInt8) : Object :=
  { o with
    bytes := fun i => if off ≤ i ∧ i < off + bs.size then bs.getD (i - off) 0 else o.bytes i }

/-- An object with zeros in a range. -/
def clear (o : Object) (off len : Nat) : Object :=
  { o with bytes := fun i => if off ≤ i ∧ i < off + len then 0 else o.bytes i }

/-- The bytes of a number of four bytes, lowest first. -/
def bytesOf (n : UInt32) : Array UInt8 :=
  #[n.toUInt8, (n >>> 8).toUInt8, (n >>> 16).toUInt8, (n >>> 24).toUInt8]

/-- The number in the first four bytes, lowest first. -/
def sizeField (o : Object) : UInt32 :=
  (o.bytes 0).toUInt32 ||| (o.bytes 1).toUInt32 <<< 8 ||| (o.bytes 2).toUInt32 <<< 16
    ||| (o.bytes 3).toUInt32 <<< 24

/-- An object with a number in the first four bytes. -/
def setSizeField (o : Object) (n : UInt32) : Object :=
  o.write 0 (bytesOf n)

/-- The mode that is left when the length changes: execution in another's name is taken away. -/
def settledMode (mode : UInt32) : UInt32 :=
  let mode := mode &&& ~~~0o4000
  if mode &&& 0o010 ≠ 0 then mode &&& ~~~0o2000 else mode

/-- An object of another length. What is cut off is gone, and what is added is zero. -/
def resize (o : Object) (length : Nat) : Object :=
  let kept := min o.length length
  { length
    bytes := fun i => if i < kept then o.bytes i else 0
    mode := settledMode o.mode
    mutex := if kept < Layout.mutexEnd then .blank else o.mutex
    condition := if kept < Layout.headerSize then .blank else o.condition }

/-- Whether the owner may read an object. -/
def isReadable (o : Object) : Bool :=
  o.mode &&& 0o400 ≠ 0

/-- Whether the owner may write an object. -/
def isWritable (o : Object) : Bool :=
  o.mode &&& 0o200 ≠ 0

def bury (o : Object) (t : ThreadId) : Object :=
  { o with mutex := o.mutex.bury t, condition := o.condition.bury t }

end Object
end SharedSegment
