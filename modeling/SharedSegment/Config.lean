import SharedSegment.Error
import SharedSegment.Flavor
import SharedSegment.Text.Octal

/-!
# Settings of a segment

A segment is opened with three settings: its flavor, whether its pages are pinned, and the
permission bits of a new object. `Config.validate` admits exactly the modes that hold permission
bits only and let the owner read and write.
-/

namespace SharedSegment

/-- The settings that a segment is opened with. -/
structure Config where
  flavor : Flavor
  /-- Whether mapped pages are kept in physical memory. -/
  lockPages : Bool
  /-- Permission bits of a new object. -/
  mode : UInt32
deriving DecidableEq

namespace Config

/-- Permission of the owner to read and write. -/
def ownerReadWrite : UInt32 := 0o600

def permissionBits : UInt32 := 0o777

def standard : Config := ⟨.standard, true, ownerReadWrite⟩

/-- Whether a mode has permission bits only and lets the owner read and write. -/
def IsMode (mode : UInt32) : Prop :=
  mode ≤ permissionBits ∧ mode &&& ownerReadWrite = ownerReadWrite

instance (mode : UInt32) : Decidable (IsMode mode) := by
  unfold IsMode; infer_instance

def modeFault (mode : UInt32) (reason : String) : FieldFault :=
  ⟨"mode", Text.octal mode.toNat, reason⟩

/-- Refuses settings that no segment can be opened with. -/
def validate (c : Config) : Except FieldFault Unit :=
  if permissionBits < c.mode then
    .error (modeFault c.mode "Only permission bits (0o777) are allowed")
  else if c.mode &&& ownerReadWrite ≠ ownerReadWrite then
    .error (modeFault c.mode "Owner must be able to read and write the segment")
  else .ok ()

/-- The admitted settings are those with an admitted mode. -/
theorem validate_eq_ok_iff (c : Config) : c.validate = .ok () ↔ IsMode c.mode := by
  simp only [validate, IsMode]
  split
  · rename_i h
    simp [UInt32.not_le.2 h]
  · rename_i h
    simp [UInt32.not_lt.1 h]

theorem validate_standard : standard.validate = .ok () :=
  (validate_eq_ok_iff _).2 (by decide)

end Config
end SharedSegment
