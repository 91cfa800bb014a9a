/-!
# Roles

A handle either created its segment or attached to it. The role follows from the requested size:
a positive size asks for creation, zero for attachment.
-/

namespace SharedSegment

/-- The side of a segment that a handle plays. -/
inductive Role where
  /-- Made the segment and takes it away again. -/
  | creator
  /-- Found the segment and only leaves it. -/
  | attacher
deriving DecidableEq

namespace Role

/-- A positive size asks for creation, zero for attachment. -/
def ofSize (size : UInt32) : Role :=
  if size = 0 then .attacher else .creator

def label : Role → String
  | .creator => "creator"
  | .attacher => "attacher"

def diagnostic : Role → String
  | .creator => "Creator"
  | .attacher => "Attacher"

end Role
end SharedSegment
