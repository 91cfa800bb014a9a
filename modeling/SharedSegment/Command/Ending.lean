import SharedSegment.Command.Line
import SharedSegment.Error

/-!
# How a command ends

A command succeeds, complains, or finds that it was misused. `Ending.exitCode` and
`Ending.errorText` are what its caller sees of that. A complaint shows its causes below it,
indented, and numbered where there are several.
-/

namespace SharedSegment.Command

/-- Why a command could not do its work. -/
structure Complaint where
  message : String
  /-- What has led to it, nearest first. -/
  causes : List String
deriving DecidableEq

/-- How a command has ended. -/
inductive Ending where
  | succeeded
  | complained (c : Complaint)
  | misused (u : Usage)
deriving DecidableEq

namespace Complaint

def ofFailure (f : Failure) : Complaint :=
  ⟨f.message, f.causes⟩

/-- A complaint about what a failed opening has made impossible. -/
def ofSegmentError (message : String) (e : SegmentError) : Complaint :=
  ⟨message, e.message :: e.causes⟩

/-- A cause with what stands in front of its first line and of its other lines. -/
def indented (first other cause : String) : String :=
  first ++ ("\n" ++ other).intercalate (cause.splitOn "\n")

def numbered : Nat → List String → List String
  | _, [] => []
  | n, c :: r =>
    let number := toString n
    indented ("".pushn ' ' (5 - number.length) ++ number ++ ": ") "       " c :: numbered (n + 1) r

/-- The causes, each on lines of its own. -/
def causeLines : List String → List String
  | [c] => [indented "    " "    " c]
  | cs => numbered 0 cs

/-- The complaint and its causes as text. -/
def text (c : Complaint) : String :=
  let causes := if c.causes.isEmpty then [] else "" :: "Caused by:" :: causeLines c.causes
  String.join ((("Error: " ++ c.message) :: causes).map (· ++ "\n"))

end Complaint

namespace Ending

/-- The number that a command ends with. -/
def exitCode : Ending → Nat
  | .succeeded => 0
  | .complained _ => 1
  | .misused _ => 2

/-- What a command leaves as errors. Of misuse it is the first line. -/
def errorText : Ending → String
  | .succeeded => ""
  | .complained c => c.text
  | .misused u => String.ofList (u.message.toList.takeWhile (· ≠ '\n'))

end Ending
end SharedSegment.Command
