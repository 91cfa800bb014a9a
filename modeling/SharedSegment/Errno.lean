import SharedSegment.Errno.Table

/-!
# Error numbers

A failing call of the host answers with a number. The number has two readings: the symbolic one
(`Errno.text`), used wherever the segment layer speaks of a call, and the host's own message with
the number behind it (`Errno.hostText`), used for files.
-/

namespace SharedSegment

/-- An error number of the host. -/
structure Errno where
  code : Int
deriving DecidableEq

namespace Errno

def eperm : Errno := ⟨1⟩
def enoent : Errno := ⟨2⟩
def eintr : Errno := ⟨4⟩
def eacces : Errno := ⟨13⟩
def ebusy : Errno := ⟨16⟩
def eexist : Errno := ⟨17⟩
def enotdir : Errno := ⟨20⟩
def eisdir : Errno := ⟨21⟩
def einval : Errno := ⟨22⟩
def enametoolong : Errno := ⟨36⟩
def eloop : Errno := ⟨40⟩
def eownerdead : Errno := ⟨130⟩
def enotrecoverable : Errno := ⟨131⟩

/-- The row of a number, if the host knows it. -/
def row? (e : Errno) : Option Row :=
  table.find? fun r => (r.number : Int) == e.code

def symbol (e : Errno) : String :=
  (e.row?.map Row.symbol).getD "UnknownErrno"

def phrase (e : Errno) : String :=
  (e.row?.map Row.phrase).getD "Unknown errno"

/-- Symbol and phrase, as in `ENOENT: No such file or directory`. -/
def text (e : Errno) : String :=
  e.symbol ++ ": " ++ e.phrase

/-- The host's message alone. Zero is success, and an unknown number is named as such. -/
def hostMessage (e : Errno) : String :=
  match e.row? with
  | some r => r.message
  | none => if e.code = 0 then "Success" else "Unknown error " ++ toString e.code

/-- The host's message with the number behind it. -/
def hostText (e : Errno) : String :=
  e.hostMessage ++ " (os error " ++ toString e.code ++ ")"

/-- The name of the category of a number, for diagnostics. -/
def category (e : Errno) : String :=
  (e.row?.bind Row.category).getD "Uncategorized"

end Errno
end SharedSegment
