/-!
# Octal numbers

Permission bits are written in octal behind `0o` in messages, and in plain octal in listings.
-/

namespace SharedSegment.Text

/-- Digits in base eight, without leading zeros. -/
def octalDigits (n : Nat) : String :=
  String.ofList (Nat.toDigits 8 n)

/-- Digits in base eight behind their mark. -/
def octal (n : Nat) : String :=
  "0o" ++ octalDigits n

end SharedSegment.Text
