namespace Middleware.Toml

/-!
# Digits
-/

/-- A base with the class of its digits. -/
structure Radix where
  base : Nat
  isDigit : Char → Bool

/-- Digits of the base ten. -/
def decimal : Radix :=
  ⟨10, Char.isDigit⟩

/-- Digits of the base sixteen, in upper or lower case. -/
def hexadecimal : Radix :=
  ⟨16, fun c =>
    c.isDigit || ('a' ≤ c && c ≤ 'f') || ('A' ≤ c && c ≤ 'F')⟩

/-- Digits of the base eight. -/
def octal : Radix :=
  ⟨8, fun c => '0' ≤ c && c ≤ '7'⟩

/-- Digits of the base two. -/
def binary : Radix :=
  ⟨2, fun c => c == '0' || c == '1'⟩

/-- The value of a digit in either case. -/
def digitValue (c : Char) : Nat :=
  if c.isDigit then c.toNat - '0'.toNat
  else if 'a' ≤ c then c.toNat - 'a'.toNat + 10
  else c.toNat - 'A'.toNat + 10

/-- The number that digits of a base write. -/
def numberOfDigits (base : Nat) (digits : List Char) : Nat :=
  digits.foldl (fun number c => number * base + digitValue c) 0

end Middleware.Toml
