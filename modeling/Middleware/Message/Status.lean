namespace Middleware

/-!
# Response status codes
-/

/-- A response status: a number of three digits. -/
structure Status where
  code : Nat
  threeDigits : 100 ≤ code ∧ code ≤ 999
deriving DecidableEq

namespace Status

/-- The status of a response without remarks. -/
def ok : Status :=
  ⟨200, by decide⟩

/-- The status with a given code, if it has three digits. -/
def ofNat? (code : Nat) : Option Status :=
  if valid : 100 ≤ code ∧ code ≤ 999 then some ⟨code, valid⟩ else none

end Status

end Middleware
