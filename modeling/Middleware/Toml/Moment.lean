import Middleware.Toml.Digits
import Middleware.Toml.Scanner
import Middleware.Toml.Value

namespace Middleware.Toml

/-!
# Moments in documents

A moment is a date, a time of day, or both with an optional offset. Days must
exist in their month; a minute may have a sixty-first second.
-/

open Scanner

/-- A number of a given count of digits within bounds. -/
def field
    (count least greatest : Nat) :
    Scanner Nat := do
  let read ← readDigits count
  let number := numberOfDigits 10 read
  if least ≤ number && number ≤ greatest then return number else failure
where
  /-- A given count of digits. -/
  readDigits : Nat → Scanner (List Char)
    | 0 => pure []
    | count + 1 => do
        let first ← next Char.isDigit
        let rest ← readDigits count
        return first :: rest

/-- Whether a year has a leap day. -/
def isLeapYear (year : Nat) : Bool :=
  year % 4 == 0 && (year % 100 != 0 || year % 400 == 0)

/-- The number of days in a month. -/
def daysInMonth (year month : Nat) : Nat :=
  if month == 2 then
    if isLeapYear year then 29 else 28
  else if [4, 6, 9, 11].contains month then 30
  else 31

/-- A date. -/
def date : Scanner Unit := do
  let year ← field 4 0 9999
  let _ ← char '-'
  let month ← field 2 1 12
  let _ ← char '-'
  let _ ← field 2 1 (daysInMonth year month)

/-- A time of day, with an optional fraction of a second. -/
def timeOfDay : Scanner Unit := do
  let _ ← field 2 0 23
  let _ ← char ':'
  let _ ← field 2 0 59
  let _ ← char ':'
  let _ ← field 2 0 60
  let _ ← attempt (char '.' *> someRun Char.isDigit)

/-- An offset from universal time. -/
def offset : Scanner Unit :=
  (do let _ ← char 'Z' <|> char 'z') <|>
  (do let _ ← char '+' <|> char '-'
      let _ ← field 2 0 23
      let _ ← char ':'
      let _ ← field 2 0 59)

/-- What may follow a date: a time of day with an optional offset. -/
def timeAfterDate : Scanner Unit := do
  let _ ← char 'T' <|> char 't' <|> char ' '
  timeOfDay
  let _ ← attempt offset

/-- A moment, kept as it is written. -/
def moment : Scanner Value := do
  let read ←
    written ((do date; let _ ← attempt timeAfterDate) <|> timeOfDay)
  return .moment (String.ofList read)

end Middleware.Toml
