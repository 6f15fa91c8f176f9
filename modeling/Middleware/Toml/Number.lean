import Middleware.Toml.Digits
import Middleware.Toml.Scanner
import Middleware.Toml.Value

namespace Middleware.Toml

/-!
# Numbers in documents

Integers are decimal with an optional sign and no leading zeros, or
hexadecimal, octal or binary without a sign; they fit in 64 bits with sign.
Underscores may stand between digits. A float has a fraction or an exponent or
both; one that is too large to be finite is refused unless it is negative.
-/

open Scanner

/-- More digits, each after an optional underscore. -/
def moreDigits (radix : Radix) : Scanner (List Char) :=
  many (next radix.isDigit <|> (char '_' *> next radix.isDigit))

/-- One or more digits with single underscores between them. -/
def digits (radix : Radix) : Scanner (List Char) := do
  let first ← next radix.isDigit
  let rest ← moreDigits radix
  return first :: rest

/-- An optional sign: whether the number is negative. -/
def sign : Scanner Bool := do
  let read ← attempt (char '+' <|> char '-')
  return read == some '-'

/-- Decimal digits without leading zeros. -/
def plainDigits : Scanner (List Char) := do
  let first ← next Char.isDigit
  if first == '0' then
    return ['0']
  else
    let rest ← moreDigits decimal
    return first :: rest

/-- The least and the largest integer of 64 bits with sign. -/
def integerBounds : Int × Int :=
  (-9223372036854775808, 9223372036854775807)

/-- Whether an integer fits in 64 bits with sign. -/
def fits (number : Int) : Bool :=
  integerBounds.1 ≤ number && number ≤ integerBounds.2

/-- An integer that a letter after a zero marks as one of a base. -/
def marked (mark : Char) (radix : Radix) : Scanner Int := do
  word ['0', mark]
  let read ← digits radix
  return (numberOfDigits radix.base read : Int)

/-- A decimal integer. -/
def decimalInteger : Scanner Int := do
  let negative ← sign
  let read ← plainDigits
  let number : Int := numberOfDigits 10 read
  return if negative then -number else number

/-- An integer. -/
def integer : Scanner Value :=
  .integer <$>
    passing
      (marked 'x' hexadecimal <|> marked 'o' octal <|> marked 'b' binary <|>
        decimalInteger)
      fits

/-- The fraction of a float: its digits. -/
def fraction : Scanner (List Char) :=
  char '.' *> digits decimal

/-- The exponent of a float. -/
def exponent : Scanner Int := do
  let _ ← char 'e' <|> char 'E'
  let negative ← sign
  let read ← digits decimal
  let number : Int := numberOfDigits 10 read
  return if negative then -number else number

/-- The fraction digits and the exponent of a float, at least one of which is written. -/
def fractionAndExponent : Scanner (List Char × Int) :=
  (do let power ← exponent
      return ([], power)) <|>
  (do let places ← fraction
      let power ← attempt exponent
      return (places, power.getD 0))

/-- The least number that is rounded to infinity when written as a double. -/
def overflowLimit : Nat :=
  Nat.pow 2 1024 - Nat.pow 2 970

/-- Whether digits times a power of ten are too large for a finite double. -/
def overflows (digits : List Char) (power : Int) : Bool :=
  let significant := digits.dropWhile (· == '0')
  let magnitude := significant.length + power
  if significant.isEmpty || magnitude < 300 then
    false
  else if 320 < magnitude then
    true
  else
    let number := numberOfDigits 10 significant
    if 0 ≤ power then
      overflowLimit ≤ number * Nat.pow 10 power.toNat
    else
      overflowLimit * Nat.pow 10 (-power).toNat ≤ number

/-- A float in digits. -/
def digitFloat : Scanner Unit := do
  let negative ← sign
  let whole ← plainDigits
  let (places, power) ← fractionAndExponent
  if !negative && overflows (whole ++ places) (power - places.length) then
    failure

/-- A float that is infinite or no number. -/
def namedFloat : Scanner Unit := do
  let _ ← sign
  word ['i', 'n', 'f'] <|> word ['n', 'a', 'n']

/-- A float, kept as it is written. -/
def float : Scanner Value := do
  let read ← written (digitFloat <|> namedFloat)
  return .float (String.ofList read)

end Middleware.Toml
