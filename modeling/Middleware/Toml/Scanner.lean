namespace Middleware.Toml

/-!
# Scanners

A scanner reads a value off the front of a text, or refuses it. Alternatives
start again where the refused one began.
-/

/-- Reads a value off the front of a text and leaves the rest. -/
abbrev Scanner : Type → Type :=
  StateT (List Char) Option

namespace Scanner

variable {α : Type}

/-- One character of a class. -/
def next (accept : Char → Bool) : Scanner Char
  | [] => none
  | c :: rest => if accept c then some (c, rest) else none

/-- One given character. -/
def char (wanted : Char) : Scanner Char :=
  next (· == wanted)

/-- Given characters in order. -/
def word : List Char → Scanner Unit
  | [] => pure ()
  | c :: rest => do
      let _ ← char c
      word rest

/-- The longest run of characters of a class. -/
def run (accept : Char → Bool) : Scanner (List Char) :=
  fun input => some (input.takeWhile accept, input.dropWhile accept)

/-- The longest run of characters of a class, of which there must be one. -/
def someRun (accept : Char → Bool) : Scanner (List Char) := do
  let first ← next accept
  let rest ← run accept
  return first :: rest

/-- What a scanner reads, or nothing where it refuses. -/
def attempt (scanner : Scanner α) : Scanner (Option α) :=
  (some <$> scanner) <|> pure none

/-- Read ahead without moving on. -/
def ahead (scanner : Scanner α) : Scanner α :=
  fun input => (scanner input).map fun read => (read.1, input)

/-- The end of the text. -/
def finish : Scanner Unit
  | [] => some ((), [])
  | _ :: _ => none

/-- Only a value that passes a test. -/
def passing
    (scanner : Scanner α)
    (test : α → Bool) :
    Scanner α := do
  let value ← scanner
  if test value then return value else failure

/-- The text that a scanner reads, as it is written. -/
def written (scanner : Scanner α) : Scanner (List Char) :=
  fun input =>
    (scanner input).map fun read =>
      (input.take (input.length - read.2.length), read.2)

/-- Read with a scanner as often as it reads something. -/
def repeatFrom
    (scanner : Scanner α)
    (input : List Char) :
    List α × List Char :=
  match scanner input with
  | none => ([], input)
  | some (value, rest) =>
      if rest.length < input.length then
        let (values, rest) := repeatFrom scanner rest
        (value :: values, rest)
      else
        ([], input)
termination_by input.length

/-- Any number of readings in a row. -/
def many (scanner : Scanner α) : Scanner (List α) :=
  fun input => some (repeatFrom scanner input)

/-- One or more readings in a row. -/
def oneOrMore (scanner : Scanner α) : Scanner (List α) := do
  let first ← scanner
  let rest ← many scanner
  return first :: rest

/-- One or more readings with a separator between them. -/
def separated
    {β : Type}
    (scanner : Scanner α)
    (separator : Scanner β) :
    Scanner (List α) := do
  let first ← scanner
  let rest ← many (separator *> scanner)
  return first :: rest

end Scanner

end Middleware.Toml
