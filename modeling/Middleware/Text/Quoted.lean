import Middleware.Text.Unprintable

namespace Middleware.Text

/-!
# Quoted names

The form in which names and lists of names stand in log lines and in
descriptions: between quotes, with quotes and backslashes escaped, line ends
and tabs by their letters, and every other character without a visible form by
its code point.
-/

/-- A code point in lower-case hexadecimal digits. -/
def hexDigits (code : Nat) : List Char :=
  Nat.toDigits 16 code

/-- The written form of a character between quotes. -/
def escaped (c : Char) : List Char :=
  if c = '\x22' then ['\\', '\x22']
  else if c = '\\' then ['\\', '\\']
  else if c = '\n' then ['\\', 'n']
  else if c = '\r' then ['\\', 'r']
  else if c = '\t' then ['\\', 't']
  else if c = '\x00' then ['\\', '0']
  else if isUnprintable c then
    ['\\', 'u', '\x7b'] ++ hexDigits c.toNat ++ ['\x7d']
  else [c]

/-- A text between quotes. -/
def quoted (text : String) : String :=
  String.ofList (['\x22'] ++ text.toList.flatMap escaped ++ ['\x22'])

/-- A list of texts between brackets, each text quoted. -/
def quotedList (texts : List String) : String :=
  "[" ++ ", ".intercalate (texts.map quoted) ++ "]"

end Middleware.Text
