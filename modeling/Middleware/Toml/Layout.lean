import Middleware.Toml.Scanner

namespace Middleware.Toml

/-!
# Layout of documents

Blanks, line ends and comments.
-/

open Scanner

/-- Whether a character is a blank within a line. -/
def isBlank (c : Char) : Bool :=
  c == ' ' || c == '\t'

/-- Whether a character may occur in a comment: all but the ASCII controls other than the tab. -/
def isCommentChar (c : Char) : Bool :=
  c == '\t' || (0x20 ≤ c.toNat && c.toNat != 0x7F)

/-- Blanks within a line, if any. -/
def blanks : Scanner Unit := do
  let _ ← run isBlank

/-- A line end, with or without a carriage return. -/
def lineEnd : Scanner Unit :=
  word ['\n'] <|> word ['\r', '\n']

/-- A line end or the end of the text. -/
def lineEndOrFinish : Scanner Unit :=
  lineEnd <|> finish

/-- A comment up to the line end. -/
def comment : Scanner Unit := do
  let _ ← char '\x23'
  let _ ← run isCommentChar

/-- What may follow on a line after a statement. -/
def restOfLine : Scanner Unit := do
  blanks
  let _ ← attempt comment
  lineEndOrFinish

/-- Blanks, line ends and comments, if any. -/
def spread : Scanner Unit := do
  let _ ← many ((do let _ ← someRun isBlank) <|> lineEnd <|> comment)

end Middleware.Toml
