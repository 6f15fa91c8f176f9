import Middleware.Toml.Digits
import Middleware.Toml.Layout

namespace Middleware.Toml

/-!
# Texts in documents

A text stands between quotes, in which escapes are resolved, or between
apostrophes, in which they are not. Three quotes or three apostrophes enclose a
text of several lines: a line end at its start is dropped, every line end in it
counts as a plain one, and up to two quotes may stand before the closing ones.
-/

open Scanner

/-- The quote that encloses texts with escapes. -/
def quote : Char :=
  '\x22'

/-- The apostrophe that encloses texts without escapes. -/
def apostrophe : Char :=
  '\x27'

/-- Whether a character stands for itself between quotes. -/
def isPlainInQuotes (c : Char) : Bool :=
  isCommentChar c && c != quote && c != '\\'

/-- Whether a character may stand between apostrophes. -/
def isPlainInApostrophes (c : Char) : Bool :=
  isCommentChar c && c != apostrophe

/-- The number that a given count of hexadecimal digits adds to an earlier one. -/
def hexNumber (earlier : Nat) : Nat → Scanner Nat
  | 0 => pure earlier
  | count + 1 => do
      let digit ← next hexadecimal.isDigit
      hexNumber (earlier * 16 + digitValue digit) count

/-- A character by its code point, which must not be a surrogate. -/
def codePoint (count : Nat) : Scanner Char := do
  let code ← hexNumber 0 count
  if valid : code.isValidChar then
    return Char.ofNatAux code valid
  else
    failure

/-- What follows the backslash of an escape. -/
def escapeBody : Scanner Char := do
  let mark ← next fun _ => true
  match mark with
  | 'b' => return '\x08'
  | 't' => return '\t'
  | 'n' => return '\n'
  | 'f' => return '\x0c'
  | 'r' => return '\r'
  | '\x22' => return quote
  | '\\' => return '\\'
  | 'u' => codePoint 4
  | 'U' => codePoint 8
  | _ => failure

/-- An escaped character. -/
def escape : Scanner Char :=
  char '\\' *> escapeBody

/-- A text between quotes on one line. -/
def quotedText : Scanner (List Char) := do
  let _ ← char quote
  let content ← many (next isPlainInQuotes <|> escape)
  let _ ← char quote
  return content

/-- A text between apostrophes on one line. -/
def literalText : Scanner (List Char) := do
  let _ ← char apostrophe
  let content ← run isPlainInApostrophes
  let _ ← char apostrophe
  return content

/-- A line end within a text. -/
def textLineEnd : Scanner (List Char) := do
  lineEnd
  return ['\n']

/-- A backslash at a line end, which joins lines up to the next visible character. -/
def lineJoin : Scanner (List Char) := do
  let _ ← char '\\'
  blanks
  lineEnd
  let _ ← many (lineEnd <|> (do let _ ← someRun isBlank))
  return []

/-- A piece of a text of several lines between quotes. -/
def quotedPiece : Scanner (List Char) :=
  someRun isPlainInQuotes <|> lineJoin <|> (do let c ← escape; return [c]) <|> textLineEnd

/-- A piece of a text of several lines between apostrophes. -/
def literalPiece : Scanner (List Char) :=
  someRun isPlainInApostrophes <|> textLineEnd

/-- Two marks or one, as long as what must follow them does. -/
def marksBefore
    {α : Type}
    (mark : Char)
    (following : Scanner α) :
    Scanner (List Char) :=
  (do word [mark, mark]
      let _ ← ahead following
      return [mark, mark]) <|>
  (do word [mark]
      let _ ← ahead following
      return [mark])

/-- A text of several lines, enclosed in three marks, made up of pieces. -/
def linesText
    (mark : Char)
    (piece : Scanner (List Char)) :
    Scanner (List Char) := do
  let enclosure := word [mark, mark, mark]
  enclosure
  let _ ← attempt lineEnd
  let start ← many piece
  let middle ← many do
    let marks ← marksBefore mark piece
    let pieces ← oneOrMore piece
    return marks ++ pieces.flatten
  let last ← attempt (marksBefore mark enclosure)
  enclosure
  return start.flatten ++ middle.flatten ++ last.getD []

/-- A text in any of its four forms. -/
def text : Scanner String :=
  String.ofList <$>
    (linesText quote quotedPiece <|> quotedText <|>
      linesText apostrophe literalPiece <|> literalText)

end Middleware.Toml
