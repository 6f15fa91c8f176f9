import Middleware.Toml.Moment
import Middleware.Toml.Number
import Middleware.Toml.Section
import Middleware.Toml.Text

namespace Middleware.Toml

/-!
# Statements of documents

A document is a list of statements: assignments to dotted keys, headers of
tables and headers of tables in a series. Values nest up to a fixed depth, and
dotted keys have up to as many parts.
-/

open Scanner

/-- A dotted key: the path to a table and the last part. -/
structure KeyPath where
  path : List String
  last : String

/-- One statement of a document. -/
inductive Statement where
  | assignment (target : KeyPath) (value : Value)
  | tableHeader (target : KeyPath)
  | seriesHeader (target : KeyPath)

/-- How deep arrays and inline tables nest, and how many parts a dotted key has, at most. -/
def nestingLimit : Nat :=
  79

/-- Whether a character may occur in a key without quotes. -/
def isBareKeyChar (c : Char) : Bool :=
  c.isAlphanum || c == '-' || c == '_'

/-- One part of a dotted key. -/
def keyPart : Scanner String :=
  String.ofList <$> (quotedText <|> literalText <|> someRun isBareKeyChar)

/-- A dotted key, with blanks around its parts. -/
def keyPath : Scanner KeyPath := do
  let parts ← separated (blanks *> keyPart <* blanks) (char '.')
  match parts.getLast? with
  | some last =>
      if parts.length ≤ nestingLimit then
        return ⟨parts.dropLast, last⟩
      else
        failure
  | none => failure

/-- A truth value. -/
def truth : Scanner Value :=
  (do word ['t', 'r', 'u', 'e']
      return .boolean true) <|>
  (do word ['f', 'a', 'l', 's', 'e']
      return .boolean false)

/-- A value without parts. -/
def scalar : Scanner Value :=
  (.text <$> text) <|> truth <|> moment <|> float <|> integer

/-- An array of values, over several lines if need be. -/
def array (element : Scanner Value) : Scanner Value := do
  let _ ← char '['
  let elements ← attempt do
    let read ← separated (spread *> element <* spread) (char ',')
    let _ ← attempt (char ',')
    return read
  spread
  let _ ← char ']'
  return .array (elements.getD [])

/-- An assignment of a value to a dotted key. -/
def assignment (value : Scanner Value) : Scanner (KeyPath × Value) := do
  let target ← keyPath
  let _ ← char '='
  blanks
  let read ← value
  return (target, read)

/-- A table on one line. -/
def inlineTable (value : Scanner Value) : Scanner Value := do
  let _ ← char '\x7b'
  let read ← attempt (separated (assignment value <* blanks) (char ','))
  blanks
  let _ ← char '\x7d'
  let built :=
    (read.getD []).foldlM
      (fun (table : Section) (target, value) =>
        table.assign target.path target.last value)
      Section.written
  match built with
  | some table => return .table table.toEntries
  | none => failure

/-- A value in which arrays and inline tables nest up to a depth. -/
def value : Nat → Scanner Value
  | 0 => scalar
  | depth + 1 => array (value depth) <|> inlineTable (value depth) <|> scalar

/-- The header of a table in a series. -/
def seriesHeader : Scanner Statement := do
  word ['[', '[']
  let target ← keyPath
  word [']', ']']
  return .seriesHeader target

/-- The header of a table. -/
def tableHeader : Scanner Statement := do
  word ['[']
  let target ← keyPath
  word [']']
  return .tableHeader target

/-- The assignment of a line. -/
def assignmentStatement : Scanner Statement := do
  let (target, read) ← assignment (value nestingLimit)
  return .assignment target read

/-- A line: a statement, a comment or nothing. -/
def line : Scanner (Option Statement) :=
  (do let statement ← seriesHeader <|> tableHeader <|> assignmentStatement
      restOfLine
      return some statement) <|>
  (do comment
      lineEndOrFinish
      return none) <|>
  (do lineEnd
      return none)

/-- The statements of a document, after an optional byte order mark. -/
def statements : Scanner (List Statement) := do
  let _ ← attempt (char '\uFEFF')
  blanks
  let lines ← many (line <* blanks)
  finish
  return lines.filterMap id

end Middleware.Toml
