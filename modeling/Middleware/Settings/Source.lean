import Middleware.Settings.Document
import Middleware.Toml.Document

namespace Middleware

/-!
# Settings from texts and files
-/

/-- What reading a file gives. -/
inductive FileReading where
  | content (bytes : List UInt8)
  | missing
  | directory
deriving DecidableEq

/--
The settings that a text writes, by a parser that gives the document of each text that is
one.
-/
def Settings.ofTextBy
    (parser : String → Option Toml.Document)
    (text : String) :
    Except Failure Settings :=
  match (parser text).bind Settings.ofDocument? with
  | some settings => .ok settings
  | none => .error (.configuration .malformedDocument)

/-- The settings that a document text writes. -/
def Settings.ofText (text : String) : Except Failure Settings :=
  Settings.ofTextBy Toml.parse? text

/-- The text of a file's content, or the reason why there is none. -/
def FileReading.text : FileReading → Except String String
  | .content bytes =>
      match String.fromUTF8? ⟨bytes.toArray⟩ with
      | some text => .ok text
      | none => .error "stream did not contain valid UTF-8"
  | .missing => .error "No such file or directory (os error 2)"
  | .directory => .error "Is a directory (os error 21)"

/-- The settings that the file at a path writes. -/
def Settings.ofFile
    (path : String)
    (reading : FileReading) :
    Except Failure Settings :=
  match reading.text with
  | .ok text => Settings.ofText text
  | .error reason => .error (.configuration (.unreadable path reason))

end Middleware
