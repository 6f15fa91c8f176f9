import Middleware.Settings
import Middleware.Toml.Value

namespace Middleware

/-!
# Settings in a document

The two tables stand in a document under fixed keys. A table that is absent is
empty; all other keys of the document are ignored. A directive is an integer or a
truth value, and a single value of another kind refuses the document.
-/

/-- The key of the base table. -/
def baseTableKey : String :=
  "downloader_middlewares_base"

/-- The key of the user table. -/
def userTableKey : String :=
  "downloader_middlewares"

/-- The directive that a value stands for. -/
def Directive.ofValue? : Toml.Value → Option Directive
  | .integer value => some (.order value)
  | .boolean value => some (.switch value)
  | _ => none

/-- The directives that the entries of a table stand for. -/
def directivesOfEntries? :
    List (String × Toml.Value) →
    Option (List (String × Directive))
  | [] => some []
  | (name, value) :: rest => do
      let directive ← Directive.ofValue? value
      let later ← directivesOfEntries? rest
      return (name, directive) :: later

/-- The table of directives under a key of a document. -/
def directiveTable?
    (document : Toml.Document)
    (key : String) :
    Option (Dictionary Directive) :=
  match Toml.lookup? key document with
  | none => some .empty
  | some (.table entries) => (directivesOfEntries? entries).map .ofList
  | some _ => none

/-- The settings in a document. -/
def Settings.ofDocument? (document : Toml.Document) : Option Settings := do
  let base ← directiveTable? document baseTableKey
  let user ← directiveTable? document userTableKey
  return ⟨base, user⟩

end Middleware
