namespace Middleware.Toml

/-!
# Values of configuration documents
-/

/-- A value of a document. Floats and moments in time are kept as they are written. -/
inductive Value where
  | integer (value : Int)
  | boolean (value : Bool)
  | float (written : String)
  | text (value : String)
  | moment (written : String)
  | array (elements : List Value)
  | table (entries : List (String × Value))

/-- A document: the entries of its root table. -/
abbrev Document : Type :=
  List (String × Value)

/-- The value under a key of a table. -/
def lookup? {α : Type} (key : String) (entries : List (String × α)) : Option α :=
  (entries.find? fun entry => entry.1 == key).map (·.2)

end Middleware.Toml
