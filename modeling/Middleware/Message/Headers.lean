namespace Middleware

/-!
# Message headers

Headers are an ordered list of named values in which a name may occur more
than once. A look-up takes the first field whose name matches, and names match
up to the case of ASCII letters; other letters are compared exactly.
-/

/-- Header fields in the order in which they were added. -/
structure Headers where
  fields : List (String × String)
deriving DecidableEq

namespace Headers

/-- No header fields. -/
def empty : Headers :=
  ⟨[]⟩

/-- A header name with its ASCII letters in lower case. -/
def folded (name : String) : List Char :=
  name.toList.map Char.toLower

/-- Whether two header names are equal up to the case of ASCII letters. -/
def sameName (left right : String) : Bool :=
  folded left == folded right

/-- Add a field after the present ones. -/
def add
    (headers : Headers)
    (name value : String) :
    Headers :=
  ⟨headers.fields ++ [(name, value)]⟩

/-- The value of the first field with a matching name. -/
def get?
    (headers : Headers)
    (name : String) :
    Option String :=
  (headers.fields.find? fun field => sameName field.1 name).map (·.2)

@[simp] theorem fields_add
    (headers : Headers)
    (name value : String) :
    (headers.add name value).fields = headers.fields ++ [(name, value)] :=
  rfl

end Headers

end Middleware
