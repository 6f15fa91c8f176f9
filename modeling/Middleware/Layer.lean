import Middleware.Hook
import Middleware.Text.Quoted

namespace Middleware

/-!
# Layers

A layer is a named middleware: up to one hook for each phase. A layer is built
by naming it and then giving it hooks; a later hook for a phase takes the place
of an earlier one.
-/

/-- A named middleware with up to one hook for each phase. -/
structure Layer (σ ν : Type) where
  name : String
  request : Option (Hook σ ν Request)
  response : Option (Hook σ ν Exchange)
  exception : Option (Hook σ ν Incident)

namespace Layer

variable {σ ν : Type}

/-- A layer without hooks. -/
def named (name : String) : Layer σ ν :=
  ⟨name, none, none, none⟩

/-- Give a layer its hook for the request phase. -/
def withRequestHook
    (layer : Layer σ ν)
    (hook : Hook σ ν Request) :
    Layer σ ν :=
  { layer with request := some hook }

/-- Give a layer its hook for the response phase. -/
def withResponseHook
    (layer : Layer σ ν)
    (hook : Hook σ ν Exchange) :
    Layer σ ν :=
  { layer with response := some hook }

/-- Give a layer its hook for the exception phase. -/
def withExceptionHook
    (layer : Layer σ ν)
    (hook : Hook σ ν Incident) :
    Layer σ ν :=
  { layer with exception := some hook }

/-- The written form of a truth value. -/
def truthText (value : Bool) : String :=
  if value then "true" else "false"

/-- The fields of a layer's description, with their written values. -/
def descriptionFields (layer : Layer σ ν) : List (String × String) :=
  [("name", Text.quoted layer.name),
    ("on_request", truthText layer.request.isSome),
    ("on_response", truthText layer.response.isSome),
    ("on_exception", truthText layer.exception.isSome)]

/-- A description of a layer on one line. -/
def description (layer : Layer σ ν) : String :=
  "Interceptor \x7b " ++
    ", ".intercalate
      (layer.descriptionFields.map fun field => field.1 ++ ": " ++ field.2) ++
    " \x7d"

/-- A description of a layer with one field a line. -/
def longDescription (layer : Layer σ ν) : String :=
  "Interceptor \x7b\n" ++
    String.join
      (layer.descriptionFields.map fun field =>
        "    " ++ field.1 ++ ": " ++ field.2 ++ ",\n") ++
    "\x7d"

end Layer

end Middleware
