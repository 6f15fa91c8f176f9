import Middleware.Dictionary

namespace Middleware

/-!
# Contexts

A context says on whose behalf a download runs. Only hooks that declare one
are given it.
-/

/-- The acting party of a download, with attributes of its own. -/
structure Context where
  actor : String
  attributes : Dictionary String
deriving DecidableEq

namespace Context

/-- The context of an actor, without attributes. -/
def ofActor (actor : String) : Context :=
  ⟨actor, .empty⟩

/-- The context that holds where none was chosen. -/
def default : Context :=
  ofActor "default"

instance : Inhabited Context :=
  ⟨default⟩

/-- Set an attribute, in place of an earlier one of the same key. -/
def setAttribute
    (context : Context)
    (key value : String) :
    Context :=
  { context with attributes := context.attributes.insert key value }

/-- The attribute of a key. -/
def attribute?
    (context : Context)
    (key : String) :
    Option String :=
  context.attributes.get? key

end Context

end Middleware
