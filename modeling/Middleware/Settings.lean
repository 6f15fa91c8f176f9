import Middleware.Dictionary
import Middleware.Failure

namespace Middleware

/-!
# Settings

Which middlewares are active, and in which order, is set by two tables: a base
table, and a user table laid over it. A directive gives a middleware its
order or switches it off; there is no order in merely switching one on, so that
is refused.

`Settings.activeNames` lists the active middlewares by ascending order, and by
name where orders are equal.
-/

/-- What a table says about a middleware. -/
inductive Directive where
  | order (order : Int)
  | switch (on : Bool)
deriving DecidableEq, Repr

/-- The base table and the user table laid over it. -/
structure Settings where
  base : Dictionary Directive
  user : Dictionary Directive
deriving DecidableEq

/-- An active middleware with its order. -/
structure Placement where
  order : Int
  name : String
deriving DecidableEq, Repr

/-- Whether one placement comes before another, or is the same: by order, then by name. -/
def Placement.precedes (left right : Placement) : Bool :=
  left.order < right.order ||
    (left.order == right.order && decide (left.name ≤ right.name))

namespace Settings

/-- The directives in force. -/
def effective (settings : Settings) : Dictionary Directive :=
  settings.user.overlay settings.base

/-- The placements that directives stand for, up to the first one that gives no order. -/
def placements :
    List (String × Directive) →
    Except Failure (List Placement)
  | [] => .ok []
  | (name, .order order) :: rest => do
      let later ← placements rest
      return ⟨order, name⟩ :: later
  | (_, .switch false) :: rest => placements rest
  | (name, .switch true) :: _ => .error (.configuration (.missingOrder name))

/-- The names of the active middlewares, by order and then by name. -/
def activeNames (settings : Settings) : Except Failure (List String) := do
  let placed ← placements settings.effective.entries
  return (placed.mergeSort Placement.precedes).map (·.name)

end Settings

end Middleware
