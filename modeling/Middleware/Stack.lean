import Middleware.Layer
import Middleware.Text.Blank

namespace Middleware

/-!
# Stacks

A stack holds the hooks of an ordered list of layers, one list for each phase.
The request list is in the order of the layers, the other two are in reverse
order: the layer added last sits closest to the transport, so it sees a request
last and the response to it first.
-/

/-- A hook in a stack, under the name of its layer. -/
structure Entry (σ ν ι : Type) where
  middleware : String
  hook : Hook σ ν ι

/-- The hooks of an ordered list of layers, each list in the order of its phase. -/
structure Stack (σ ν : Type) where
  request : List (Entry σ ν Request)
  response : List (Entry σ ν Exchange)
  exception : List (Entry σ ν Incident)

/-- Whether the first hook of a middleware in a list wants the context; absent if there is none. -/
def isContextualIn?
    {σ ν ι : Type}
    (entries : List (Entry σ ν ι))
    (middleware : String) :
    Option Bool :=
  (entries.find? fun entry => entry.middleware == middleware).map
    fun entry => entry.hook.isContextual

namespace Stack

variable {σ ν : Type}

/-- The stack without hooks. -/
def empty : Stack σ ν :=
  ⟨[], [], []⟩

/-- Add a layer: its request hook goes last, its other hooks go first. -/
def add
    (stack : Stack σ ν)
    (layer : Layer σ ν) :
    Stack σ ν where
  request :=
    stack.request ++ (layer.request.map (Entry.mk layer.name)).toList
  response :=
    (layer.response.map (Entry.mk layer.name)).toList ++ stack.response
  exception :=
    (layer.exception.map (Entry.mk layer.name)).toList ++ stack.exception

/-- Add layers in order, where the first of them stands at a given position. -/
def addAll
    (stack : Stack σ ν)
    (position : Nat) :
    List (Layer σ ν) →
    Except Failure (Stack σ ν)
  | [] => .ok stack
  | layer :: rest =>
      if Text.isBlank layer.name then
        .error (.configuration (.unnamedLayer position))
      else
        (stack.add layer).addAll (position + 1) rest

/-- The stack of an ordered list of layers; every layer must have a name. -/
def ofLayers
    (layers : List (Layer σ ν)) :
    Except Failure (Stack σ ν) :=
  empty.addAll 0 layers

/-- The names of the middlewares of a phase, in the order in which their hooks run. -/
def hookNames
    (stack : Stack σ ν) :
    Phase →
    List String
  | .request => stack.request.map (·.middleware)
  | .response => stack.response.map (·.middleware)
  | .exception => stack.exception.map (·.middleware)

/-- Whether a middleware's hook of a phase wants the context; absent if it has no such hook. -/
def isContextual?
    (stack : Stack σ ν)
    (phase : Phase)
    (middleware : String) :
    Option Bool :=
  match phase with
  | .request => isContextualIn? stack.request middleware
  | .response => isContextualIn? stack.response middleware
  | .exception => isContextualIn? stack.exception middleware

/-- Whether a stack has no hooks at all. -/
def isEmpty (stack : Stack σ ν) : Bool :=
  stack.request.isEmpty && stack.response.isEmpty && stack.exception.isEmpty

end Stack

end Middleware
