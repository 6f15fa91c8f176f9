import Middleware.Settings
import Middleware.Stack
import Middleware.Telemetry.Log
import Middleware.Text.Quoted

namespace Middleware

/-!
# Assembling a stack from settings

A catalog knows by name the factories for the layers of an application. Assembly
walks the active names of the settings in order and calls the factory of each: a
name that is not in the catalog ends it, a layer that declines is skipped, and
the others become the layers of the stack.

Factories may share a state `θ`, so what one of them produces may depend on when
it is called.
-/

/-- What the call of a factory comes to. -/
inductive Production (σ ν : Type) where
  | layer (layer : Layer σ ν)
  /-- The layer is not to run under the current configuration. -/
  | declined
  | panicked (message : String)

/-- What produces a layer whenever it is called, on a state of its own and of other factories. -/
abbrev Factory (θ σ ν : Type) : Type :=
  θ → Production σ ν × θ

/-- The factories of an application, each under the name by which settings refer to it. -/
abbrev Catalog (θ σ ν : Type) : Type :=
  Dictionary (Factory θ σ ν)

/-- How an assembly ends: with a stack or a failure, or in the panic of a factory. -/
inductive Assembled (σ ν : Type) where
  | returned (result : Except Failure (Stack σ ν))
  | panicked (message : String)

/--
What an assembly does: the names whose factories it calls, the lines it logs, the
state it leaves to the factories and how it ends.
-/
structure Assembly (θ σ ν : Type) where
  consulted : List String
  lines : List LogLine
  state : θ
  result : Assembled σ ν

/-- The line that a layer which declines is skipped. -/
def skippedLine (name : String) : LogLine where
  level := .info
  message := "middleware not configured, skipping"
  fields := [("middleware", .text name)]

/-- The line that lists the names of the accepted layers. -/
def enabledLine (names : List String) : LogLine where
  level := .info
  message := "enabled downloader middlewares"
  fields := [("middlewares", .text (Text.quotedList names))]

namespace Catalog

variable {θ σ ν : Type}

/-- Build the layers of names in order, after those accepted so far. -/
def assemble
    (catalog : Catalog θ σ ν)
    (accepted : List (String × Layer σ ν))
    (state : θ) :
    List String →
    Assembly θ σ ν
  | [] =>
      ⟨[], [enabledLine (accepted.map (·.1))], state,
        .returned (Stack.ofLayers (accepted.map (·.2)))⟩
  | name :: rest =>
      match catalog.get? name with
      | none =>
          ⟨[], [], state, .returned (.error (.configuration (.unknownMiddleware name)))⟩
      | some factory =>
          let (production, state) := factory state
          match production with
          | .panicked message => ⟨[name], [], state, .panicked message⟩
          | .declined =>
              let later := catalog.assemble accepted state rest
              { later with
                consulted := name :: later.consulted
                lines := skippedLine name :: later.lines }
          | .layer layer =>
              let later := catalog.assemble (accepted ++ [(name, layer)]) state rest
              { later with consulted := name :: later.consulted }

end Catalog

/-- Assemble the stack that settings describe from the layers that factories produce. -/
def Settings.assemble
    {θ σ ν : Type}
    (settings : Settings)
    (catalog : Catalog θ σ ν)
    (state : θ) :
    Assembly θ σ ν :=
  match settings.activeNames with
  | .error failure => ⟨[], [], state, .returned (.error failure)⟩
  | .ok names => catalog.assemble [] state names

end Middleware
