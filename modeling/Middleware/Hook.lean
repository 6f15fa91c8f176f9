import Middleware.Context
import Middleware.Phase
import Middleware.Reply
import Middleware.Task

namespace Middleware

/-!
# Hooks and transports

A hook is a task that is started on an input and ends with an answer. Whether
it wants to know the context of the download is part of the hook: a contextual
hook is given the context, a plain one never sees it.

Hooks and transports share a state `σ` and emit notes of a type `ν` of their
own.
-/

/-- A task that is started on an input of a phase, with or without the context. -/
inductive Hook (σ ν ι : Type) where
  | plain (start : ι → Task σ ν Answer)
  | contextual (start : ι → Context → Task σ ν Answer)

/-- What the hooks of the response phase receive. -/
abbrev Exchange : Type :=
  Request × Response

/-- What the hooks of the exception phase receive. -/
abbrev Incident : Type :=
  Request × Failure

/-- What performs a request that no hook has answered. -/
abbrev Transport (σ ν : Type) : Type :=
  Request → Task σ ν (Except Cause Response)

namespace Hook

variable {σ ν ι : Type}

/-- Whether a hook wants to know the context. -/
def isContextual : Hook σ ν ι → Bool
  | .plain _ => false
  | .contextual _ => true

/-- The context as far as a hook gets to see it. -/
def visibleContext
    (hook : Hook σ ν ι)
    (context : Context) :
    Option Context :=
  if hook.isContextual then some context else none

/-- Start a hook on an input. -/
def start
    (hook : Hook σ ν ι)
    (input : ι)
    (context : Context) :
    Task σ ν Answer :=
  match hook with
  | .plain start => start input
  | .contextual start => start input context

end Hook

end Middleware
