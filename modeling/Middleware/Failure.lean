import Middleware.Phase

namespace Middleware

/-!
# Failures and their causes

A `Failure` is what a download reports. It may wrap a `Cause`: the error that
a hook or a transport raised. A cause may itself be a failure that a hook
passes on, so the two types nest to any depth.
-/

/-- Why an orchestration step could not start. -/
inductive InvalidState where
  | missingResult
  | singleThreadedRuntime
  | other (text : String)
deriving DecidableEq

/-- Why a configuration was refused. -/
inductive ConfigurationFault where
  | unnamedLayer (position : Nat)
  | unknownMiddleware (name : String)
  | missingOrder (name : String)
  | unreadable (path reason : String)
  | malformedDocument
  | other (text : String)
deriving DecidableEq

/-- The kinds of system faults. -/
inductive FaultKind where
  | timedOut
  | connectionReset
  | notFound
  | unexpectedEnd
deriving DecidableEq, Repr

mutual

/-- An error that a hook or a transport raises. -/
inductive Cause where
  | text (text : String)
  | timeout
  | wrapped (text : String) (inner : Cause)
  | system (fault : SystemFault)
  | nested (failure : Failure)
deriving DecidableEq

/-- A fault of the system below a transport, with the error it stems from if there is one. -/
inductive SystemFault where
  | plain (kind : FaultKind)
  | custom (kind : FaultKind) (inner : Cause)
deriving DecidableEq

/-- What a download, or the building of a stack, reports instead of a result. -/
inductive Failure where
  | replyMismatch (middleware : String) (phase : Phase) (expected got : String)
  | invalidState (reason : InvalidState)
  | hook (middleware : String) (phase : Phase) (source : Cause)
  | transport (source : Cause)
  | configuration (fault : ConfigurationFault)
  | runtime (source : SystemFault)
deriving DecidableEq

end

/-- The middleware a failure is attributed to. -/
def Failure.middleware? : Failure → Option String
  | .replyMismatch middleware _ _ _ => some middleware
  | .hook middleware _ _ => some middleware
  | _ => none

end Middleware
