import Middleware.Failure.Message

namespace Middleware

/-!
# Sources of failures

Below a failure lies a chain of sources. A failure that wraps a cause hands it
out behind a shared handle: the handle displays the cause's text and leads on
to what the cause leads on to, but is not itself recognised as that cause. A
system fault with an inner error leads on to the inner error's sources and
skips the inner error.

`sources` lists the chain below an error. `find?` looks for the outermost
cause of a wanted class by walking down from the wrapped cause.
-/

/-- An element of a source chain. -/
inductive Source where
  /-- The error itself. -/
  | direct (cause : Cause)
  /-- A handle that shares an error of unknown class. -/
  | shared (cause : Cause)
deriving DecidableEq

/-- The text that an element of a source chain displays. -/
def Source.message : Source → String
  | .direct cause => cause.message
  | .shared cause => cause.message

mutual

/-- The elements below a cause, outermost first. -/
def Cause.sources : Cause → List Source
  | .text _ => []
  | .timeout => []
  | .wrapped _ inner => .direct inner :: inner.sources
  | .system fault => fault.sources
  | .nested failure => failure.sources

/-- The elements below a system fault: those below its inner error. -/
def SystemFault.sources : SystemFault → List Source
  | .plain _ => []
  | .custom _ inner => inner.sources

/-- The elements below a failure, outermost first. -/
def Failure.sources : Failure → List Source
  | .replyMismatch _ _ _ _ => []
  | .invalidState _ => []
  | .hook _ _ source => .shared source :: source.sources
  | .transport source => .shared source :: source.sources
  | .configuration _ => []
  | .runtime source => .shared (.system source) :: source.sources

end

/-- The classes of causes that can be looked for. -/
inductive CauseClass where
  | timeout
  | wrapped
  | system
  | nested
deriving DecidableEq, Repr

/-- Whether a cause is of a class. -/
def Cause.isOfClass : Cause → CauseClass → Bool
  | .timeout, .timeout => true
  | .wrapped _ _, .wrapped => true
  | .system _, .system => true
  | .nested _, .nested => true
  | _, _ => false

mutual

/-- Look for a cause of a class, beginning with the cause itself. -/
def Cause.find?
    (wanted : CauseClass) :
    Cause →
    Option Cause
  | .text _ => none
  | .timeout => if wanted = .timeout then some .timeout else none
  | .wrapped text inner =>
      if wanted = .wrapped then some (.wrapped text inner) else inner.find? wanted
  | .system fault =>
      if wanted = .system then some (.system fault) else fault.findBelow? wanted
  | .nested failure =>
      if wanted = .nested then some (.nested failure) else failure.findBelow? wanted

/-- Look for a cause of a class, beginning below the cause. -/
def Cause.findBelow?
    (wanted : CauseClass) :
    Cause →
    Option Cause
  | .text _ => none
  | .timeout => none
  | .wrapped _ inner => inner.find? wanted
  | .system fault => fault.findBelow? wanted
  | .nested failure => failure.findBelow? wanted

/-- Look for a cause of a class below a system fault. -/
def SystemFault.findBelow?
    (wanted : CauseClass) :
    SystemFault →
    Option Cause
  | .plain _ => none
  | .custom _ inner => inner.findBelow? wanted

/-- Look for a cause of a class below a failure; the handle of its cause is passed over. -/
def Failure.findBelow?
    (wanted : CauseClass) :
    Failure →
    Option Cause
  | .hook _ _ source => source.findBelow? wanted
  | .transport source => source.findBelow? wanted
  | .runtime source => source.findBelow? wanted
  | _ => none

end

/-- The outermost cause of a class that a hook's or a transport's failure wraps. -/
def Failure.find?
    (failure : Failure)
    (wanted : CauseClass) :
    Option Cause :=
  match failure with
  | .hook _ _ source => source.find? wanted
  | .transport source => source.find? wanted
  | _ => none

end Middleware
