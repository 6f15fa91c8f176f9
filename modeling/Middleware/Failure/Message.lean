import Middleware.Failure

namespace Middleware

/-!
# Texts of failures

The text that a failure or a cause displays. A wrapping cause shows its own
text only; a system fault with an inner error shows the inner error's text; a
failure shows its cause behind what failed.
-/

/-- What went wrong with the state of an orchestration step. -/
def InvalidState.message : InvalidState → String
  | .missingResult => "process_response received no result"
  | .singleThreadedRuntime =>
      "download_blocking cannot block a current-thread runtime"
  | .other text => text

/-- What is wrong with a configuration. -/
def ConfigurationFault.message : ConfigurationFault → String
  | .unnamedLayer position =>
      "interceptor at position " ++ toString position ++ " has no name"
  | .unknownMiddleware name => "unknown middleware " ++ name
  | .missingOrder name =>
      "middleware " ++ name ++ ": expected an integer order or `false`, got `true`"
  | .unreadable path reason => path ++ ": " ++ reason
  | .malformedDocument => "malformed settings document"
  | .other text => text

/-- The name of a kind of system fault. -/
def FaultKind.label : FaultKind → String
  | .timedOut => "TimedOut"
  | .connectionReset => "ConnectionReset"
  | .notFound => "NotFound"
  | .unexpectedEnd => "UnexpectedEof"

/-- What a system fault of a kind displays without an inner error. -/
def FaultKind.message : FaultKind → String
  | .timedOut => "timed out"
  | .connectionReset => "connection reset"
  | .notFound => "entity not found"
  | .unexpectedEnd => "unexpected end of file"

mutual

/-- The text that a cause displays. -/
def Cause.message : Cause → String
  | .text text => text
  | .timeout => "timed out"
  | .wrapped text _ => text
  | .system fault => fault.message
  | .nested failure => failure.message

/-- The text that a system fault displays. -/
def SystemFault.message : SystemFault → String
  | .plain kind => kind.message
  | .custom _ inner => inner.message

/-- The text that a failure displays. -/
def Failure.message : Failure → String
  | .replyMismatch middleware phase expected got =>
      "middleware " ++ middleware ++ " must return " ++ expected ++
        " from " ++ phase.label ++ ", got " ++ got
  | .invalidState reason => "invalid state: " ++ reason.message
  | .hook middleware phase source =>
      phase.label ++ " of middleware " ++ middleware ++ " failed: " ++ source.message
  | .transport source => "fetch failed: " ++ source.message
  | .configuration fault => "middleware configuration: " ++ fault.message
  | .runtime source => "runtime: " ++ source.message

end

/-- The text of an optional failure; no failure has the empty text. -/
def failureText : Option Failure → String
  | none => ""
  | some failure => failure.message

end Middleware
