import Middleware.Context
import Middleware.Reply
import Middleware.Telemetry.Event
import Middleware.Telemetry.Log

namespace Middleware

/-!
# Signals of a download

Everything that can be seen of a download while it runs: the calls it makes
and what they come back with, the notes that hooks, transports and sinks emit,
the events handed to the observer, and the log lines.
-/

/-- A call of a hook or of the transport, with everything that is passed. -/
inductive Call where
  | request
      (middleware : String)
      (request : Request)
      (context : Option Context)
  | response
      (middleware : String)
      (request : Request)
      (response : Response)
      (context : Option Context)
  | exception
      (middleware : String)
      (request : Request)
      (failure : Failure)
      (context : Option Context)
  | transport
      (request : Request)
deriving DecidableEq

/-- What a call comes back with: a hook replies, the transport responds, and either may fail. -/
inductive Return where
  | reply (reply : Reply)
  | response (response : Response)
  | failure (cause : Cause)
deriving DecidableEq

/-- What the call of a hook comes back with. -/
def Return.ofAnswer : Answer → Return
  | .ok value => .reply value
  | .error cause => .failure cause

/-- What the call of the transport comes back with. -/
def Return.ofTransport : Except Cause Response → Return
  | .ok value => .response value
  | .error cause => .failure cause

/-- What can be seen of a download while it runs. -/
inductive Signal (ν : Type) where
  /-- A hook or the transport is called. -/
  | call (call : Call)
  /-- The hook or the transport that was called last comes back. -/
  | returned (value : Return)
  /-- A hook, the transport or a sink reports something of its own. -/
  | note (note : ν)
  /-- An event is handed to the observer. -/
  | event (event : Event)
  /-- A line is logged. -/
  | log (line : LogLine)
deriving DecidableEq

end Middleware
