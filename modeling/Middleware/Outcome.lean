import Middleware.Message.Request
import Middleware.Message.Response

namespace Middleware

/-!
# Outcomes

A chain resolves to a response, which is handed back to the caller, or to a
request, which the caller should schedule instead.
-/

/-- What a chain resolves to. -/
inductive Outcome where
  | response (value : Response)
  | request (value : Request)
deriving DecidableEq

namespace Outcome

/-- Whether the outcome is a response. -/
def isResponse : Outcome → Bool
  | .response _ => true
  | .request _ => false

/-- Whether the outcome is a request. -/
def isRequest : Outcome → Bool
  | .response _ => false
  | .request _ => true

/-- The response, if the outcome is one. -/
def response? : Outcome → Option Response
  | .response value => some value
  | .request _ => none

/-- The request, if the outcome is one. -/
def request? : Outcome → Option Request
  | .response _ => none
  | .request value => some value

end Outcome

end Middleware
