namespace Middleware

/-!
# Phases of a download

A download has up to three phases, and each phase has its own chain of hooks.
-/

/-- The three phases in which hooks run. -/
inductive Phase where
  | request
  | response
  | exception
deriving DecidableEq, Repr

namespace Phase

/-- The name of a phase in reports, log lines and error texts. -/
def label : Phase → String
  | .request => "process_request"
  | .response => "process_response"
  | .exception => "process_exception"

/-- What the hooks of a phase may answer, in words. -/
def allowedReplies : Phase → String
  | .request | .exception => "nothing, Response or Request"
  | .response => "Response or Request"

/-- All phases. -/
def all : List Phase :=
  [.request, .response, .exception]

end Phase

end Middleware
