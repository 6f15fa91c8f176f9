import Middleware.Failure
import Middleware.Outcome

namespace Middleware

/-!
# Replies of hooks

A hook replies with nothing, a response or a request. Hooks may be written
against simpler types: `ToReply` gives the reply that a value of such a type
stands for, and `ToAnswer` the reply or the cause of failure.
-/

/-- What a hook replies when it does not fail. -/
inductive Reply where
  | nothing
  | response (value : Response)
  | request (value : Request)
deriving DecidableEq

/-- A hook's reply, or the cause of its failure. -/
abbrev Answer : Type :=
  Except Cause Reply

namespace Reply

/-- The kind of a reply, as error texts name it. -/
def label : Reply → String
  | .nothing => "nothing"
  | .response _ => "Response"
  | .request _ => "Request"

/-- The outcome that a reply carries. -/
def outcome? : Reply → Option Outcome
  | .nothing => none
  | .response value => some (.response value)
  | .request value => some (.request value)

/-- Accept any reply; one that carries nothing lets the chain go on. -/
def acceptAny (reply : Reply) : Except Reply (Option Outcome) :=
  .ok reply.outcome?

/-- Accept only a reply that carries an outcome. -/
def acceptOutcome (reply : Reply) : Except Reply Outcome :=
  match reply.outcome? with
  | some outcome => .ok outcome
  | none => .error reply

end Reply

/-- The reply that carries an outcome. -/
def Outcome.toReply : Outcome → Reply
  | .response value => .response value
  | .request value => .request value

/-- Types whose values stand for a reply. -/
class ToReply (α : Type) where
  toReply : α → Reply

instance : ToReply Reply where
  toReply reply := reply

instance : ToReply Unit where
  toReply _ := .nothing

instance : ToReply Response where
  toReply := .response

instance : ToReply Request where
  toReply := .request

instance : ToReply Outcome where
  toReply := Outcome.toReply

/-- Absence stands for no reply, presence for the reply of what is present. -/
instance {α : Type} [ToReply α] : ToReply (Option α) where
  toReply
    | none => .nothing
    | some value => ToReply.toReply value

/-- Types whose values stand for an answer. -/
class ToAnswer (α : Type) where
  toAnswer : α → Answer

instance : ToAnswer Reply where
  toAnswer := .ok

instance : ToAnswer Unit where
  toAnswer _ := .ok .nothing

instance : ToAnswer Response where
  toAnswer value := .ok (.response value)

instance : ToAnswer Request where
  toAnswer value := .ok (.request value)

instance : ToAnswer Outcome where
  toAnswer outcome := .ok outcome.toReply

instance {α : Type} [ToReply α] : ToAnswer (Option α) where
  toAnswer value := .ok (ToReply.toReply value)

/-- A failure keeps its cause, a success stands for the reply of its value. -/
instance {α : Type} [ToReply α] : ToAnswer (Except Cause α) where
  toAnswer
    | .ok value => .ok (ToReply.toReply value)
    | .error cause => .error cause

end Middleware
