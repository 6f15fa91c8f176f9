import Middleware.Message.Headers
import Middleware.Message.Status

namespace Middleware

/-!
# Responses
-/

/-- What a transport, or a hook in its place, answers to a request. -/
structure Response where
  url : String
  status : Status
  headers : Headers
  body : List UInt8
deriving DecidableEq

namespace Response

/-- A response without headers and body. -/
def make
    (url : String)
    (status : Status) :
    Response where
  url := url
  status := status
  headers := .empty
  body := []

/-- The response without remarks, headers and body. -/
def plain (url : String) : Response :=
  make url .ok

/-- Replace the status. -/
def withStatus
    (response : Response)
    (status : Status) :
    Response :=
  { response with status := status }

/-- Add a header field after the present ones. -/
def addHeader
    (response : Response)
    (name value : String) :
    Response :=
  { response with headers := response.headers.add name value }

/-- Replace the body. -/
def replaceBody
    (response : Response)
    (body : List UInt8) :
    Response :=
  { response with body := body }

/-- The value of the first header field with a matching name. -/
def header?
    (response : Response)
    (name : String) :
    Option String :=
  response.headers.get? name

end Response

end Middleware
