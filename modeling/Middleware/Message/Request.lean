import Middleware.Dictionary
import Middleware.Message.Headers
import Middleware.Message.Method

namespace Middleware

/-!
# Requests

A request names what is to be fetched. Hooks never change a request they are
given: each of the functions below returns a new one that differs in a single
part.
-/

/-- An outbound request with the metadata that hooks attach to it. -/
structure Request where
  method : Method
  url : String
  headers : Headers
  body : List UInt8
  metadata : Dictionary String
deriving DecidableEq

namespace Request

/-- A request without headers, body and metadata. -/
def make
    (method : Method)
    (url : String) :
    Request where
  method := method
  url := url
  headers := .empty
  body := []
  metadata := .empty

/-- A plain retrieval of a location. -/
def get (url : String) : Request :=
  make .get url

/-- Add a header field after the present ones. -/
def addHeader
    (request : Request)
    (name value : String) :
    Request :=
  { request with headers := request.headers.add name value }

/-- Attach a metadata entry, in place of an earlier one of the same key. -/
def attach
    (request : Request)
    (key value : String) :
    Request :=
  { request with metadata := request.metadata.insert key value }

/-- Replace the body. -/
def replaceBody
    (request : Request)
    (body : List UInt8) :
    Request :=
  { request with body := body }

/-- The value of the first header field with a matching name. -/
def header?
    (request : Request)
    (name : String) :
    Option String :=
  request.headers.get? name

/-- The metadata entry of a key. -/
def metadata?
    (request : Request)
    (key : String) :
    Option String :=
  request.metadata.get? key

end Request

end Middleware
