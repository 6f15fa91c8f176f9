import Middleware.Chain

namespace Middleware

/-!
# Downloads

A download sends a request through the request hooks to the transport, offers
a failure on that way to the exception hooks once, and passes a response
through the response hooks. A request that a hook produces in place of a
response is returned for the caller to schedule.

Failures of response hooks and of exception hooks go straight to the caller.
Between a failed request chain and the exception chain the download suspends
once, so that a burst of failures does not keep other tasks waiting.
-/

/-- A stack with the context and the reporter of its downloads. -/
structure Downloader (σ ν : Type) where
  stack : Stack σ ν
  context : Context
  reporter : Reporter σ ν

namespace Downloader

variable {σ ν : Type}

/-- The downloader of a stack, with the default context and the default reporter. -/
def ofStack (stack : Stack σ ν) : Downloader σ ν :=
  ⟨stack, .default, .default⟩

/-- Choose the context that is handed to contextual hooks. -/
def inContext
    (downloader : Downloader σ ν)
    (context : Context) :
    Downloader σ ν :=
  { downloader with context := context }

/-- Choose the observer that receives all events. -/
def observedBy
    (downloader : Downloader σ ν)
    (observer : Observer σ ν) :
    Downloader σ ν :=
  { downloader with
    reporter := { downloader.reporter with observer := observer } }

/-- Call the transport; a failure keeps the cause it raised. -/
def callTransport
    (transport : Transport σ ν)
    (request : Request) :
    Task σ (Signal ν) (Except Failure Outcome) := do
  Task.emit (.call (.transport request))
  let answer ← (transport request).relabel .note
  Task.emit (.returned (.ofTransport answer))
  match answer with
  | .ok response => return .ok (.response response)
  | .error cause => return .error (.transport cause)

/--
The request chain: the first reply that carries an outcome settles it. If there
is none, the transport is called.
-/
def requestChain
    (downloader : Downloader σ ν)
    (transport : Transport σ ν)
    (request : Request) :
    Chain σ ν Request Unit where
  phase := .request
  context := downloader.context
  reporter := downloader.reporter
  subject := .request request
  resolved _ := .request request
  input _ := request
  announce middleware input context := .request middleware input context
  judge reply :=
    reply.acceptAny.map fun
      | none => .proceed ()
      | some outcome => .settle outcome
  settledLine middleware _ :=
    ⟨.debug, "request chain short-circuited",
      [("middleware", .text middleware), ("url", .text request.url)]⟩
  conclude _ := callTransport transport request

/--
The exception chain: the first reply that carries an outcome settles it. If
there is none, the failure stands.
-/
def exceptionChain
    (downloader : Downloader σ ν)
    (request : Request)
    (failure : Failure) :
    Chain σ ν Incident Unit where
  phase := .exception
  context := downloader.context
  reporter := downloader.reporter
  subject := .request request
  resolved _ := .request request
  input _ := (request, failure)
  announce middleware input context :=
    .exception middleware input.1 input.2 context
  judge reply :=
    reply.acceptAny.map fun
      | none => .proceed ()
      | some outcome => .settle outcome
  settledLine middleware _ :=
    ⟨.debug, "exception resolved",
      [("middleware", .text middleware), ("url", .text request.url),
        ("error", .text failure.message)]⟩
  conclude _ := .done (.error failure)

/-- The location of an outcome. -/
def outcomeUrl : Outcome → String
  | .response response => response.url
  | .request request => request.url

/-- The response chain: each response is passed on to the next hook, a request settles the chain. -/
def responseChain
    (downloader : Downloader σ ν)
    (request : Request)
    (response : Response) :
    Chain σ ν Exchange Response where
  phase := .response
  context := downloader.context
  reporter := downloader.reporter
  subject := .response response
  resolved outcome := outcome
  input current := (request, current)
  announce middleware input context :=
    .response middleware input.1 input.2 context
  judge reply :=
    reply.acceptOutcome.map fun
      | .response next => .proceed next
      | .request retry => .settle (.request retry)
  settledLine middleware outcome :=
    ⟨.debug, "response chain returned a request",
      [("middleware", .text middleware), ("url", .text (outcomeUrl outcome))]⟩
  conclude current := .done (.ok (.response current))

/-- Send a request through the request hooks and, if none of them answers, to the transport. -/
def send
    (downloader : Downloader σ ν)
    (transport : Transport σ ν)
    (request : Request) :
    Task σ (Signal ν) (Except Failure Outcome) :=
  (downloader.requestChain transport request).run downloader.stack.request ()

/-- Offer a failure to the exception hooks; if none of them resolves it, it stands. -/
def recover
    (downloader : Downloader σ ν)
    (request : Request)
    (failure : Failure) :
    Task σ (Signal ν) (Except Failure Outcome) :=
  (downloader.exceptionChain request failure).run downloader.stack.exception ()

/-- Pass what a download has come to through the response hooks, which see responses only. -/
def receive
    (downloader : Downloader σ ν)
    (request : Request) :
    Option Outcome →
    Task σ (Signal ν) (Except Failure Outcome)
  | none => .done (.error (.invalidState .missingResult))
  | some (.request retry) => .done (.ok (.request retry))
  | some (.response response) =>
      (downloader.responseChain request response).run
        downloader.stack.response response

/-- Download a request: send it, recover once from a failure, and receive the response. -/
def download
    (downloader : Downloader σ ν)
    (transport : Transport σ ν)
    (request : Request) :
    Task σ (Signal ν) (Except Failure Outcome) := do
  match ← downloader.send transport request with
  | .ok outcome => downloader.receive request (some outcome)
  | .error failure => do
      Task.pause
      match ← downloader.recover request failure with
      | .ok outcome => downloader.receive request (some outcome)
      | .error failure => return .error failure

end Downloader

end Middleware
