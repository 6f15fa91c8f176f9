import Middleware.Download

namespace Middleware

/-!
# Blocking downloads

Callers that cannot suspend run a download straight through. This way of
calling is deprecated: a warning is logged once for each place in a program
that calls it. A caller inside a runtime with a single thread is refused,
because nothing else could run while it blocks.
-/

/-- A place in a program. -/
structure CallSite where
  file : String
  line : Nat
  column : Nat
deriving DecidableEq, Repr

/-- A place in a program as log lines show it. -/
def CallSite.text (site : CallSite) : String :=
  site.file ++ ":" ++ toString site.line ++ ":" ++ toString site.column

/-- The runtime in which a blocking call is made. -/
inductive Ambient where
  | outside
  | singleThreaded
  | multiThreaded
deriving DecidableEq, Repr

/-- A transport that is also handed the context of the download. -/
abbrev ContextualTransport (σ ν : Type) : Type :=
  Request → Context → Task σ ν (Except Cause Response)

/-- The places that have been warned about. -/
abbrev WarnedSites : Type :=
  List CallSite

/-- The warning that a place uses a deprecated call. -/
def deprecationLine (site : CallSite) : LogLine where
  level := .warn
  message :=
    "Executor::download_blocking() is deprecated, use Executor::download() instead"
  fields := [("caller", .text site.text)]

/-- The warning for a visit, given to each place once, and the places warned about afterwards. -/
def WarnedSites.visit
    (sites : WarnedSites)
    (site : CallSite) :
    Option LogLine × WarnedSites :=
  if site ∈ sites then (none, sites) else (some (deprecationLine site), site :: sites)

namespace Downloader

variable {σ ν : Type}

/-- Run a download straight through on behalf of a context, unless its caller must not block. -/
def runThrough
    (downloader : Downloader σ ν)
    (ambient : Ambient)
    (transport : ContextualTransport σ ν)
    (request : Request)
    (context : Context) :
    Task σ (Signal ν) (Except Failure Outcome) :=
  match ambient with
  | .singleThreaded => .done (.error (.invalidState .singleThreadedRuntime))
  | .outside | .multiThreaded =>
      ((downloader.inContext context).download
        (fun request => transport request context) request).withoutPauses

/-- A blocking call from a place: the places warned about afterwards, and what the call does. -/
def downloadFrom
    (downloader : Downloader σ ν)
    (sites : WarnedSites)
    (site : CallSite)
    (ambient : Ambient)
    (transport : ContextualTransport σ ν)
    (request : Request)
    (context : Context) :
    WarnedSites × Task σ (Signal ν) (Except Failure Outcome) :=
  let (warning, sites) := sites.visit site
  let body := downloader.runThrough ambient transport request context
  match warning with
  | none => (sites, body)
  | some line => (sites, do Task.emit (.log line); body)

end Downloader

end Middleware
