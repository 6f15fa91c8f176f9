import Middleware.Failure
import Middleware.Outcome
import Middleware.Phase
import Middleware.Task

namespace Middleware

/-!
# Telemetry events

Every hook call is reported by one method report and every run of a chain by
one chain report, however it ends: a scope that is left without finishing is
reported as cancelled or as panicked, and then without a failure.
-/

/-- The kind of manager that all reports name. -/
def managerLabel : String :=
  "downloader middleware"

/-- One completed hook call. -/
structure MethodReport where
  phase : Phase
  middleware : String
  failure : Option Failure
  cancelled : Bool
  panicked : Bool
deriving DecidableEq

/-- One completed run of a chain. -/
structure ChainReport where
  phase : Phase
  /-- The request that the chain ran for, or what a response chain resolved to. -/
  subject : Outcome
  /-- The middlewares whose hooks were called, in the order of the calls. -/
  visited : List String
  count : Nat
  failure : Option Failure
  cancelled : Bool
  panicked : Bool
deriving DecidableEq

/-- What observers are told. -/
inductive Event where
  | method (report : MethodReport)
  | chain (report : ChainReport)
deriving DecidableEq

/-- The phase that an event is about. -/
def Event.phase : Event → Phase
  | .method report => report.phase
  | .chain report => report.phase

/-- The report of a hook call that finished. -/
def MethodReport.finished
    (phase : Phase)
    (middleware : String)
    (failure : Option Failure) :
    MethodReport where
  phase := phase
  middleware := middleware
  failure := failure
  cancelled := false
  panicked := false

/-- The report of a hook call that did not finish. -/
def MethodReport.interrupted
    (phase : Phase)
    (middleware : String)
    (interruption : Interruption) :
    MethodReport where
  phase := phase
  middleware := middleware
  failure := none
  cancelled := interruption = .cancelled
  panicked := interruption = .panicked

/-- The report of a chain that finished. -/
def ChainReport.finished
    (phase : Phase)
    (subject : Outcome)
    (visited : List String)
    (failure : Option Failure) :
    ChainReport where
  phase := phase
  subject := subject
  visited := visited
  count := visited.length
  failure := failure
  cancelled := false
  panicked := false

/-- The report of a chain that did not finish. -/
def ChainReport.interrupted
    (phase : Phase)
    (subject : Outcome)
    (visited : List String)
    (interruption : Interruption) :
    ChainReport where
  phase := phase
  subject := subject
  visited := visited
  count := visited.length
  failure := none
  cancelled := interruption = .cancelled
  panicked := interruption = .panicked

end Middleware
