import Middleware.Stack
import Middleware.Telemetry.Observer

namespace Middleware

/-!
# Chains

A chain calls the hooks of one phase strictly one after another. After each
call the reply decides: the chain goes on with what it carries, or it is
settled with an outcome, or the reply is refused. A hook that fails ends the
chain with its failure. A chain whose hooks have all been called comes to its
conclusion.

Each call is enclosed in a scope that reports it by a method report, and the
whole run in a scope that reports it by a chain report, so both go out on every
way out.
-/

/-- How a chain takes an accepted reply, where `κ` is what it carries from hook to hook. -/
inductive Verdict (κ : Type) where
  | proceed (carried : κ)
  | settle (outcome : Outcome)
deriving DecidableEq

/-- The rules of one run of a chain, whose hooks take inputs of type `ι`. -/
structure Chain (σ ν ι κ : Type) where
  phase : Phase
  context : Context
  reporter : Reporter σ ν
  /-- What the chain report shows as long as the chain is not settled. -/
  subject : Outcome
  /-- What the chain report shows once the chain has resolved to an outcome. -/
  resolved : Outcome → Outcome
  /-- What a hook receives. -/
  input : κ → ι
  /-- How the call of a hook shows. -/
  announce : String → ι → Option Context → Call
  /-- How a reply is taken; a refused one is handed back. -/
  judge : Reply → Except Reply (Verdict κ)
  /-- The line that is logged when a middleware settles the chain. -/
  settledLine : String → Outcome → LogLine
  /-- What the chain comes to when no hook has settled it. -/
  conclude : κ → Task σ (Signal ν) (Except Failure Outcome)

/-- What a finished computation failed with, if it did. -/
def failure?
    {α : Type} :
    Except Failure α →
    Option Failure
  | .ok _ => none
  | .error failure => some failure

namespace Chain

variable {σ ν ι κ : Type}

/-- Judge a hook's answer: failures and refused replies are attributed to its middleware. -/
def verdict
    (chain : Chain σ ν ι κ)
    (middleware : String)
    (answer : Answer) :
    Except Failure (Verdict κ) :=
  match answer with
  | .error cause => .error (.hook middleware chain.phase cause)
  | .ok reply =>
      match chain.judge reply with
      | .ok verdict => .ok verdict
      | .error refused =>
          .error
            (.replyMismatch middleware chain.phase chain.phase.allowedReplies
              refused.label)

/-- Report a hook call. -/
def reportMethod
    (chain : Chain σ ν ι κ)
    (report : MethodReport) :
    Burst σ (Signal ν) :=
  chain.reporter.report (.method report)

/-- Report the run of the chain. -/
def reportChain
    (chain : Chain σ ν ι κ)
    (report : ChainReport) :
    Burst σ (Signal ν) :=
  chain.reporter.report (.chain report)

/-- Report a hook call that did not finish. -/
def closeMethod
    (chain : Chain σ ν ι κ)
    (middleware : String)
    (interruption : Interruption) :
    Burst σ (Signal ν) :=
  chain.reportMethod (.interrupted chain.phase middleware interruption)

/-- Report a run of the chain that did not finish, after calls of the visited middlewares. -/
def closeChain
    (chain : Chain σ ν ι κ)
    (visited : List String)
    (interruption : Interruption) :
    Burst σ (Signal ν) :=
  chain.reportChain (.interrupted chain.phase chain.subject visited interruption)

/-- Call one hook, judge its answer and report the call. -/
def call
    (chain : Chain σ ν ι κ)
    (entry : Entry σ ν ι)
    (carried : κ) :
    Task σ (Signal ν) (Except Failure (Verdict κ)) := do
  let input := chain.input carried
  let visible := entry.hook.visibleContext chain.context
  Task.emit (.call (chain.announce entry.middleware input visible))
  let answer ←
    ((entry.hook.start input chain.context).relabel .note).guarded
      (chain.closeMethod entry.middleware)
  Task.emit (.returned (.ofAnswer answer))
  let verdict := chain.verdict entry.middleware answer
  Task.perform
    (chain.reportMethod
      (.finished chain.phase entry.middleware (failure? verdict)))
  return verdict

/-- Call hooks in order; the result comes with the names of all middlewares visited. -/
def walk
    (chain : Chain σ ν ι κ)
    (visited : List String)
    (carried : κ) :
    List (Entry σ ν ι) →
    Task σ (Signal ν) (List String × Except Failure Outcome)
  | [] => do
      let result ← (chain.conclude carried).guarded (chain.closeChain visited)
      return (visited, result)
  | entry :: rest => do
      let visited := visited ++ [entry.middleware]
      match ← (chain.call entry carried).guarded (chain.closeChain visited) with
      | .error failure => return (visited, .error failure)
      | .ok (.settle outcome) => do
          Task.emit (.log (chain.settledLine entry.middleware outcome))
          return (visited, .ok outcome)
      | .ok (.proceed carried) => chain.walk visited carried rest

/-- What the report of a finished run shows. -/
def finalSubject
    (chain : Chain σ ν ι κ) :
    Except Failure Outcome →
    Outcome
  | .ok outcome => chain.resolved outcome
  | .error _ => chain.subject

/-- Run the chain over the hooks of its phase and report the run. -/
def run
    (chain : Chain σ ν ι κ)
    (entries : List (Entry σ ν ι))
    (carried : κ) :
    Task σ (Signal ν) (Except Failure Outcome) := do
  let (visited, result) ← chain.walk [] carried entries
  Task.perform
    (chain.reportChain
      (.finished chain.phase (chain.finalSubject result) visited (failure? result)))
  return result

end Chain

end Middleware
