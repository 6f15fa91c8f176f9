import Middleware.Proofs.Chain.Course
import Middleware.Proofs.Task.Completion

namespace Middleware

/-!
# What a chain computes

If its reports leave the state of its hooks alone, a chain computes what the
answers of its hooks and its verdicts on them make of what it carries. Calls,
scopes and reports have no part in that.
-/

variable {σ τ ν ι κ : Type}

/-- Reports leave a part of the state, which `view` gives, as it is. -/
def Reporter.Keeps
    (reporter : Reporter σ ν)
    (view : σ → τ) :
    Prop :=
  ∀ event state, view (reporter.report event state).2 = view state

namespace Chain

variable {view : σ → τ}
variable {chain : Chain σ ν ι κ}

theorem realizes_finish
    (keeps : chain.reporter.Keeps view)
    (visited : List String)
    (result : Except Failure Outcome) :
    Realizes view (chain.finish visited result) (pure result) := by
  exact (Realizes.perform (keeps _)).skip (.done result)

/-- To call a hook is to judge its answer. -/
theorem realizes_call
    (keeps : chain.reporter.Keeps view)
    {entry : Entry σ ν ι}
    {carried : κ}
    {function : StateT τ Option Answer}
    (answers :
      Realizes view (entry.hook.start (chain.input carried) chain.context) function) :
    Realizes view (chain.call entry carried)
      (function >>= fun answer => pure (chain.verdict entry.middleware answer)) := by
  apply (Realizes.emit _).skip
  apply ((answers.relabel _).guarded _).bind
  intro answer
  apply (Realizes.emit _).skip
  apply (Realizes.perform (keeps _)).skip
  exact .done _

/-- How a run goes on after a hook has answered, by the verdict on the answer. -/
def follow
    (chain : Chain σ ν ι κ)
    (middleware : String)
    (later : κ → StateT τ Option (Except Failure Outcome))
    (answer : Answer) :
    StateT τ Option (Except Failure Outcome) :=
  match chain.verdict middleware answer with
  | .error failure => pure (.error failure)
  | .ok (.settle outcome) => pure (.ok outcome)
  | .ok (.proceed next) => later next

/-- A run that calls a hook goes on as the verdict on its answer says. -/
theorem realizes_resume_cons
    (keeps : chain.reporter.Keeps view)
    {visited : List String}
    {carried : κ}
    {entry : Entry σ ν ι}
    {rest : List (Entry σ ν ι)}
    {function : StateT τ Option Answer}
    {later : κ → StateT τ Option (Except Failure Outcome)}
    (answers :
      Realizes view (entry.hook.start (chain.input carried) chain.context) function)
    (goesOn :
      ∀ next,
        Realizes view (chain.resume (visited ++ [entry.middleware]) next rest) (later next)) :
    Realizes view (chain.resume visited carried (entry :: rest))
      (function >>= chain.follow entry.middleware later) := by
  have called :=
    (chain.realizes_call keeps answers).guarded
      (chain.closeChain (visited ++ [entry.middleware]))
  have regrouped :=
    bind_assoc function
      (fun answer => pure (chain.verdict entry.middleware answer))
      (fun
        | .error failure => pure (.error failure)
        | .ok (.settle outcome) => pure (.ok outcome)
        | .ok (.proceed next) => later next)
  simp only [pure_bind] at regrouped
  change Realizes view _ (function >>= fun answer => chain.follow entry.middleware later answer)
  simp only [follow]
  rw [resume_cons, ← regrouped]
  apply called.bind
  intro verdict
  cases verdict with
  | error failure => exact chain.realizes_finish keeps _ _
  | ok verdict =>
      cases verdict with
      | settle outcome => exact (Realizes.emit _).skip (chain.realizes_finish keeps _ _)
      | proceed next => exact goesOn next

/-- A run without hooks comes to its conclusion. -/
theorem realizes_resume_nil
    (keeps : chain.reporter.Keeps view)
    {visited : List String}
    {carried : κ}
    {function : StateT τ Option (Except Failure Outcome)}
    (concludes : Realizes view (chain.conclude carried) function) :
    Realizes view (chain.resume visited carried []) function := by
  have sequence :=
    (concludes.guarded (chain.closeChain visited)).bind fun result =>
      chain.realizes_finish keeps visited result
  rw [resume_nil]
  rwa [bind_pure] at sequence

end Chain

end Middleware
