import Middleware.Task.Job

namespace Middleware

/-!
# What a task computes

A task that nothing else interrupts or drops is a partial function on states:
it comes to a value and a state, or it panics or hangs. A task that works on a
larger state realizes such a function on a part of the state if it does to
this part, and comes back with, what the function says. Tasks that are put
together from tasks realize what is put together from their functions.
-/

variable {σ τ ο ν α β : Type}

/-- The value and the state that a task comes to when it is polled until its end. -/
def Task.complete : Task σ ο α → StateT σ Option α
  | .done value => fun state => some (value, state)
  | .panic _ => fun _ => none
  | .act work next => fun state => (next state).complete (work state).2
  | .suspend _ next => next.complete
  | .hang _ => fun _ => none

namespace Job

/-- A job that a poll does not change comes to nothing else. -/
theorem pollTimes_of_poll_eq
    {job : Job σ ο α}
    (unchanged : ∀ state, job.poll state = ⟨[], state, job⟩)
    (state : σ)
    (count : Nat) :
    job.pollTimes state count = ⟨[], state, job⟩ := by
  induction count with
  | zero => rfl
  | succ count inductionHypothesis =>
      simp [pollTimes, unchanged, inductionHypothesis]

/-- A job comes to a value in a state when it is polled often enough from another state. -/
def ComesTo
    (job : Job σ ο α)
    (state : σ)
    (value : α)
    (final : σ) :
    Prop :=
  ∃ count signals, job.pollTimes state count = ⟨signals, final, .finished value⟩

/-- A job that has not come to a value comes to it by its next poll and the polls after that. -/
theorem comesTo_iff_poll
    {job : Job σ ο α}
    (unfinished : ∀ value, job ≠ .finished value)
    (state : σ)
    (value : α)
    (final : σ) :
    job.ComesTo state value final ↔
      (job.poll state).result.ComesTo (job.poll state).state value final := by
  constructor
  · rintro ⟨count, signals, run⟩
    cases count with
    | zero =>
        injection run with _ _ finished
        exact (unfinished value finished).elim
    | succ count =>
        injection run with _ sameState sameResult
        generalize later :
          (job.poll state).result.pollTimes (job.poll state).state count = rest at *
        exact ⟨count, rest.signals, by rw [later, ← sameState, ← sameResult]⟩
  · rintro ⟨count, signals, run⟩
    exact ⟨count + 1, (job.poll state).signals ++ signals, by simp [pollTimes, run]⟩

/-- A job that a poll does not change comes to a value only if it has come to it. -/
theorem comesTo_iff_of_poll_eq
    {job : Job σ ο α}
    (unchanged : ∀ state, job.poll state = ⟨[], state, job⟩)
    (state : σ)
    (value : α)
    (final : σ) :
    job.ComesTo state value final ↔ job = .finished value ∧ state = final := by
  constructor
  · rintro ⟨count, signals, run⟩
    rw [pollTimes_of_poll_eq unchanged] at run
    injection run with _ sameState sameResult
    exact ⟨sameResult, sameState⟩
  · rintro ⟨rfl, rfl⟩
    exact ⟨0, [], rfl⟩

/-- A task that is polled often enough comes to what it computes, and to nothing else. -/
theorem comesTo_fresh_iff
    (task : Task σ ο α)
    (state : σ)
    (value : α)
    (final : σ) :
    (Job.fresh task).ComesTo state value final ↔
      task.complete state = some (value, final) := by
  have step :=
    fun (task : Task σ ο α) state =>
      (Job.fresh task).comesTo_iff_poll (by simp) state value final
  induction task generalizing state with
  | done result =>
      rw [step]
      change (Job.finished result).ComesTo state value final ↔ _
      rw [comesTo_iff_of_poll_eq fun _ => rfl]
      simp [Task.complete]
  | panic message =>
      rw [step]
      change (Job.panicked message).ComesTo state value final ↔ _
      rw [comesTo_iff_of_poll_eq fun _ => rfl]
      simp [Task.complete]
  | act work next inductionHypothesis =>
      rw [step]
      exact (step (next state) (work state).2).symm.trans (inductionHypothesis ..)
  | suspend abandon next inductionHypothesis =>
      rw [step]
      change (Job.waiting abandon next).ComesTo state value final ↔ _
      rw [comesTo_iff_poll (by simp)]
      exact (step next state).symm.trans (inductionHypothesis state)
  | hang abandon =>
      rw [step]
      change (Job.stuck abandon).ComesTo state value final ↔ _
      rw [comesTo_iff_of_poll_eq fun _ => rfl]
      simp [Task.complete]

end Job

namespace Task

/-- To complete a sequence is to complete its first task, and then its second. -/
theorem complete_bind
    (task : Task σ ο α)
    (next : α → Task σ ο β) :
    (task.bind next).complete =
      task.complete >>= fun value => (next value).complete := by
  funext state
  induction task generalizing state with
  | done value => rfl
  | panic message => rfl
  | act work rest inductionHypothesis =>
      exact inductionHypothesis state (work state).2
  | suspend abandon rest inductionHypothesis =>
      exact inductionHypothesis state
  | hang abandon => rfl

/-- A scope has no part in what a task computes. -/
theorem complete_guarded
    (close : Interruption → Burst σ ο)
    (task : Task σ ο α) :
    (task.guarded close).complete = task.complete := by
  funext state
  induction task generalizing state with
  | done value => rfl
  | panic message => rfl
  | act work next inductionHypothesis =>
      exact inductionHypothesis state (work state).2
  | suspend abandon next inductionHypothesis =>
      exact inductionHypothesis state
  | hang abandon => rfl

/-- The names of signals have no part in what a task computes. -/
theorem complete_relabel
    (rename : ν → ο)
    (task : Task σ ν α) :
    (task.relabel rename).complete = task.complete := by
  funext state
  induction task generalizing state with
  | done value => rfl
  | panic message => rfl
  | act work next inductionHypothesis =>
      exact inductionHypothesis state (work state).2
  | suspend abandon next inductionHypothesis =>
      exact inductionHypothesis state
  | hang abandon => rfl

end Task

/--
A task does to a part of the state, which `view` gives, what a function does,
and comes to the same value or to none.
-/
def Realizes
    (view : σ → τ)
    (task : Task σ ο α)
    (function : StateT τ Option α) :
    Prop :=
  ∀ state,
    (task.complete state).map (fun (value, after) => (value, view after)) =
      function (view state)

namespace Realizes

variable {view : σ → τ}

theorem done (value : α) :
    Realizes view (.done value : Task σ ο α) (pure value) :=
  fun _ => rfl

/-- Work that leaves the part of the state alone realizes the function that does nothing. -/
theorem perform
    {work : Burst σ ο}
    (keeps : ∀ state, view (work state).2 = view state) :
    Realizes view (Task.perform work) (pure ()) := by
  intro state
  simp [Task.perform, Task.complete, keeps]
  rfl

theorem emit (signal : ο) :
    Realizes view (Task.emit signal) (pure ()) :=
  perform fun _ => rfl

theorem pause :
    Realizes view (Task.pause : Task σ ο Unit) (pure ()) :=
  fun _ => rfl

theorem guarded
    {task : Task σ ο α}
    {function : StateT τ Option α}
    (realizes : Realizes view task function)
    (close : Interruption → Burst σ ο) :
    Realizes view (task.guarded close) function := by
  intro state
  rw [Task.complete_guarded]
  exact realizes state

theorem relabel
    {task : Task σ ν α}
    {function : StateT τ Option α}
    (realizes : Realizes view task function)
    (rename : ν → ο) :
    Realizes view (task.relabel rename) function := by
  intro state
  rw [Task.complete_relabel]
  exact realizes state

/-- Sequences of tasks realize sequences of functions. -/
theorem bind
    {task : Task σ ο α}
    {next : α → Task σ ο β}
    {function : StateT τ Option α}
    {following : α → StateT τ Option β}
    (first : Realizes view task function)
    (second : ∀ value, Realizes view (next value) (following value)) :
    Realizes view (task.bind next) (function >>= following) := by
  intro state
  have sameFirst := first state
  rw [Task.complete_bind]
  change
    Option.map _ ((task.complete state).bind fun (value, after) => (next value).complete after) =
      (function (view state)).bind fun (value, after) => following value after
  rw [← sameFirst]
  cases task.complete state with
  | none => rfl
  | some result => exact second result.1 result.2

/-- A task that realizes the function that does nothing may stand before another. -/
theorem skip
    {task : Task σ ο Unit}
    {next : Unit → Task σ ο β}
    {function : StateT τ Option β}
    (first : Realizes view task (pure ()))
    (second : Realizes view (next ()) function) :
    Realizes view (task.bind next) function := by
  have sequence := first.bind fun _ => second
  rwa [pure_bind] at sequence

end Realizes

end Middleware
