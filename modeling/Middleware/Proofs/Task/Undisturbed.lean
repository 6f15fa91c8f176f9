import Middleware.Proofs.Task.Completion
import Middleware.Proofs.Task.Life

namespace Middleware

/-!
# Tasks that run undisturbed

A task that nothing else interrupts or drops comes to rest after some number of
polls: it has finished, has panicked or hangs. `Task.settle` says what it does
until then. This does not depend on how often the task is suspended on its way,
so a task that is run straight through its suspensions does the same at once.
-/

variable {σ ο ν α β : Type}

/-- A run of a job, with what has become of the job in the place of the job. -/
def Run.summary (run : Run σ ο (Job σ ο α)) : Run σ ο (Fate α) :=
  ⟨run.signals, run.state, run.result.fate⟩

/-- Run a task through all of its suspensions, until it ends or hangs. -/
def Task.settle :
    Task σ ο α →
    σ →
    Run σ ο (Fate α)
  | .done value, state => ⟨[], state, .finished value⟩
  | .panic message, state => ⟨[], state, .panicked message⟩
  | .act work next, state => ((next state).settle (work state).2).after (work state).1
  | .suspend _ next, state => next.settle state
  | .hang _, state => ⟨[], state, .stuck⟩

/-- What has become of a task where it stands, if it is not resumed any more. -/
def Standing.fate : Standing σ ο α → Fate α
  | .finished value _ => .finished value
  | .panicked message => .panicked message
  | .suspended _ => .stuck

/-- A job comes to rest in some run: polled often enough, and however often after that. -/
def Job.Settles
    (job : Job σ ο α)
    (state : σ)
    (run : Run σ ο (Fate α)) :
    Prop :=
  ∃ count, ∀ more, (job.pollTimes state (count + more)).summary = run

namespace Job

/-- A job that has ended stays as it is, however often it is polled after that. -/
theorem pollTimes_add_of_hasEnded
    {job : Job σ ο α}
    {state : σ}
    {count : Nat}
    (ended : (job.pollTimes state count).result.hasEnded)
    (more : Nat) :
    job.pollTimes state (count + more) = job.pollTimes state count := by
  induction count generalizing job state with
  | zero =>
      rw [Nat.zero_add]
      exact pollTimes_of_poll_eq (poll_of_hasEnded ended) state more
  | succ count inductionHypothesis =>
      rw [Nat.add_right_comm]
      simp only [pollTimes, inductionHypothesis ended]

/-- A job settles by its next poll and by what comes after it. -/
theorem settles_of_poll
    {job : Job σ ο α}
    {state : σ}
    {run : Run σ ο (Fate α)}
    (later : (job.poll state).result.Settles (job.poll state).state run) :
    job.Settles state (run.after (job.poll state).signals) := by
  obtain ⟨count, settled⟩ := later
  refine ⟨count + 1, fun more => ?_⟩
  rw [Nat.add_right_comm, ← settled more]
  rfl

/-- A job that a poll does not change has come to rest. -/
theorem settles_of_poll_eq
    {job : Job σ ο α}
    (unchanged : ∀ state, job.poll state = ⟨[], state, job⟩)
    (state : σ) :
    job.Settles state ⟨[], state, job.fate⟩ :=
  ⟨0, fun more => by rw [pollTimes_of_poll_eq unchanged]; rfl⟩

/-- What is left of a task after its first poll comes to rest with what is left of its run. -/
theorem exists_settles_poll
    (task : Task σ ο α)
    (state : σ) :
    ∃ rest,
      (task.poll state).result.Settles (task.poll state).state rest ∧
        rest.after (task.poll state).signals = task.settle state := by
  induction task generalizing state with
  | done value =>
      exact ⟨_, settles_of_poll_eq (fun _ => rfl) state, rfl⟩
  | panic message =>
      exact ⟨_, settles_of_poll_eq (fun _ => rfl) state, rfl⟩
  | act work next inductionHypothesis =>
      obtain ⟨rest, settles, sameRun⟩ := inductionHypothesis state (work state).2
      refine ⟨rest, settles, ?_⟩
      rw [Task.settle, ← sameRun, Run.after_after]
      rfl
  | suspend abandon next inductionHypothesis =>
      obtain ⟨rest, settles, sameRun⟩ := inductionHypothesis state
      refine ⟨_, settles_of_poll settles, ?_⟩
      exact sameRun
  | hang abandon =>
      exact ⟨_, settles_of_poll_eq (fun _ => rfl) state, rfl⟩

/-- A task that nothing disturbs comes to rest as it does when it is run through. -/
theorem settles_fresh
    (task : Task σ ο α)
    (state : σ) :
    (Job.fresh task).Settles state (task.settle state) := by
  obtain ⟨rest, settles, sameRun⟩ := exists_settles_poll task state
  rw [← sameRun]
  exact settles_of_poll settles

/-- A job that has ended has come to rest, so it has done what it settles in. -/
theorem Settles.summary_eq
    {job : Job σ ο α}
    {state : σ}
    {run : Run σ ο (Fate α)}
    (settles : job.Settles state run)
    {count : Nat}
    (ended : (job.pollTimes state count).result.hasEnded) :
    (job.pollTimes state count).summary = run := by
  obtain ⟨enough, settled⟩ := settles
  have rests := pollTimes_add_of_hasEnded ended enough
  rw [← settled count, Nat.add_comm, rests]

end Job

/-- Go on with the task that the value of a finished run selects, and run it through. -/
def Run.thenSettle
    (run : Run σ ο (Fate α))
    (next : α → Task σ ο β) :
    Run σ ο (Fate β) :=
  match run.result with
  | .finished value => ((next value).settle run.state).after run.signals
  | .panicked message => ⟨run.signals, run.state, .panicked message⟩
  | .stuck => ⟨run.signals, run.state, .stuck⟩
  | .unpolled => ⟨run.signals, run.state, .unpolled⟩
  | .waiting => ⟨run.signals, run.state, .waiting⟩
  | .dropped => ⟨run.signals, run.state, .dropped⟩

theorem Run.thenSettle_after
    (run : Run σ ο (Fate α))
    (earlier : List ο)
    (next : α → Task σ ο β) :
    (run.after earlier).thenSettle next = (run.thenSettle next).after earlier := by
  rcases run with ⟨signals, state, fate⟩
  cases fate <;> simp [thenSettle, after]

/-- A run inside a scope, whose closing burst runs if the run panics. -/
def Run.closedBy
    (close : Interruption → Burst σ ο)
    (run : Run σ ο (Fate α)) :
    Run σ ο (Fate α) :=
  match run.result with
  | .panicked message =>
      ⟨run.signals ++ (close .panicked run.state).1,
        (close .panicked run.state).2,
        .panicked message⟩
  | _ => run

theorem Run.closedBy_after
    (close : Interruption → Burst σ ο)
    (run : Run σ ο (Fate α))
    (earlier : List ο) :
    (run.after earlier).closedBy close = (run.closedBy close).after earlier := by
  rcases run with ⟨signals, state, fate⟩
  cases fate <;> simp [closedBy, after]

namespace Task

@[simp] theorem settle_done
    (value : α)
    (state : σ) :
    (Task.done value : Task σ ο α).settle state = ⟨[], state, .finished value⟩ :=
  rfl

@[simp] theorem settle_perform
    (work : Burst σ ο)
    (state : σ) :
    (perform work).settle state = ⟨(work state).1, (work state).2, .finished ()⟩ := by
  simp [perform, settle, Run.after]

@[simp] theorem settle_emit
    (signal : ο)
    (state : σ) :
    (emit signal : Task σ ο Unit).settle state = ⟨[signal], state, .finished ()⟩ := by
  simp [emit, Burst.signal]

/-- A sequence of two tasks is run through as its first task, and then as its second. -/
theorem settle_bind
    (task : Task σ ο α)
    (next : α → Task σ ο β)
    (state : σ) :
    (task.bind next).settle state = (task.settle state).thenSettle next := by
  induction task generalizing state with
  | done value => simp [bind, Run.thenSettle]
  | panic message => rfl
  | act work rest inductionHypothesis =>
      simp only [bind, settle]
      rw [inductionHypothesis, Run.thenSettle_after]
  | suspend abandon rest inductionHypothesis => exact inductionHypothesis state
  | hang abandon => rfl

/-- A task in a scope is run through as the task, and the scope closes a panic. -/
theorem settle_guarded
    (close : Interruption → Burst σ ο)
    (task : Task σ ο α)
    (state : σ) :
    (task.guarded close).settle state = (task.settle state).closedBy close := by
  induction task generalizing state with
  | done value => rfl
  | panic message => simp [Task.guarded, settle, Run.closedBy, Run.after]
  | act work rest inductionHypothesis =>
      simp only [Task.guarded, settle]
      rw [inductionHypothesis, Run.closedBy_after]
  | suspend abandon rest inductionHypothesis => exact inductionHypothesis state
  | hang abandon => rfl

/-- Renaming the signals of a task renames the signals of running it through. -/
theorem settle_relabel
    (rename : ν → ο)
    (task : Task σ ν α)
    (state : σ) :
    let run := task.settle state
    (task.relabel rename).settle state = ⟨run.signals.map rename, run.state, run.result⟩ := by
  induction task generalizing state with
  | done value => rfl
  | panic message => rfl
  | act work rest inductionHypothesis =>
      simp only [Task.relabel, settle]
      rw [inductionHypothesis]
      simp [Burst.relabel, Run.after]
  | suspend abandon rest inductionHypothesis => exact inductionHypothesis state
  | hang abandon => rfl

/-- A task that is run through is driven through states in which it leaves itself. -/
theorem exists_drive_eq_settle
    (task : Task σ ο α)
    (state : σ) :
    ∃ later,
      let run := task.drive state later
      task.settle state = ⟨run.signals, run.state, run.result.fate⟩ := by
  induction task generalizing state with
  | done value => exact ⟨[], rfl⟩
  | panic message => exact ⟨[], rfl⟩
  | act work next inductionHypothesis =>
      obtain ⟨later, sameRun⟩ := inductionHypothesis state (work state).2
      exact ⟨later, by rw [settle, sameRun]; rfl⟩
  | suspend abandon next inductionHypothesis =>
      obtain ⟨later, sameRun⟩ := inductionHypothesis state
      exact ⟨state :: later, sameRun⟩
  | hang abandon => exact ⟨[], rfl⟩

/-- A task that is run straight through its suspensions comes to rest in one poll. -/
theorem summary_poll_withoutPauses
    (task : Task σ ο α)
    (state : σ) :
    (task.withoutPauses.poll state).summary = task.settle state := by
  induction task generalizing state with
  | done value => rfl
  | panic message => rfl
  | act work next inductionHypothesis =>
      rw [settle, ← inductionHypothesis]
      rfl
  | suspend abandon next inductionHypothesis => exact inductionHypothesis state
  | hang abandon => rfl

/-- No suspension of a task is for ever. -/
def NeverHangs : Task σ ο α → Prop
  | .done _ => True
  | .panic _ => True
  | .act _ next => ∀ state, (next state).NeverHangs
  | .suspend _ next => next.NeverHangs
  | .hang _ => False

namespace NeverHangs

variable {task : Task σ ο α}

theorem bind
    (first : task.NeverHangs)
    {next : α → Task σ ο β}
    (second : ∀ value, (next value).NeverHangs) :
    (task.bind next).NeverHangs := by
  induction task with
  | done value => exact second value
  | panic message => trivial
  | act work rest inductionHypothesis => exact fun state => inductionHypothesis state (first state)
  | suspend abandon rest inductionHypothesis => exact inductionHypothesis first
  | hang abandon => cases first

theorem guarded
    (never : task.NeverHangs)
    (close : Interruption → Burst σ ο) :
    (task.guarded close).NeverHangs := by
  induction task with
  | done value => trivial
  | panic message => exact fun _ => trivial
  | act work rest inductionHypothesis => exact fun state => inductionHypothesis state (never state)
  | suspend abandon rest inductionHypothesis => exact inductionHypothesis never
  | hang abandon => cases never

theorem relabel
    {task : Task σ ν α}
    (never : task.NeverHangs)
    (rename : ν → ο) :
    (task.relabel rename).NeverHangs := by
  induction task with
  | done value => trivial
  | panic message => trivial
  | act work rest inductionHypothesis => exact fun state => inductionHypothesis state (never state)
  | suspend abandon rest inductionHypothesis => exact inductionHypothesis never
  | hang abandon => cases never

theorem perform (work : Burst σ ο) : (Task.perform work).NeverHangs :=
  fun _ => trivial

theorem pause : (Task.pause : Task σ ο Unit).NeverHangs :=
  trivial

/-- A task that never hangs finishes or panics. -/
theorem result_settle
    (never : task.NeverHangs)
    (state : σ) :
    (∃ value, (task.settle state).result = .finished value) ∨
      ∃ message, (task.settle state).result = .panicked message := by
  induction task generalizing state with
  | done value => exact .inl ⟨value, rfl⟩
  | panic message => exact .inr ⟨message, rfl⟩
  | act work next inductionHypothesis => exact inductionHypothesis state (never state) _
  | suspend abandon next inductionHypothesis => exact inductionHypothesis never state
  | hang abandon => cases never

/-- A task that never hangs comes to its end if it is polled often enough. -/
theorem exists_hasEnded
    (never : task.NeverHangs)
    (state : σ) :
    ∃ count, ((Job.fresh task).pollTimes state count).result.hasEnded := by
  obtain ⟨count, settled⟩ := Job.settles_fresh task state
  refine ⟨count, ?_⟩
  have sameFate := congrArg Run.result (settled 0)
  change ((Job.fresh task).pollTimes state count).result.fate = _ at sameFate
  generalize ((Job.fresh task).pollTimes state count).result = job at sameFate ⊢
  rcases never.result_settle state with ⟨value, finished⟩ | ⟨message, panicked⟩
  · rw [finished] at sameFate
    cases job <;> first | rfl | cases sameFate
  · rw [panicked] at sameFate
    cases job <;> first | rfl | cases sameFate

end NeverHangs

end Task

end Middleware
