import Middleware.Proofs.Task.Undisturbed

namespace Middleware

/-!
# Suspensions

A job is pending after each poll that does not bring it to its end. How often that
happens to a task that finishes is how many resumptions it takes, whatever others do
to the state in the meantime. A task that is a sequence takes the resumptions of its
first task, and then those of its second; a scope takes no part in this.
-/

variable {σ ο ν α β : Type}

namespace Job

/-- How often a job is pending when it is polled once in each of a list of states. -/
def suspensions (job : Job σ ο α) : List σ → Nat
  | [] => 0
  | state :: later =>
      let next := (job.poll state).result
      (if next.hasEnded then 0 else 1) + next.suspensions later

theorem suspensions_of_hasEnded
    {job : Job σ ο α}
    (ended : job.hasEnded)
    (states : List σ) :
    job.suspensions states = 0 := by
  induction states with
  | nil => rfl
  | cons state later inductionHypothesis =>
      simp [suspensions, poll_of_hasEnded ended, ended, inductionHypothesis]

/-- Polled in some states, a job comes to a value exactly if the drive of its task does. -/
theorem pollIn_fresh_eq_finished_iff
    {task : Task σ ο α}
    {state : σ}
    {later : List σ}
    {value : α} :
    ((Job.fresh task).pollIn (state :: later)).2 = .finished value ↔
      ∃ left, (task.drive state later).result = .finished value left := by
  have lived :
      (Job.fresh task).live ⟨state :: later, none⟩ =
        (Job.fresh task).pollIn (state :: later) :=
    rfl
  rw [← lived]
  exact live_fresh_eq_finished_iff

end Job

namespace Task

/--
A task that is started in a state finishes after as many suspensions as there are
states in which it is resumed, and not before.
-/
structure FinishesAfter
    (task : Task σ ο α)
    (state : σ)
    (resumptions : List σ) :
    Prop where
  finishes : ∃ value, ((Job.fresh task).pollIn (state :: resumptions)).2 = .finished value
  suspensions : (Job.fresh task).suspensions (state :: resumptions) = resumptions.length

/-- A task that finishes takes some of the resumptions, and is suspended in front of each. -/
theorem exists_resumptions
    (task : Task σ ο α)
    {state : σ}
    {later left : List σ}
    {value : α}
    (finished : (task.drive state later).result = .finished value left) :
    ∃ resumptions,
      later = resumptions ++ left ∧
        task.drive state resumptions =
          ⟨(task.drive state later).signals, (task.drive state later).state,
            .finished value []⟩ ∧
        (Job.fresh task).suspensions (state :: later) = resumptions.length := by
  induction task generalizing state later with
  | done result =>
      cases finished
      refine ⟨[], rfl, rfl, ?_⟩
      change 0 + (Job.finished value : Job σ ο α).suspensions left = 0
      rw [Job.suspensions_of_hasEnded rfl left]
  | panic message => cases finished
  | act work next inductionHypothesis =>
      obtain ⟨resumptions, rfl, sameRun, suspensions⟩ :=
        inductionHypothesis state finished
      refine ⟨resumptions, rfl, ?_, suspensions⟩
      rw [drive, sameRun]
      rfl
  | suspend abandon next inductionHypothesis =>
      cases later with
      | nil => cases finished
      | cons resumed later =>
          obtain ⟨resumptions, rfl, sameRun, suspensions⟩ := inductionHypothesis finished
          refine ⟨resumed :: resumptions, rfl, sameRun, ?_⟩
          change 1 + (Job.fresh next).suspensions (resumed :: (resumptions ++ left)) = _
          rw [suspensions, List.length_cons, Nat.add_comm]
  | hang abandon => cases finished

/-- What a task takes of the resumptions when it finishes. -/
theorem exists_finishesAfter
    (task : Task σ ο α)
    {state : σ}
    {later left : List σ}
    {value : α}
    (finished : (task.drive state later).result = .finished value left) :
    ∃ resumptions, later = resumptions ++ left ∧ task.FinishesAfter state resumptions := by
  obtain ⟨resumptions, rfl, sameRun, _⟩ := task.exists_resumptions finished
  refine ⟨resumptions, rfl, ?_⟩
  have finishedExactly : (task.drive state resumptions).result = .finished value [] := by
    rw [sameRun]
  obtain ⟨_, sameResumptions, _, suspensions⟩ := task.exists_resumptions finishedExactly
  rw [List.append_nil] at sameResumptions
  constructor
  · exact ⟨value, Job.pollIn_fresh_eq_finished_iff.mpr ⟨[], finishedExactly⟩⟩
  · rw [suspensions, ← sameResumptions]

/-- A sequence whose first task finishes goes on as its second task. -/
theorem drive_bind_of_finished
    {task : Task σ ο α}
    {state : σ}
    {later left : List σ}
    {value : α}
    (finished : (task.drive state later).result = .finished value left)
    (next : α → Task σ ο β) :
    (task.bind next).drive state later =
      ((next value).drive (task.drive state later).state left).after
        (task.drive state later).signals := by
  rw [drive_bind]
  generalize task.drive state later = run at finished ⊢
  rcases run with ⟨signals, after, standing⟩
  cases finished
  rfl

/-- A sequence that finishes has finished its first task, and then its second. -/
theorem exists_of_finished_bind
    {task : Task σ ο α}
    {next : α → Task σ ο β}
    {state : σ}
    {later left : List σ}
    {value : β}
    (finished : ((task.bind next).drive state later).result = .finished value left) :
    ∃ middle between,
      (task.drive state later).result = .finished middle between ∧
        ((next middle).drive (task.drive state later).state between).result =
          .finished value left := by
  cases standing : (task.drive state later).result with
  | finished middle between =>
      rw [drive_bind_of_finished standing] at finished
      exact ⟨middle, between, rfl, finished⟩
  | panicked message =>
      rw [drive_bind, Run.andThen, standing] at finished
      cases finished
  | suspended abandon =>
      rw [drive_bind, Run.andThen, standing] at finished
      cases finished

/-- A scope that finishes has finished what is in it. -/
theorem finished_of_finished_guarded
    {close : Interruption → Burst σ ο}
    {task : Task σ ο α}
    {state : σ}
    {later left : List σ}
    {value : α}
    (finished : ((task.guarded close).drive state later).result = .finished value left) :
    (task.drive state later).result = .finished value left := by
  rw [drive_guarded] at finished
  generalize task.drive state later = run at finished ⊢
  rcases run with ⟨signals, after, standing⟩
  cases standing with
  | finished middle between => exact finished
  | panicked message => cases finished
  | suspended abandon => cases finished

/-- A task with its signals renamed finishes where the task does. -/
theorem finished_of_finished_relabel
    {rename : ν → ο}
    {task : Task σ ν α}
    {state : σ}
    {later left : List σ}
    {value : α}
    (finished : ((task.relabel rename).drive state later).result = .finished value left) :
    (task.drive state later).result = .finished value left := by
  rw [drive_relabel] at finished
  generalize task.drive state later = run at finished ⊢
  rcases run with ⟨signals, after, standing⟩
  cases standing with
  | finished middle between => cases finished; rfl
  | panicked message => cases finished
  | suspended abandon => cases finished

/-- A task that never hangs comes to its end, in whatever states it is polled. -/
theorem NeverHangs.exists_ended
    {task : Task σ ο α}
    (never : task.NeverHangs)
    (state : σ)
    (states : Nat → σ) :
    ∃ count,
      ((task.drive state ((List.range count).map states)).result).isSuspended = false := by
  induction task generalizing state states with
  | done value => exact ⟨0, rfl⟩
  | panic message => exact ⟨0, rfl⟩
  | act work next inductionHypothesis =>
      exact inductionHypothesis state (never state) (work state).2 states
  | suspend abandon next inductionHypothesis =>
      obtain ⟨count, ended⟩ :=
        inductionHypothesis never (states 0) fun position => states (position + 1)
      refine ⟨count + 1, ?_⟩
      rw [List.range_succ_eq_map, List.map_cons, List.map_map]
      exact ended
  | hang abandon => cases never

end Task

end Middleware
