import Middleware.Task.Job

namespace Middleware

/-!
# Driving a task among others

A task that shares its state with others finds whatever they have left at each
of its resumptions. To drive a task means to start it in one state and to
resume it in each of a list of later states, which may be any states at all.

Driving commutes with the ways in which tasks are put together: sequencing,
scopes and renaming of signals. What a job does when it is polled and dropped
is read off the drive of its task.
-/

/-- Where a driven task stands. -/
inductive Standing (σ ο α : Type) where
  /-- The task has ended with a value; the resumptions that are left were not needed. -/
  | finished (value : α) (left : List σ)
  /-- The task has ended with a panic. -/
  | panicked (message : String)
  /-- The task is suspended; `abandon` is what dropping it here does. -/
  | suspended (abandon : Burst σ ο)

variable {σ ο ν α β : Type}

namespace Run

/-- A run with signals that were emitted before it. -/
def after
    (run : Run σ ο α)
    (earlier : List ο) :
    Run σ ο α :=
  { run with signals := earlier ++ run.signals }

@[simp] theorem signals_after
    (run : Run σ ο α)
    (earlier : List ο) :
    (run.after earlier).signals = earlier ++ run.signals :=
  rfl

@[simp] theorem state_after
    (run : Run σ ο α)
    (earlier : List ο) :
    (run.after earlier).state = run.state :=
  rfl

@[simp] theorem result_after
    (run : Run σ ο α)
    (earlier : List ο) :
    (run.after earlier).result = run.result :=
  rfl

@[simp] theorem after_nil
    (run : Run σ ο α) :
    run.after [] = run :=
  rfl

@[simp] theorem after_after
    (run : Run σ ο α)
    (first second : List ο) :
    (run.after second).after first = run.after (first ++ second) := by
  simp [after]

end Run

/-- Start a task in a state and resume it in each of the later states, as far as it goes. -/
def Task.drive :
    Task σ ο α →
    σ →
    List σ →
    Run σ ο (Standing σ ο α)
  | .done value, state, later => ⟨[], state, .finished value later⟩
  | .panic message, state, _ => ⟨[], state, .panicked message⟩
  | .act work next, state, later =>
      ((next state).drive (work state).2 later).after (work state).1
  | .suspend abandon _, state, [] => ⟨[], state, .suspended abandon⟩
  | .suspend _ next, _, resumed :: later => next.drive resumed later
  | .hang abandon, state, _ => ⟨[], state, .suspended abandon⟩

namespace Run

/-- Go on with the task that the value of a finished run selects. -/
def andThen
    (run : Run σ ο (Standing σ ο α))
    (next : α → Task σ ο β) :
    Run σ ο (Standing σ ο β) :=
  match run.result with
  | .finished value left => ((next value).drive run.state left).after run.signals
  | .panicked message => ⟨run.signals, run.state, .panicked message⟩
  | .suspended abandon => ⟨run.signals, run.state, .suspended abandon⟩

/-- A run inside a scope, whose closing burst runs unless the run finishes. -/
def guarded
    (close : Interruption → Burst σ ο)
    (run : Run σ ο (Standing σ ο α)) :
    Run σ ο (Standing σ ο α) :=
  match run.result with
  | .finished value left => ⟨run.signals, run.state, .finished value left⟩
  | .panicked message =>
      ⟨run.signals ++ (close .panicked run.state).1,
        (close .panicked run.state).2,
        .panicked message⟩
  | .suspended abandon =>
      ⟨run.signals, run.state, .suspended (abandon.followedBy (close .cancelled))⟩

/-- A run with its signals renamed. -/
def relabel
    (rename : ν → ο)
    (run : Run σ ν (Standing σ ν α)) :
    Run σ ο (Standing σ ο α) :=
  match run.result with
  | .finished value left => ⟨run.signals.map rename, run.state, .finished value left⟩
  | .panicked message => ⟨run.signals.map rename, run.state, .panicked message⟩
  | .suspended abandon =>
      ⟨run.signals.map rename, run.state, .suspended (abandon.relabel rename)⟩

@[simp] theorem andThen_finished
    (signals : List ο)
    (state : σ)
    (value : α)
    (left : List σ)
    (next : α → Task σ ο β) :
    (⟨signals, state, .finished value left⟩ : Run σ ο (Standing σ ο α)).andThen next =
      ((next value).drive state left).after signals :=
  rfl

@[simp] theorem andThen_panicked
    (signals : List ο)
    (state : σ)
    (message : String)
    (next : α → Task σ ο β) :
    (⟨signals, state, .panicked message⟩ : Run σ ο (Standing σ ο α)).andThen next =
      ⟨signals, state, .panicked message⟩ :=
  rfl

@[simp] theorem andThen_suspended
    (signals : List ο)
    (state : σ)
    (abandon : Burst σ ο)
    (next : α → Task σ ο β) :
    (⟨signals, state, .suspended abandon⟩ : Run σ ο (Standing σ ο α)).andThen next =
      ⟨signals, state, .suspended abandon⟩ :=
  rfl

theorem andThen_after
    (run : Run σ ο (Standing σ ο α))
    (earlier : List ο)
    (next : α → Task σ ο β) :
    (run.after earlier).andThen next = (run.andThen next).after earlier := by
  rcases run with ⟨signals, state, standing⟩
  cases standing <;> simp [andThen, after]

theorem guarded_after
    (close : Interruption → Burst σ ο)
    (run : Run σ ο (Standing σ ο α))
    (earlier : List ο) :
    (run.after earlier).guarded close = (run.guarded close).after earlier := by
  rcases run with ⟨signals, state, standing⟩
  cases standing <;> simp [guarded, after]

theorem relabel_after
    (rename : ν → ο)
    (run : Run σ ν (Standing σ ν α))
    (earlier : List ν) :
    (run.after earlier).relabel rename =
      (run.relabel rename).after (earlier.map rename) := by
  rcases run with ⟨signals, state, standing⟩
  cases standing <;> simp [relabel, after]

end Run

namespace Task

@[simp] theorem drive_done
    (value : α)
    (state : σ)
    (later : List σ) :
    (Task.done value : Task σ ο α).drive state later =
      ⟨[], state, .finished value later⟩ :=
  rfl

@[simp] theorem drive_perform
    (work : Burst σ ο)
    (state : σ)
    (later : List σ) :
    (perform work).drive state later =
      ⟨(work state).1, (work state).2, .finished () later⟩ := by
  simp [perform, drive, Run.after]

@[simp] theorem drive_emit
    (signal : ο)
    (state : σ)
    (later : List σ) :
    (emit signal : Task σ ο Unit).drive state later =
      ⟨[signal], state, .finished () later⟩ := by
  simp [emit, Burst.signal]

/-- A sequence of two tasks is driven as its first task, and then as its second. -/
theorem drive_bind
    (task : Task σ ο α)
    (next : α → Task σ ο β)
    (state : σ)
    (later : List σ) :
    (task.bind next).drive state later =
      (task.drive state later).andThen next := by
  induction task generalizing state later with
  | done value =>
      simp [bind, Run.andThen]
  | panic message =>
      rfl
  | act work rest inductionHypothesis =>
      simp only [bind, drive]
      rw [inductionHypothesis, Run.andThen_after]
  | suspend abandon rest inductionHypothesis =>
      cases later with
      | nil => rfl
      | cons resumed later =>
          simp only [bind, drive]
          exact inductionHypothesis resumed later
  | hang abandon =>
      rfl

/-- A task in a scope is driven as the task, and the scope closes what does not finish. -/
theorem drive_guarded
    (close : Interruption → Burst σ ο)
    (task : Task σ ο α)
    (state : σ)
    (later : List σ) :
    (task.guarded close).drive state later =
      (task.drive state later).guarded close := by
  induction task generalizing state later with
  | done value =>
      rfl
  | panic message =>
      simp [Task.guarded, drive, Run.guarded, Run.after]
  | act work rest inductionHypothesis =>
      simp only [Task.guarded, drive]
      rw [inductionHypothesis, Run.guarded_after]
  | suspend abandon rest inductionHypothesis =>
      cases later with
      | nil => rfl
      | cons resumed later =>
          simp only [Task.guarded, drive]
          exact inductionHypothesis resumed later
  | hang abandon =>
      rfl

/-- Renaming the signals of a task renames the signals of its drive. -/
theorem drive_relabel
    (rename : ν → ο)
    (task : Task σ ν α)
    (state : σ)
    (later : List σ) :
    (task.relabel rename).drive state later =
      (task.drive state later).relabel rename := by
  induction task generalizing state later with
  | done value =>
      rfl
  | panic message =>
      rfl
  | act work rest inductionHypothesis =>
      simp only [Task.relabel, drive]
      rw [inductionHypothesis, Run.relabel_after]
      simp [Burst.relabel]
  | suspend abandon rest inductionHypothesis =>
      cases later with
      | nil => rfl
      | cons resumed later =>
          simp only [Task.relabel, drive]
          exact inductionHypothesis resumed later
  | hang abandon =>
      rfl

end Task

end Middleware
