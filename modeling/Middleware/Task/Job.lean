import Middleware.Task

namespace Middleware

/-!
# Driving a task

A job is a task in the hands of a driver. Polling a job runs its task up to
the next suspension, its end or its panic; dropping a job runs what its last
suspension says about being dropped. A job that was never polled has nothing
to clean up, and one that has ended ignores both. One that has suspended for
ever stays as it is until it is dropped.

The thread that drops a job is not unwinding from a panic at that time.
-/

/-- What an uninterrupted run emits, the state it leaves and its result. -/
structure Run (σ ο α : Type) where
  signals : List ο
  state : σ
  result : α

/-- A task in the hands of a driver. -/
inductive Job (σ ο α : Type) where
  /-- Never polled. -/
  | fresh (task : Task σ ο α)
  /-- Suspended, with the rest of the task to be run when polled again. -/
  | waiting (abandon : Burst σ ο) (rest : Task σ ο α)
  /-- Suspended for ever. -/
  | stuck (abandon : Burst σ ο)
  | finished (value : α)
  | panicked (message : String)
  | dropped

/-- Run a task up to its next suspension, its end or its panic. -/
def Task.poll
    {σ ο α : Type} :
    Task σ ο α →
    σ →
    Run σ ο (Job σ ο α)
  | .done value, state => ⟨[], state, .finished value⟩
  | .panic message, state => ⟨[], state, .panicked message⟩
  | .act work next, state =>
      let (emitted, after) := work state
      let run := (next state).poll after
      { run with signals := emitted ++ run.signals }
  | .suspend abandon next, state => ⟨[], state, .waiting abandon next⟩
  | .hang abandon, state => ⟨[], state, .stuck abandon⟩

namespace Job

variable {σ ο α : Type}

/-- Run a job up to the next suspension, its end or its panic. -/
def poll
    (job : Job σ ο α)
    (state : σ) :
    Run σ ο (Job σ ο α) :=
  match job with
  | .fresh task => task.poll state
  | .waiting _ rest => rest.poll state
  | ended => ⟨[], state, ended⟩

/--
Drop a job on a thread that is not unwinding from a panic, so that the scopes left by the
drop are left as cancelled.
-/
def drop
    (job : Job σ ο α)
    (state : σ) :
    Run σ ο (Job σ ο α) :=
  match job with
  | .fresh _ => ⟨[], state, .dropped⟩
  | .waiting abandon _ | .stuck abandon =>
      let (emitted, state) := abandon state
      ⟨emitted, state, .dropped⟩
  | ended => ⟨[], state, ended⟩

/-- Poll a job a number of times. -/
def pollTimes
    (job : Job σ ο α)
    (state : σ) :
    Nat →
    Run σ ο (Job σ ο α)
  | 0 => ⟨[], state, job⟩
  | count + 1 =>
      let first := job.poll state
      let rest := first.result.pollTimes first.state count
      { rest with signals := first.signals ++ rest.signals }

/-- Whether a job has suspended and can still go on. -/
def isWaiting : Job σ ο α → Bool
  | .waiting _ _ => true
  | _ => false

/-- Whether a job has suspended for ever. -/
def isStuck : Job σ ο α → Bool
  | .stuck _ => true
  | _ => false

end Job

end Middleware
