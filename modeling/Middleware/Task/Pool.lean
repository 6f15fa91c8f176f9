import Middleware.Task.Job

namespace Middleware

/-!
# Pools of jobs

Several jobs that share one state. Only one of them runs at a time, and it
gives way to another at its suspensions only, so a run of a pool is a list of
turns, each of which polls or drops one job.
-/

/-- What a driver does next: poll one job or drop one job. -/
inductive Turn where
  | poll (index : Nat)
  | drop (index : Nat)
deriving DecidableEq, Repr

/-- The job that a turn is about. -/
def Turn.index : Turn → Nat
  | .poll index => index
  | .drop index => index

/-- Jobs that share one state. -/
abbrev Pool (σ ο α : Type) : Type :=
  List (Job σ ο α)

namespace Pool

variable {σ ο α : Type}

/-- Take one turn; a turn of an absent job does nothing. -/
def take
    (pool : Pool σ ο α)
    (turn : Turn)
    (state : σ) :
    Run σ ο (Pool σ ο α) :=
  match pool[turn.index]? with
  | none => ⟨[], state, pool⟩
  | some job =>
      let run :=
        match turn with
        | .poll _ => job.poll state
        | .drop _ => job.drop state
      ⟨run.signals, run.state, pool.set turn.index run.result⟩

/-- Take turns in order; each signal is listed with the job that emitted it. -/
def follow
    (pool : Pool σ ο α)
    (state : σ) :
    List Turn →
    Run σ (Nat × ο) (Pool σ ο α)
  | [] => ⟨[], state, pool⟩
  | turn :: rest =>
      let first := pool.take turn state
      let later := follow first.result first.state rest
      { later with
        signals := first.signals.map (turn.index, ·) ++ later.signals }

end Pool

end Middleware
