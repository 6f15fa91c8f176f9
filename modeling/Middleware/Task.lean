namespace Middleware

/-!
# Tasks

A task is a computation that may suspend. It works on a shared state `σ`,
emits signals of a type `ο`, and ends with a value or with a panic. Between
two suspensions it runs without interruption; at a suspension whoever drives
it may resume it or drop it for good, and each suspension says what happens
when it is dropped there.

`Task.guarded` opens a scope: whatever way the task inside it is left other
than by finishing, a closing burst of the scope runs, inner scopes first.

A task is dropped by a thread that is not unwinding from a panic. A scope only
sees whether its thread unwinds, so it would take a drop during the unwinding of
another panic for a panic of its own task; there is no such drop here.
-/

/-- An uninterrupted piece of work: what it emits and the state it leaves. -/
abbrev Burst (σ ο : Type) : Type :=
  σ → List ο × σ

namespace Burst

variable {σ ο : Type}

/-- The burst that does nothing. -/
def silent : Burst σ ο :=
  fun state => ([], state)

/-- The burst that emits one signal. -/
def signal (emitted : ο) : Burst σ ο :=
  fun state => ([emitted], state)

/-- One burst after another. -/
def followedBy
    (first second : Burst σ ο) :
    Burst σ ο :=
  fun state =>
    let (earlier, state) := first state
    let (later, state) := second state
    (earlier ++ later, state)

/-- A burst with its signals renamed. -/
def relabel
    {ν : Type}
    (rename : ν → ο)
    (burst : Burst σ ν) :
    Burst σ ο :=
  fun state =>
    let (emitted, state) := burst state
    (emitted.map rename, state)

end Burst

/-- How a scope is left without finishing. -/
inductive Interruption where
  /-- The task was dropped, by a thread that was not unwinding. -/
  | cancelled
  /-- The task panicked. -/
  | panicked
deriving DecidableEq, Repr

/-- A computation that may suspend. -/
inductive Task (σ ο α : Type) where
  /-- The computation has ended with a value. -/
  | done (value : α)
  /-- The computation has ended with a panic. -/
  | panic (message : String)
  /-- Work without interruption, then go on in the light of the state found. -/
  | act (work : Burst σ ο) (next : σ → Task σ ο α)
  /-- Suspend once; `abandon` is what dropping the task here does. -/
  | suspend (abandon : Burst σ ο) (next : Task σ ο α)
  /-- Suspend for ever; `abandon` is what dropping the task here does. -/
  | hang (abandon : Burst σ ο)

namespace Task

variable {σ ο α β : Type}

/-- Run one task and then the task its value selects. -/
def bind
    (task : Task σ ο α)
    (next : α → Task σ ο β) :
    Task σ ο β :=
  match task with
  | .done value => next value
  | .panic message => .panic message
  | .act work rest => .act work fun state => (rest state).bind next
  | .suspend abandon rest => .suspend abandon (rest.bind next)
  | .hang abandon => .hang abandon

instance : Monad (Task σ ο) where
  pure := .done
  bind := bind

@[simp] theorem pure_eq_done
    (value : α) :
    (pure value : Task σ ο α) = .done value :=
  rfl

@[simp] theorem bind_eq_bind
    (task : Task σ ο α)
    (next : α → Task σ ο β) :
    task >>= next = task.bind next :=
  rfl

/-- Ending with the value found is no step of its own. -/
@[simp] theorem bind_done
    (task : Task σ ο α) :
    task.bind .done = task := by
  induction task with
  | done value => rfl
  | panic message => rfl
  | act work rest inductionHypothesis =>
      simp [bind, inductionHypothesis]
  | suspend abandon rest inductionHypothesis =>
      simp [bind, inductionHypothesis]
  | hang abandon => rfl

/-- Nested sequences of tasks may be regrouped. -/
theorem bind_assoc
    {γ : Type}
    (task : Task σ ο α)
    (middle : α → Task σ ο β)
    (last : β → Task σ ο γ) :
    (task.bind middle).bind last =
      task.bind fun value => (middle value).bind last := by
  induction task with
  | done value => rfl
  | panic message => rfl
  | act work rest inductionHypothesis =>
      simp [bind, inductionHypothesis]
  | suspend abandon rest inductionHypothesis =>
      simp [bind, inductionHypothesis]
  | hang abandon => rfl

instance : LawfulMonad (Task σ ο) :=
  LawfulMonad.mk' (Task σ ο)
    bind_done
    (fun _ _ => rfl)
    bind_assoc

/-- Work without interruption. -/
def perform (work : Burst σ ο) : Task σ ο Unit :=
  .act work fun _ => .done ()

/-- Emit one signal. -/
def emit (signal : ο) : Task σ ο Unit :=
  perform (.signal signal)

/-- The shared state as it is found. -/
def state : Task σ ο σ :=
  .act .silent .done

/-- Suspend once, with nothing to be done if dropped here. -/
def pause : Task σ ο Unit :=
  .suspend .silent (.done ())

/-- Run a task with its signals renamed. -/
def relabel
    {ν : Type}
    (rename : ν → ο) :
    Task σ ν α →
    Task σ ο α
  | .done value => .done value
  | .panic message => .panic message
  | .act work next => .act (work.relabel rename) fun state => (next state).relabel rename
  | .suspend abandon next => .suspend (abandon.relabel rename) (next.relabel rename)
  | .hang abandon => .hang (abandon.relabel rename)

/--
Run a task in a scope whose closing burst runs if the task does not finish. A panic of the
task leaves the scope as panicked. A drop leaves it as cancelled, since the thread that
drops the task is not unwinding already.
-/
def guarded
    (close : Interruption → Burst σ ο) :
    Task σ ο α →
    Task σ ο α
  | .done value => .done value
  | .panic message => .act (close .panicked) fun _ => .panic message
  | .act work next => .act work fun state => (next state).guarded close
  | .suspend abandon next =>
      .suspend (abandon.followedBy (close .cancelled)) (next.guarded close)
  | .hang abandon => .hang (abandon.followedBy (close .cancelled))

/-- Renaming the signals of a sequence renames those of its tasks. -/
theorem relabel_bind
    {ν : Type}
    (rename : ν → ο)
    (task : Task σ ν α)
    (next : α → Task σ ν β) :
    (task.bind next).relabel rename =
      (task.relabel rename).bind fun value => (next value).relabel rename := by
  induction task with
  | done value => rfl
  | panic message => rfl
  | act work rest inductionHypothesis =>
      simp [bind, relabel, inductionHypothesis]
  | suspend abandon rest inductionHypothesis =>
      simp [bind, relabel, inductionHypothesis]
  | hang abandon => rfl

/-- Signals that are renamed twice are renamed once. -/
theorem relabel_relabel
    {ν ξ : Type}
    (first : ξ → ν)
    (second : ν → ο)
    (task : Task σ ξ α) :
    (task.relabel first).relabel second = task.relabel (second ∘ first) := by
  have renamedTwice :
      ∀ burst : Burst σ ξ,
        (burst.relabel first).relabel second = burst.relabel (second ∘ first) := by
    intro burst
    funext state
    simp [Burst.relabel]
  induction task with
  | done value => rfl
  | panic message => rfl
  | act work rest inductionHypothesis =>
      simp [relabel, renamedTwice, inductionHypothesis]
  | suspend abandon rest inductionHypothesis =>
      simp [relabel, renamedTwice, inductionHypothesis]
  | hang abandon => simp [relabel, renamedTwice]

/-- Renaming the signals of a scope renames those of its task and of its closing burst. -/
theorem relabel_guarded
    {ν : Type}
    (rename : ν → ο)
    (close : Interruption → Burst σ ν)
    (task : Task σ ν α) :
    (task.guarded close).relabel rename =
      (task.relabel rename).guarded fun interruption => (close interruption).relabel rename := by
  have renamedInTurn :
      ∀ first second : Burst σ ν,
        (first.followedBy second).relabel rename =
          (first.relabel rename).followedBy (second.relabel rename) := by
    intro first second
    funext state
    simp [Burst.relabel, Burst.followedBy]
  induction task with
  | done value => rfl
  | panic message => rfl
  | act work rest inductionHypothesis =>
      simp [guarded, relabel, inductionHypothesis]
  | suspend abandon rest inductionHypothesis =>
      simp [guarded, relabel, renamedInTurn, inductionHypothesis]
  | hang abandon => simp [guarded, relabel, renamedInTurn]

/-- Run a task straight through its suspensions; it still hangs where it hangs for ever. -/
def withoutPauses : Task σ ο α → Task σ ο α
  | .done value => .done value
  | .panic message => .panic message
  | .act work next => .act work fun state => (next state).withoutPauses
  | .suspend _ next => next.withoutPauses
  | .hang abandon => .hang abandon

end Task

end Middleware
