import Middleware.Proofs.Task.Life

namespace Middleware

/-!
# What a task may emit

If everything that a task does when it is resumed or dropped keeps to signals of some
kind, then so does every life of the task.
-/

variable {σ ο ν α β : Type}
variable {allowed : ο → Prop}

/-- In whatever state a burst runs, it emits allowed signals only. -/
def Burst.EmitsOnly
    (allowed : ο → Prop)
    (burst : Burst σ ο) :
    Prop :=
  ∀ state, ∀ signal ∈ (burst state).1, allowed signal

theorem Burst.EmitsOnly.followedBy
    {first second : Burst σ ο}
    (firstEmits : first.EmitsOnly allowed)
    (secondEmits : second.EmitsOnly allowed) :
    (first.followedBy second).EmitsOnly allowed := by
  intro state signal emitted
  rcases List.mem_append.mp emitted with inFirst | inSecond
  · exact firstEmits state signal inFirst
  · exact secondEmits _ signal inSecond

theorem Burst.EmitsOnly.relabel
    {rename : ν → ο}
    (renamed : ∀ signal, allowed (rename signal))
    (burst : Burst σ ν) :
    (burst.relabel rename).EmitsOnly allowed := by
  intro state signal emitted
  obtain ⟨before, _, rfl⟩ := List.mem_map.mp emitted
  exact renamed before

namespace Task

/-- Wherever a task is resumed or dropped, it emits allowed signals only. -/
inductive EmitsOnly (allowed : ο → Prop) : Task σ ο α → Prop where
  | done (value : α) :
      EmitsOnly allowed (.done value)
  | panic (message : String) :
      EmitsOnly allowed (.panic message)
  | act
      {work : Burst σ ο}
      {next : σ → Task σ ο α}
      (works : work.EmitsOnly allowed)
      (goesOn : ∀ state, EmitsOnly allowed (next state)) :
      EmitsOnly allowed (.act work next)
  | suspend
      {abandon : Burst σ ο}
      {next : Task σ ο α}
      (abandons : abandon.EmitsOnly allowed)
      (goesOn : EmitsOnly allowed next) :
      EmitsOnly allowed (.suspend abandon next)
  | hang
      {abandon : Burst σ ο}
      (abandons : abandon.EmitsOnly allowed) :
      EmitsOnly allowed (.hang abandon)

namespace EmitsOnly

variable {task : Task σ ο α}

theorem perform
    {work : Burst σ ο}
    (works : work.EmitsOnly allowed) :
    (Task.perform work).EmitsOnly allowed :=
  .act works fun _ => .done ()

theorem emit
    {signal : ο}
    (isAllowed : allowed signal) :
    (Task.emit signal : Task σ ο Unit).EmitsOnly allowed :=
  perform fun _ => List.forall_mem_singleton.mpr isAllowed

theorem bind
    (first : task.EmitsOnly allowed)
    {next : α → Task σ ο β}
    (second : ∀ value, (next value).EmitsOnly allowed) :
    (task.bind next).EmitsOnly allowed := by
  induction first with
  | done value => exact second value
  | panic message => exact .panic message
  | act works _ inductionHypothesis => exact .act works inductionHypothesis
  | suspend abandons _ inductionHypothesis => exact .suspend abandons inductionHypothesis
  | hang abandons => exact .hang abandons

theorem guarded
    (emits : task.EmitsOnly allowed)
    {close : Interruption → Burst σ ο}
    (closes : ∀ interruption, (close interruption).EmitsOnly allowed) :
    (task.guarded close).EmitsOnly allowed := by
  induction emits with
  | done value => exact .done value
  | panic message => exact .act (closes .panicked) fun _ => .panic message
  | act works _ inductionHypothesis => exact .act works inductionHypothesis
  | suspend abandons _ inductionHypothesis =>
      exact .suspend (abandons.followedBy (closes .cancelled)) inductionHypothesis
  | hang abandons => exact .hang (abandons.followedBy (closes .cancelled))

theorem relabel
    {rename : ν → ο}
    (renamed : ∀ signal, allowed (rename signal))
    (task : Task σ ν α) :
    (task.relabel rename).EmitsOnly allowed := by
  induction task with
  | done value => exact .done value
  | panic message => exact .panic message
  | act work _ inductionHypothesis => exact .act (.relabel renamed work) inductionHypothesis
  | suspend abandon _ inductionHypothesis =>
      exact .suspend (.relabel renamed abandon) inductionHypothesis
  | hang abandon => exact .hang (.relabel renamed abandon)

theorem withoutPauses (emits : task.EmitsOnly allowed) : task.withoutPauses.EmitsOnly allowed := by
  induction emits with
  | done value => exact .done value
  | panic message => exact .panic message
  | act works _ inductionHypothesis => exact .act works inductionHypothesis
  | suspend _ _ inductionHypothesis => exact inductionHypothesis
  | hang abandons => exact .hang abandons

/-- What is emitted up to the next suspension. -/
theorem poll
    (emits : task.EmitsOnly allowed)
    (state : σ) :
    ∀ signal ∈ (task.poll state).signals, allowed signal := by
  induction emits generalizing state with
  | done value => exact List.forall_mem_nil _
  | panic message => exact List.forall_mem_nil _
  | @act work next works goesOn inductionHypothesis =>
      intro signal emitted
      rcases List.mem_append.mp emitted with first | rest
      · exact works state signal first
      · exact inductionHypothesis state (work state).2 signal rest
  | suspend abandons goesOn => exact List.forall_mem_nil _
  | hang abandons => exact List.forall_mem_nil _

/-- What is emitted in a drive and, where the task is dropped, after it. -/
theorem drive
    (emits : task.EmitsOnly allowed)
    (state : σ)
    (later : List σ)
    (dropped : Option σ) :
    ∀ signal ∈
        (task.drive state later).signals ++ (task.drive state later).result.closing dropped,
      allowed signal := by
  have closes :
      ∀ {abandon : Burst σ ο},
        abandon.EmitsOnly allowed →
          ∀ signal ∈ (Standing.suspended abandon : Standing σ ο α).closing dropped,
            allowed signal := by
    intro abandon abandons
    cases dropped with
    | none => exact List.forall_mem_nil _
    | some state => exact abandons state
  induction emits generalizing state later with
  | done value => exact List.forall_mem_nil _
  | panic message => exact List.forall_mem_nil _
  | @act work next works goesOn inductionHypothesis =>
      intro signal emitted
      rw [Task.drive, Run.signals_after, List.append_assoc, List.mem_append] at emitted
      rcases emitted with first | rest
      · exact works state signal first
      · exact inductionHypothesis state (work state).2 later signal rest
  | suspend abandons goesOn inductionHypothesis =>
      cases later with
      | nil => exact closes abandons
      | cons resumed later => exact inductionHypothesis resumed later
  | hang abandons => exact closes abandons

/-- Whatever life a task leads, it emits allowed signals only. -/
theorem live
    (emits : task.EmitsOnly allowed)
    (life : Life σ) :
    ∀ signal ∈ ((Job.fresh task).live life).1, allowed signal := by
  rcases life with ⟨polls, dropped⟩
  cases polls with
  | nil =>
      rw [Job.live_unpolled]
      exact List.forall_mem_nil _
  | cons state later =>
      rw [Job.live_fresh]
      exact emits.drive state later dropped

end EmitsOnly

end Task

end Middleware
