import Middleware.Proofs.Chain.Course
import Middleware.Proofs.Task.Suspension

namespace Middleware

/-!
# The suspensions of a chain

A chain is suspended where the hook is that it has called, or the transport, and
nowhere else. So the resumptions that a run takes are those of its calls one after
another: each call takes as many as the task that it starts does by itself, if this
task is started and resumed in the same states.
-/

variable {σ ν ι κ α β : Type}

/-- Whatever calls come back with, the calls among signals are those of each part. -/
theorem map_fst_callsIn_append
    (first second : List (Signal ν)) :
    (callsIn (first ++ second)).map Prod.fst =
      (callsIn first).map Prod.fst ++ (callsIn second).map Prod.fst := by
  induction first with
  | nil => rfl
  | cons signal rest inductionHypothesis =>
      cases signal <;> simp [callsIn, inductionHypothesis]

/-- The calls that a driven task makes, each with the state in which it makes it. -/
def Task.madeCalls : Task σ (Signal ν) α → σ → List σ → List (Call × σ)
  | .done _, _, _ => []
  | .panic _, _, _ => []
  | .act work next, state, later =>
      ((callsIn (work state).1).map fun made => (made.1, state)) ++
        (next state).madeCalls (work state).2 later
  | .suspend _ _, _, [] => []
  | .suspend _ next, _, resumed :: later => next.madeCalls resumed later
  | .hang _, _, _ => []

/-- A call that has come back: the state in which it was made, and those in which it was resumed. -/
structure ServedCall (σ : Type) where
  call : Call
  made : σ
  resumptions : List σ

/--
Whenever a task finishes, its calls account for the resumptions that it takes: these
are the resumptions of the calls in their order, and the calls meet a condition.
-/
def Task.AccountedBy
    (task : Task σ (Signal ν) α)
    (accepts : List (ServedCall σ) → Prop) :
    Prop :=
  ∀ state later value left,
    (task.drive state later).result = .finished value left →
      ∃ served,
        accepts served ∧
          later = served.flatMap ServedCall.resumptions ++ left ∧
          task.madeCalls state later = served.map fun call => (call.call, call.made)

namespace Task

/-- What a driven task shows of its calls are the calls that it makes. -/
theorem map_fst_madeCalls
    (task : Task σ (Signal ν) α)
    (state : σ)
    (later : List σ) :
    (task.madeCalls state later).map Prod.fst =
      (callsIn (task.drive state later).signals).map Prod.fst := by
  induction task generalizing state later with
  | done value => rfl
  | panic message => rfl
  | act work next inductionHypothesis =>
      rw [madeCalls, drive, Run.signals_after, map_fst_callsIn_append, List.map_append,
        inductionHypothesis, List.map_map]
      rfl
  | suspend abandon next inductionHypothesis =>
      cases later with
      | nil => rfl
      | cons resumed later => exact inductionHypothesis resumed later
  | hang abandon => rfl

/-- A sequence whose first task finishes makes the calls of this task, and then those of the second. -/
theorem madeCalls_bind
    {task : Task σ (Signal ν) α}
    {next : α → Task σ (Signal ν) β}
    {state : σ}
    {later left : List σ}
    {value : α}
    (finished : (task.drive state later).result = .finished value left) :
    (task.bind next).madeCalls state later =
      task.madeCalls state later ++
        (next value).madeCalls (task.drive state later).state left := by
  induction task generalizing state later with
  | done result =>
      cases finished
      rfl
  | panic message => cases finished
  | act work rest inductionHypothesis =>
      simp only [bind, madeCalls]
      rw [inductionHypothesis _ finished, List.append_assoc]
      rfl
  | suspend abandon rest inductionHypothesis =>
      cases later with
      | nil => cases finished
      | cons resumed later => exact inductionHypothesis finished
  | hang abandon => cases finished

/-- A scope that finishes makes the calls of what is in it. -/
theorem madeCalls_guarded
    {close : Interruption → Burst σ (Signal ν)}
    {task : Task σ (Signal ν) α}
    {state : σ}
    {later left : List σ}
    {value : α}
    (finished : (task.drive state later).result = .finished value left) :
    (task.guarded close).madeCalls state later = task.madeCalls state later := by
  induction task generalizing state later with
  | done result => rfl
  | panic message => cases finished
  | act work rest inductionHypothesis =>
      simp only [guarded, madeCalls]
      rw [inductionHypothesis _ finished]
  | suspend abandon rest inductionHypothesis =>
      cases later with
      | nil => cases finished
      | cons resumed later => exact inductionHypothesis finished
  | hang abandon => cases finished

theorem callsIn_notes (notes : List ν) :
    callsIn (notes.map Signal.note) = [] := by
  induction notes with
  | nil => rfl
  | cons note rest inductionHypothesis => exact inductionHypothesis

/-- A hook or a transport makes no call of its own. -/
theorem madeCalls_relabel_note
    (task : Task σ ν α)
    (state : σ)
    (later : List σ) :
    (task.relabel Signal.note).madeCalls state later = [] := by
  induction task generalizing state later with
  | done value => rfl
  | panic message => rfl
  | act work next inductionHypothesis =>
      simp only [relabel, madeCalls, Burst.relabel, callsIn_notes, inductionHypothesis]
      rfl
  | suspend abandon next inductionHypothesis =>
      cases later with
      | nil => rfl
      | cons resumed later => exact inductionHypothesis resumed later
  | hang abandon => rfl

namespace AccountedBy

variable {accepts first second : List (ServedCall σ) → Prop}

theorem done (value : α) :
    (Task.done value : Task σ (Signal ν) α).AccountedBy (· = []) := by
  intro state later result left finished
  cases finished
  exact ⟨[], rfl, rfl, rfl⟩

/-- Work that makes no call takes no resumption. -/
theorem perform
    {work : Burst σ (Signal ν)}
    (noCalls : ∀ state, callsIn (work state).1 = []) :
    (Task.perform work).AccountedBy (· = []) := by
  intro state later result left finished
  rw [drive_perform] at finished
  cases finished
  refine ⟨[], rfl, rfl, ?_⟩
  rw [Task.perform, madeCalls, noCalls]
  rfl

theorem bind
    {task : Task σ (Signal ν) α}
    {next : α → Task σ (Signal ν) β}
    (taskAccounted : task.AccountedBy first)
    (nextAccounted : ∀ value, (next value).AccountedBy second) :
    (task.bind next).AccountedBy fun served =>
      ∃ earlier later, served = earlier ++ later ∧ first earlier ∧ second later := by
  intro state later result left finished
  obtain ⟨middle, between, taskFinished, nextFinished⟩ := exists_of_finished_bind finished
  obtain ⟨earlier, earlierAccepted, rfl, earlierMade⟩ :=
    taskAccounted state later middle between taskFinished
  obtain ⟨served, accepted, rfl, made⟩ := nextAccounted middle _ between result left nextFinished
  refine ⟨earlier ++ served, ⟨earlier, served, rfl, earlierAccepted, accepted⟩, ?_, ?_⟩
  · rw [List.flatMap_append, List.append_assoc]
  · rw [madeCalls_bind taskFinished, earlierMade, made, List.map_append]

theorem guarded
    {task : Task σ (Signal ν) α}
    (accounted : task.AccountedBy accepts)
    (close : Interruption → Burst σ (Signal ν)) :
    (task.guarded close).AccountedBy accepts := by
  intro state later result left finished
  have inside := finished_of_finished_guarded finished
  rw [madeCalls_guarded inside]
  exact accounted state later result left inside

theorem mono
    {task : Task σ (Signal ν) α}
    (accounted : task.AccountedBy first)
    (weaker : ∀ served, first served → second served) :
    task.AccountedBy second := by
  intro state later result left finished
  obtain ⟨served, accepted, resumed, made⟩ := accounted state later result left finished
  exact ⟨served, weaker served accepted, resumed, made⟩

/-- What follows a task and makes no call changes nothing. -/
theorem bind_quiet
    {task : Task σ (Signal ν) α}
    {next : α → Task σ (Signal ν) β}
    (taskAccounted : task.AccountedBy accepts)
    (quiet : ∀ value, (next value).AccountedBy (· = [])) :
    (task.bind next).AccountedBy accepts := by
  refine (taskAccounted.bind quiet).mono ?_
  rintro _ ⟨earlier, _, rfl, accepted, rfl⟩
  rwa [List.append_nil]

/-- What makes no call in front of a task changes nothing. -/
theorem quiet_bind
    {task : Task σ (Signal ν) α}
    {next : α → Task σ (Signal ν) β}
    (quiet : task.AccountedBy (· = []))
    (nextAccounted : ∀ value, (next value).AccountedBy accepts) :
    (task.bind next).AccountedBy accepts := by
  refine (quiet.bind nextAccounted).mono ?_
  rintro _ ⟨_, later, rfl, rfl, accepted⟩
  exact accepted

end AccountedBy

/-- The calls are one call, which has taken the resumptions that its task takes by itself. -/
def ServesCall
    (task : Task σ ν α)
    (call : Call)
    (served : List (ServedCall σ)) :
    Prop :=
  ∃ made resumptions,
    served = [⟨call, made, resumptions⟩] ∧ task.FinishesAfter made resumptions

/-- A call is accounted for by itself, where what follows it does what its task does. -/
theorem accountedBy_call
    (call : Call)
    {task : Task σ ν α}
    {body : Task σ (Signal ν) α}
    (does :
      ∀ state later value left,
        (body.drive state later).result = .finished value left →
          (task.drive state later).result = .finished value left ∧
            body.madeCalls state later = []) :
    ((Task.emit (.call call)).bind fun _ => body).AccountedBy (task.ServesCall call) := by
  intro state later result left finished
  rw [drive_bind, drive_emit, Run.andThen_finished, Run.result_after] at finished
  obtain ⟨taskFinished, noCalls⟩ := does state later result left finished
  obtain ⟨resumptions, rfl, finishesAfter⟩ := task.exists_finishesAfter taskFinished
  refine ⟨[⟨call, state, resumptions⟩], ⟨state, resumptions, rfl, finishesAfter⟩, by simp, ?_⟩
  change (call, state) :: (body.madeCalls state (resumptions ++ left)) = _
  rw [noCalls]
  rfl

end Task

/-- Reporting an event makes no call. -/
theorem Reporter.callsIn_report
    (reporter : Reporter σ ν)
    (event : Event)
    (state : σ) :
    callsIn (reporter.report event state).1 = [] := by
  rw [← callsIn_outline, outline_report]
  rfl

namespace Chain

/--
The calls of hooks in their order, as far as they go. Each has taken the resumptions
that the task takes which the hook starts on what it is handed.
-/
inductive Serves (chain : Chain σ ν ι κ) :
    List (Entry σ ν ι) →
    List (ServedCall σ) →
    Prop where
  | none (entries : List (Entry σ ν ι)) :
      Serves chain entries []
  | call
      {entry : Entry σ ν ι}
      {entries : List (Entry σ ν ι)}
      {carried : κ}
      {made : σ}
      {resumptions : List σ}
      {later : List (ServedCall σ)}
      (finishes :
        (entry.hook.start (chain.input carried) chain.context).FinishesAfter made resumptions)
      (rest : Serves chain entries later) :
      Serves chain (entry :: entries)
        (⟨chain.callOf entry carried, made, resumptions⟩ :: later)

/-- Calls that hooks have served are calls of these hooks. -/
theorem Serves.exists_callOf
    {chain : Chain σ ν ι κ}
    {entries : List (Entry σ ν ι)}
    {served : List (ServedCall σ)}
    (serves : chain.Serves entries served) :
    ∀ call ∈ served.map ServedCall.call,
      ∃ entry carried, call = chain.callOf entry carried := by
  induction serves with
  | none entries => exact List.forall_mem_nil _
  | call finishes rest inductionHypothesis =>
      exact List.forall_mem_cons.mpr ⟨⟨_, _, rfl⟩, inductionHypothesis⟩

/-- The call of a hook is accounted for by the task that the hook starts. -/
theorem accountedBy_call
    (chain : Chain σ ν ι κ)
    (entry : Entry σ ν ι)
    (carried : κ) :
    (chain.call entry carried).AccountedBy
      ((entry.hook.start (chain.input carried) chain.context).ServesCall
        (chain.callOf entry carried)) := by
  rw [call_eq_bind, ← Task.bind_assoc]
  refine .bind_quiet (Task.accountedBy_call _ ?_) fun answer => ?_
  · intro state later value left finished
    have inside := Task.finished_of_finished_guarded finished
    refine ⟨Task.finished_of_finished_relabel inside, ?_⟩
    rw [Task.madeCalls_guarded inside, Task.madeCalls_relabel_note]
  · refine .quiet_bind (.perform fun _ => rfl) fun _ => ?_
    exact .quiet_bind (.perform fun _ => chain.reporter.callsIn_report _ _) fun _ => .done _

theorem accountedBy_finish
    (chain : Chain σ ν ι κ)
    (visited : List String)
    (result : Except Failure Outcome) :
    (chain.finish visited result).AccountedBy (· = []) :=
  .quiet_bind (.perform fun _ => chain.reporter.callsIn_report _ _) fun _ => .done _

/-- From each hook on, a run is accounted for by its hooks and by its conclusion. -/
theorem accountedBy_resume
    (chain : Chain σ ν ι κ)
    {concluded : List (ServedCall σ) → Prop}
    (concludes : ∀ carried, (chain.conclude carried).AccountedBy concluded)
    (mayNotConclude : concluded [])
    (entries : List (Entry σ ν ι))
    (visited : List String)
    (carried : κ) :
    (chain.resume visited carried entries).AccountedBy fun served =>
      ∃ hooks last, served = hooks ++ last ∧ chain.Serves entries hooks ∧ concluded last := by
  induction entries generalizing visited carried with
  | nil =>
      rw [resume_nil]
      refine (((concludes carried).guarded _).bind_quiet (chain.accountedBy_finish visited)).mono ?_
      intro served accepted
      exact ⟨[], served, rfl, .none [], accepted⟩
  | cons entry rest inductionHypothesis =>
      let accepts (served : List (ServedCall σ)) : Prop :=
        ∃ hooks last, served = hooks ++ last ∧ chain.Serves rest hooks ∧ concluded last
      have stops : ∀ served, served = [] → accepts served := by
        rintro _ rfl
        exact ⟨[], [], rfl, .none rest, mayNotConclude⟩
      have called := (chain.accountedBy_call entry carried).guarded
        (chain.closeChain (visited ++ [entry.middleware]))
      rw [resume_cons]
      refine (called.bind fun verdict => show Task.AccountedBy _ accepts from ?next).mono ?calls
      case next =>
        cases verdict with
        | error failure => exact (chain.accountedBy_finish _ _).mono stops
        | ok verdict =>
            cases verdict with
            | settle outcome =>
                refine .mono (.quiet_bind ?_ fun _ => chain.accountedBy_finish _ _) stops
                exact .perform fun _ => rfl
            | proceed next => exact inductionHypothesis _ next
      case calls =>
        rintro _ ⟨_, _, rfl, ⟨made, resumptions, rfl, finishes⟩, hooks, last, rfl, served, accepted⟩
        exact ⟨_ :: hooks, last, rfl, .call finishes served, accepted⟩

end Chain

end Middleware
