import Middleware.Proofs.Task.Undisturbed
import Middleware.Proofs.Telemetry.Delivery

namespace Middleware

/-!
# Tasks and their observed forms

A task that works on a state of its own may be run in an observed form, which
reports to an observer with a state of its own. The observed form shows what the
bare task shows and leaves the state of the task as the bare task does, and the
observer receives the events and nothing else. The relation is closed under all
that tasks are made of, and jobs and pools keep it in every turn.
-/

variable {τ ρ ν α β : Type}

/-- Work in its bare form, on a state alone, and in its observed form. -/
structure Burst.ObservedAs
    (observer : Observer ρ ν)
    (bare : Burst τ (Signal ν))
    (work : Burst (τ × ρ) (Signal ν)) :
    Prop where
  shown : ∀ state rest, outline (work (state, rest)).1 = outline (bare state).1
  left : ∀ state rest, (work (state, rest)).2.1 = (bare state).2
  received :
    ∀ state rest,
      observer.HasReceived rest (work (state, rest)).1 (work (state, rest)).2.2

namespace Burst.ObservedAs

variable {observer : Observer ρ ν}

theorem silent : (Burst.silent : Burst τ (Signal ν)).ObservedAs observer .silent where
  shown _ _ := rfl
  left _ _ := rfl
  received _ rest := .nothing rfl rfl rest

theorem signal
    {emitted : Signal ν}
    (noEvents : eventsIn [emitted] = [])
    (noDeliveries : deliveriesIn [emitted] = []) :
    (Burst.signal emitted : Burst τ (Signal ν)).ObservedAs observer (.signal emitted) where
  shown _ _ := rfl
  left _ _ := rfl
  received _ rest := .nothing noEvents noDeliveries rest

theorem followedBy
    {bareFirst bareSecond : Burst τ (Signal ν)}
    {first second : Burst (τ × ρ) (Signal ν)}
    (earlier : bareFirst.ObservedAs observer first)
    (later : bareSecond.ObservedAs observer second) :
    (bareFirst.followedBy bareSecond).ObservedAs observer (first.followedBy second) := by
  constructor
  · intro state rest
    have sameState := earlier.left state rest
    have sameLater := later.shown (first (state, rest)).2.1 (first (state, rest)).2.2
    simp only [Burst.followedBy, outline_append]
    rw [earlier.shown, sameLater, sameState]
  · intro state rest
    have sameState := earlier.left state rest
    have sameLater := later.left (first (state, rest)).2.1 (first (state, rest)).2.2
    simp only [Burst.followedBy]
    rw [sameLater, sameState]
  · intro state rest
    exact (earlier.received state rest).append (later.received _ _)

/-- Work of a hook or a transport shows nothing, and its notes are no deliveries. -/
theorem onFirst (work : Burst τ ν) :
    (work.relabel Signal.note).ObservedAs observer (work.onFirst.relabel .note) where
  shown _ _ := rfl
  left _ _ := rfl
  received _ rest := .nothing (eventsIn_notes _) (deliveriesIn_notes _) rest

/-- A report to a silent observer, and the same report to another observer. -/
theorem report
    (stopwatch : Event → τ → Duration)
    (stopwatchThen : Event → τ × ρ → Duration)
    (event : Event) :
    ((Reporter.mk .silent stopwatch).report event).ObservedAs observer
      ((Reporter.mk observer.onSecond stopwatchThen).report event) where
  shown _ _ := by simp
  left state rest := by
    rw [Reporter.report_onSecond]
    rfl
  received state rest := .report stopwatchThen event state rest

end Burst.ObservedAs

/-- A task in its bare form, on a state alone, and in its observed form. -/
inductive Task.ObservedAs (observer : Observer ρ ν) :
    Task τ (Signal ν) α →
    Task (τ × ρ) (Signal ν) α →
    Prop where
  | done (value : α) :
      ObservedAs observer (.done value) (.done value)
  | panic (message : String) :
      ObservedAs observer (.panic message) (.panic message)
  | act
      {bareWork : Burst τ (Signal ν)}
      {work : Burst (τ × ρ) (Signal ν)}
      {bareNext : τ → Task τ (Signal ν) α}
      {next : τ × ρ → Task (τ × ρ) (Signal ν) α}
      (works : bareWork.ObservedAs observer work)
      (goesOn : ∀ state rest, ObservedAs observer (bareNext state) (next (state, rest))) :
      ObservedAs observer (.act bareWork bareNext) (.act work next)
  | suspend
      {bareAbandon : Burst τ (Signal ν)}
      {abandon : Burst (τ × ρ) (Signal ν)}
      {bareNext : Task τ (Signal ν) α}
      {next : Task (τ × ρ) (Signal ν) α}
      (abandons : bareAbandon.ObservedAs observer abandon)
      (goesOn : ObservedAs observer bareNext next) :
      ObservedAs observer (.suspend bareAbandon bareNext) (.suspend abandon next)
  | hang
      {bareAbandon : Burst τ (Signal ν)}
      {abandon : Burst (τ × ρ) (Signal ν)}
      (abandons : bareAbandon.ObservedAs observer abandon) :
      ObservedAs observer (.hang bareAbandon) (.hang abandon)

namespace Task.ObservedAs

variable {observer : Observer ρ ν}
variable {bare : Task τ (Signal ν) α}
variable {task : Task (τ × ρ) (Signal ν) α}

theorem bind
    (first : bare.ObservedAs observer task)
    {bareNext : α → Task τ (Signal ν) β}
    {next : α → Task (τ × ρ) (Signal ν) β}
    (second : ∀ value, (bareNext value).ObservedAs observer (next value)) :
    (bare.bind bareNext).ObservedAs observer (task.bind next) := by
  induction first with
  | done value => exact second value
  | panic message => exact .panic message
  | act works goesOn inductionHypothesis => exact .act works inductionHypothesis
  | suspend abandons goesOn inductionHypothesis => exact .suspend abandons inductionHypothesis
  | hang abandons => exact .hang abandons

theorem guarded
    (observed : bare.ObservedAs observer task)
    {bareClose : Interruption → Burst τ (Signal ν)}
    {close : Interruption → Burst (τ × ρ) (Signal ν)}
    (closes : ∀ interruption, (bareClose interruption).ObservedAs observer (close interruption)) :
    (bare.guarded bareClose).ObservedAs observer (task.guarded close) := by
  induction observed with
  | done value =>
      exact .done value
  | panic message =>
      exact .act (closes .panicked) fun _ _ => .panic message
  | act works goesOn inductionHypothesis =>
      exact .act works inductionHypothesis
  | suspend abandons goesOn inductionHypothesis =>
      exact .suspend (abandons.followedBy (closes .cancelled)) inductionHypothesis
  | hang abandons =>
      exact .hang (abandons.followedBy (closes .cancelled))

theorem perform
    {bareWork : Burst τ (Signal ν)}
    {work : Burst (τ × ρ) (Signal ν)}
    (works : bareWork.ObservedAs observer work) :
    (Task.perform bareWork).ObservedAs observer (.perform work) :=
  .act works fun _ _ => .done ()

theorem emitCall (call : Call) :
    (Task.emit (.call call) : Task τ (Signal ν) Unit).ObservedAs observer
      (.emit (.call call)) :=
  .perform (.signal rfl rfl)

theorem emitReturned (value : Return) :
    (Task.emit (.returned value) : Task τ (Signal ν) Unit).ObservedAs observer
      (.emit (.returned value)) :=
  .perform (.signal rfl rfl)

/-- A line other than the warning about the observer is no delivery. -/
theorem emitLog
    {line : LogLine}
    (settled : line.message ∈ settledMessages) :
    (Task.emit (.log line) : Task τ (Signal ν) Unit).ObservedAs observer
      (.emit (.log line)) := by
  have otherMessages :
      ∀ message ∈ settledMessages, message ≠ "trace observer panicked, event dropped" := by
    decide
  have other := otherMessages line.message settled
  exact .perform (.signal rfl (by simp [deliveriesIn, Signal.isDelivery, other]))

theorem pause : (Task.pause : Task τ (Signal ν) Unit).ObservedAs observer .pause :=
  .suspend .silent (.done ())

/-- A hook or a transport has no part in the observer. -/
theorem onFirst (task : Task τ ν α) :
    (task.relabel Signal.note).ObservedAs observer (task.onFirst.relabel .note) := by
  induction task with
  | done value => exact .done value
  | panic message => exact .panic message
  | act work next inductionHypothesis =>
      exact .act (.onFirst work) fun state _ => inductionHypothesis state
  | suspend abandon next inductionHypothesis =>
      exact .suspend (.onFirst abandon) inductionHypothesis
  | hang abandon => exact .hang (.onFirst abandon)

/-- Tasks that are run straight through their suspensions correspond as the tasks do. -/
theorem withoutPauses (observed : bare.ObservedAs observer task) :
    bare.withoutPauses.ObservedAs observer task.withoutPauses := by
  induction observed with
  | done value => exact .done value
  | panic message => exact .panic message
  | act works goesOn inductionHypothesis => exact .act works inductionHypothesis
  | suspend abandons goesOn inductionHypothesis => exact inductionHypothesis
  | hang abandons => exact .hang abandons

end Task.ObservedAs

/-- The life of a job, as its task sees it apart from the observer. -/
def Life.onFirst (life : Life (τ × ρ)) : Life τ :=
  ⟨life.polls.map Prod.fst, life.dropped.map Prod.fst⟩

/-- A job in its bare form, on a state alone, and in its observed form. -/
inductive Job.ObservedAs (observer : Observer ρ ν) :
    Job τ (Signal ν) α →
    Job (τ × ρ) (Signal ν) α →
    Prop where
  | fresh
      {bare : Task τ (Signal ν) α}
      {task : Task (τ × ρ) (Signal ν) α}
      (observed : bare.ObservedAs observer task) :
      ObservedAs observer (.fresh bare) (.fresh task)
  | waiting
      {bareAbandon : Burst τ (Signal ν)}
      {abandon : Burst (τ × ρ) (Signal ν)}
      {bare : Task τ (Signal ν) α}
      {task : Task (τ × ρ) (Signal ν) α}
      (abandons : bareAbandon.ObservedAs observer abandon)
      (observed : bare.ObservedAs observer task) :
      ObservedAs observer (.waiting bareAbandon bare) (.waiting abandon task)
  | stuck
      {bareAbandon : Burst τ (Signal ν)}
      {abandon : Burst (τ × ρ) (Signal ν)}
      (abandons : bareAbandon.ObservedAs observer abandon) :
      ObservedAs observer (.stuck bareAbandon) (.stuck abandon)
  | finished (value : α) :
      ObservedAs observer (.finished value) (.finished value)
  | panicked (message : String) :
      ObservedAs observer (.panicked message) (.panicked message)
  | dropped :
      ObservedAs observer .dropped .dropped

variable {γ δ : Type}

/--
A run in its bare form, and in its observed form from a state of the observer.
How the two results correspond is given.
-/
structure Run.ObservedAs
    (observer : Observer ρ ν)
    (corresponds : γ → δ → Prop)
    (rest : ρ)
    (bare : Run τ (Signal ν) γ)
    (run : Run (τ × ρ) (Signal ν) δ) :
    Prop where
  shown : outline run.signals = outline bare.signals
  left : run.state.1 = bare.state
  received : observer.HasReceived rest run.signals run.state.2
  result : corresponds bare.result run.result

namespace Run.ObservedAs

variable {observer : Observer ρ ν}
variable {corresponds : γ → δ → Prop}
variable {bare : γ}
variable {observed : δ}

/-- A run without work is observed as such. -/
theorem still
    (same : corresponds bare observed)
    (state : τ)
    (rest : ρ) :
    Run.ObservedAs observer corresponds rest
      ⟨[], state, bare⟩ ⟨[], (state, rest), observed⟩ :=
  ⟨rfl, rfl, .nothing rfl rfl rest, same⟩

/-- A run of nothing but one piece of work. -/
theorem working
    {bareWork : Burst τ (Signal ν)}
    {work : Burst (τ × ρ) (Signal ν)}
    (works : bareWork.ObservedAs observer work)
    (same : corresponds bare observed)
    (state : τ)
    (rest : ρ) :
    Run.ObservedAs observer corresponds rest
      ⟨(bareWork state).1, (bareWork state).2, bare⟩
      ⟨(work (state, rest)).1, (work (state, rest)).2, observed⟩ :=
  ⟨works.shown state rest, works.left state rest, works.received state rest, same⟩

end Run.ObservedAs

variable {observer : Observer ρ ν}

theorem Task.ObservedAs.poll
    {bare : Task τ (Signal ν) α}
    {task : Task (τ × ρ) (Signal ν) α}
    (observed : bare.ObservedAs observer task)
    (state : τ)
    (rest : ρ) :
    Run.ObservedAs observer (Job.ObservedAs observer) rest
      (bare.poll state) (task.poll (state, rest)) := by
  induction observed generalizing state rest with
  | done value =>
      exact .still (.finished value) state rest
  | panic message =>
      exact .still (.panicked message) state rest
  | @act bareWork work bareNext next works goesOn inductionHypothesis =>
      have later :
          Run.ObservedAs observer (Job.ObservedAs observer) (work (state, rest)).2.2
            ((bareNext state).poll (bareWork state).2)
            ((next (state, rest)).poll (work (state, rest)).2) := by
        rw [← works.left state rest]
        exact inductionHypothesis state rest _ _
      constructor
      · simp only [Task.poll, outline_append]
        rw [works.shown, later.shown]
      · exact later.left
      · exact (works.received state rest).append later.received
      · exact later.result
  | suspend abandons goesOn inductionHypothesis =>
      exact .still (.waiting abandons goesOn) state rest
  | hang abandons =>
      exact .still (.stuck abandons) state rest

/-- If nothing disturbs them, an observed task shows what its bare form shows, to the same end. -/
theorem Task.ObservedAs.settle
    {bare : Task τ (Signal ν) α}
    {task : Task (τ × ρ) (Signal ν) α}
    (observed : bare.ObservedAs observer task)
    (state : τ)
    (rest : ρ) :
    Run.ObservedAs observer Eq rest (bare.settle state) (task.settle (state, rest)) := by
  induction observed generalizing state rest with
  | done value =>
      exact .still rfl state rest
  | panic message =>
      exact .still rfl state rest
  | @act bareWork work bareNext next works goesOn inductionHypothesis =>
      have later :
          Run.ObservedAs observer Eq (work (state, rest)).2.2
            ((bareNext state).settle (bareWork state).2)
            ((next (state, rest)).settle (work (state, rest)).2) := by
        rw [← works.left state rest]
        exact inductionHypothesis state rest _ _
      constructor
      · simp only [Task.settle, Run.signals_after, outline_append]
        rw [works.shown, later.shown]
      · exact later.left
      · exact (works.received state rest).append later.received
      · exact later.result
  | suspend abandons goesOn inductionHypothesis =>
      exact inductionHypothesis state rest
  | hang abandons =>
      exact .still rfl state rest

/-- Runs that are observed forms go on as such with tasks that are. -/
theorem Run.ObservedAs.thenSettle
    {rest : ρ}
    {bare : Run τ (Signal ν) (Fate α)}
    {run : Run (τ × ρ) (Signal ν) (Fate α)}
    (first : Run.ObservedAs observer Eq rest bare run)
    {bareNext : α → Task τ (Signal ν) β}
    {next : α → Task (τ × ρ) (Signal ν) β}
    (second :
      ∀ value, bare.result = .finished value → (bareNext value).ObservedAs observer (next value)) :
    Run.ObservedAs observer Eq rest (bare.thenSettle bareNext) (run.thenSettle next) := by
  rcases bare with ⟨bareSignals, state, fate⟩
  rcases run with ⟨signals, ⟨sameState, after⟩, sameFate⟩
  obtain ⟨shown, left, received, result⟩ := first
  obtain rfl : sameState = state := left
  obtain rfl : fate = sameFate := result
  cases fate with
  | finished value =>
      have later := (second value rfl).settle sameState after
      constructor
      · simp only [Run.thenSettle, Run.signals_after, outline_append]
        rw [later.shown, shown]
      · exact later.left
      · exact received.append later.received
      · exact later.result
  | unpolled => exact ⟨shown, rfl, received, rfl⟩
  | waiting => exact ⟨shown, rfl, received, rfl⟩
  | stuck => exact ⟨shown, rfl, received, rfl⟩
  | panicked message => exact ⟨shown, rfl, received, rfl⟩
  | dropped => exact ⟨shown, rfl, received, rfl⟩

namespace Job.ObservedAs

variable {bare : Job τ (Signal ν) α}
variable {job : Job (τ × ρ) (Signal ν) α}

/-- The same becomes of a job in its bare form and in its observed form. -/
theorem fate_eq (observed : bare.ObservedAs observer job) :
    job.fate = bare.fate := by
  cases observed <;> rfl

theorem poll
    (observed : bare.ObservedAs observer job)
    (state : τ)
    (rest : ρ) :
    Run.ObservedAs observer (Job.ObservedAs observer) rest
      (bare.poll state) (job.poll (state, rest)) := by
  cases observed with
  | fresh observed => exact observed.poll state rest
  | waiting abandons observed => exact observed.poll state rest
  | stuck abandons => exact .still (.stuck abandons) state rest
  | finished value => exact .still (.finished value) state rest
  | panicked message => exact .still (.panicked message) state rest
  | dropped => exact .still .dropped state rest

theorem drop
    (observed : bare.ObservedAs observer job)
    (state : τ)
    (rest : ρ) :
    Run.ObservedAs observer (Job.ObservedAs observer) rest
      (bare.drop state) (job.drop (state, rest)) := by
  cases observed with
  | fresh observed => exact .still .dropped state rest
  | waiting abandons observed => exact .working abandons .dropped state rest
  | stuck abandons => exact .working abandons .dropped state rest
  | finished value => exact .still (.finished value) state rest
  | panicked message => exact .still (.panicked message) state rest
  | dropped => exact .still .dropped state rest

theorem pollIn
    (observed : bare.ObservedAs observer job)
    (polls : List (τ × ρ)) :
    outline (job.pollIn polls).1 = outline (bare.pollIn (polls.map Prod.fst)).1 ∧
      (bare.pollIn (polls.map Prod.fst)).2.ObservedAs observer (job.pollIn polls).2 := by
  induction polls generalizing bare job with
  | nil =>
      exact ⟨rfl, observed⟩
  | cons state later inductionHypothesis =>
      have first := observed.poll state.1 state.2
      obtain ⟨sameLater, sameJob⟩ := inductionHypothesis first.result
      refine ⟨?_, sameJob⟩
      simp only [Job.pollIn, List.map_cons, outline_append]
      rw [first.shown, sameLater]

/-- In every life an observed job shows what its bare form shows, and the same becomes of it. -/
theorem live
    (observed : bare.ObservedAs observer job)
    (life : Life (τ × ρ)) :
    outline (job.live life).1 = outline (bare.live life.onFirst).1 ∧
      (job.live life).2.fate = (bare.live life.onFirst).2.fate := by
  rcases life with ⟨polls, dropped⟩
  obtain ⟨sameSignals, sameJob⟩ := observed.pollIn polls
  cases dropped with
  | none =>
      exact ⟨sameSignals, sameJob.fate_eq⟩
  | some state =>
      have last := sameJob.drop state.1 state.2
      refine ⟨?_, last.result.fate_eq⟩
      simp only [Job.live, Life.onFirst, Option.map_some, outline_append]
      rw [sameSignals, last.shown]

end Job.ObservedAs

/-- What jobs of a pool show of themselves, each signal with its job. -/
def Pool.outline (signals : List (Nat × Signal ν)) : List (Nat × Signal ν) :=
  signals.filter (·.2.isOwn)

/-- Pools of the same jobs, in their bare form and in their observed form. -/
def Pool.ObservedAs
    (observer : Observer ρ ν)
    (bares : Pool τ (Signal ν) α)
    (jobs : Pool (τ × ρ) (Signal ν) α) :
    Prop :=
  ∀ index : Nat, Option.Rel (Job.ObservedAs observer) bares[index]? jobs[index]?

namespace Pool.ObservedAs

variable {bares : Pool τ (Signal ν) α}
variable {jobs : Pool (τ × ρ) (Signal ν) α}

theorem set
    (observed : Pool.ObservedAs observer bares jobs)
    {index : Nat}
    (bareMember : index < bares.length)
    (member : index < jobs.length)
    {bare : Job τ (Signal ν) α}
    {job : Job (τ × ρ) (Signal ν) α}
    (same : bare.ObservedAs observer job) :
    Pool.ObservedAs observer (bares.set index bare) (jobs.set index job) := by
  intro other
  by_cases changed : index = other
  · subst changed
    simpa [bareMember, member] using Option.Rel.some same
  · simpa [changed] using observed other

theorem take
    (observed : Pool.ObservedAs observer bares jobs)
    (turn : Turn)
    (state : τ)
    (rest : ρ) :
    Run.ObservedAs observer (Pool.ObservedAs observer) rest
      (bares.take turn state) (jobs.take turn (state, rest)) := by
  have members := observed turn.index
  unfold Pool.take
  cases bareFound : bares[turn.index]? with
  | none =>
      cases found : jobs[turn.index]? with
      | none => exact .still observed state rest
      | some job => rw [bareFound, found] at members; cases members
  | some bare =>
      cases found : jobs[turn.index]? with
      | none => rw [bareFound, found] at members; cases members
      | some job =>
          rw [bareFound, found] at members
          obtain ⟨same⟩ := members
          have bareMember := (List.getElem?_eq_some_iff.mp bareFound).1
          have member := (List.getElem?_eq_some_iff.mp found).1
          cases turn with
          | poll index =>
              have run := same.poll state rest
              exact
                ⟨run.shown, run.left, run.received,
                  observed.set bareMember member run.result⟩
          | drop index =>
              have run := same.drop state rest
              exact
                ⟨run.shown, run.left, run.received,
                  observed.set bareMember member run.result⟩

/--
In the same turns, an observed pool shows what its bare form shows, it leaves the
state of the tasks the same, and the observer receives the events of all jobs.
-/
theorem follow
    (observed : Pool.ObservedAs observer bares jobs)
    (turns : List Turn)
    (state : τ)
    (rest : ρ) :
    let bareRun := bares.follow state turns
    let run := jobs.follow (state, rest) turns
    Pool.outline run.signals = Pool.outline bareRun.signals ∧
      run.state.1 = bareRun.state ∧
      observer.HasReceived rest (run.signals.map Prod.snd) run.state.2 ∧
      Pool.ObservedAs observer bareRun.result run.result := by
  induction turns generalizing bares jobs state rest with
  | nil =>
      exact ⟨rfl, rfl, .nothing rfl rfl rest, observed⟩
  | cons turn later inductionHypothesis =>
      have first := observed.take turn state rest
      have sameStep :
          ∀ signals : List (Signal ν),
            Pool.outline (signals.map (turn.index, ·)) =
              (Middleware.outline signals).map (turn.index, ·) := by
        intro signals
        simp [Pool.outline, Middleware.outline, List.filter_map, Function.comp_def]
      have after :
          (jobs.take turn (state, rest)).state =
            ((bares.take turn state).state, (jobs.take turn (state, rest)).state.2) := by
        rw [← first.left]
      obtain ⟨sameShown, sameState, received, sameJobs⟩ :=
        inductionHypothesis first.result (bares.take turn state).state
          (jobs.take turn (state, rest)).state.2
      rw [← after] at sameShown sameState received sameJobs
      refine ⟨?_, sameState, ?_, sameJobs⟩
      · simp only [Pool.follow, Pool.outline, List.filter_append] at sameShown ⊢
        rw [sameShown]
        have sameFirst := sameStep (jobs.take turn (state, rest)).signals
        rw [first.shown, ← sameStep] at sameFirst
        exact congrArg (· ++ _) sameFirst
      · simp only [Pool.follow, List.map_append, List.map_map, Function.comp_def, List.map_id']
        exact first.received.append received

/-- The same becomes of the jobs of a pool in their bare form and in their observed form. -/
theorem map_fate_eq (observed : Pool.ObservedAs observer bares jobs) :
    jobs.map Job.fate = bares.map Job.fate := by
  apply List.ext_getElem?
  intro index
  have members := observed index
  simp only [List.getElem?_map]
  generalize bares[index]? = bare at members ⊢
  generalize jobs[index]? = job at members ⊢
  cases members with
  | none => rfl
  | some same => simp [same.fate_eq]

end Pool.ObservedAs

end Middleware
