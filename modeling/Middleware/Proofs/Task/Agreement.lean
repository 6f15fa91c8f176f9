import Middleware.Proofs.Task.Life

namespace Middleware

/-!
# Tasks that agree until they part

Two tasks may be the same task up to some point, from which on they are
unrelated. If everything they part at is preceded by a telling signal, then a
run without such signals cannot tell them apart: one task may be put in the
place of the other in any pool, and nothing else changes.
-/

variable {σ ο α β : Type}

/-- Tasks that are the same until, in both of them, work begins that emits a telling signal. -/
inductive Task.AgreesUntil (tells : ο → Prop) :
    Task σ ο α →
    Task σ ο α →
    Prop where
  | done (value : α) :
      AgreesUntil tells (.done value) (.done value)
  | panic (message : String) :
      AgreesUntil tells (.panic message) (.panic message)
  | act
      {next other : σ → Task σ ο α}
      (work : Burst σ ο)
      (goesOn : ∀ state, AgreesUntil tells (next state) (other state)) :
      AgreesUntil tells (.act work next) (.act work other)
  | part
      {work otherWork : Burst σ ο}
      (telling : ∀ state, ∃ signal ∈ (work state).1, tells signal)
      (next other : σ → Task σ ο α) :
      AgreesUntil tells (.act work next) (.act otherWork other)
  | suspend
      {next other : Task σ ο α}
      (abandon : Burst σ ο)
      (goesOn : AgreesUntil tells next other) :
      AgreesUntil tells (.suspend abandon next) (.suspend abandon other)
  | hang (abandon : Burst σ ο) :
      AgreesUntil tells (.hang abandon) (.hang abandon)

namespace Task.AgreesUntil

variable {tells : ο → Prop}
variable {task other : Task σ ο α}

theorem refl (task : Task σ ο α) : task.AgreesUntil tells task := by
  induction task with
  | done value => exact .done value
  | panic message => exact .panic message
  | act work next inductionHypothesis => exact .act work inductionHypothesis
  | suspend abandon next inductionHypothesis => exact .suspend abandon inductionHypothesis
  | hang abandon => exact .hang abandon

theorem bind
    (first : task.AgreesUntil tells other)
    {next otherNext : α → Task σ ο β}
    (second : ∀ value, (next value).AgreesUntil tells (otherNext value)) :
    (task.bind next).AgreesUntil tells (other.bind otherNext) := by
  induction first with
  | done value => exact second value
  | panic message => exact .panic message
  | act work goesOn inductionHypothesis => exact .act work inductionHypothesis
  | part telling _ _ => exact .part telling _ _
  | suspend abandon goesOn inductionHypothesis => exact .suspend abandon inductionHypothesis
  | hang abandon => exact .hang abandon

theorem guarded
    (agrees : task.AgreesUntil tells other)
    (close : Interruption → Burst σ ο) :
    (task.guarded close).AgreesUntil tells (other.guarded close) := by
  induction agrees with
  | done value => exact .done value
  | panic message => exact .refl _
  | act work goesOn inductionHypothesis => exact .act work inductionHypothesis
  | part telling _ _ => exact .part telling _ _
  | suspend abandon goesOn inductionHypothesis => exact .suspend _ inductionHypothesis
  | hang abandon => exact .refl _

/-- Tasks that begin with different telling signals part there. -/
theorem emit
    {signal : ο}
    (telling : tells signal)
    (otherSignal : ο)
    (next otherNext : Unit → Task σ ο β) :
    ((Task.emit signal).bind next).AgreesUntil tells ((Task.emit otherSignal).bind otherNext) :=
  .part (fun _ => ⟨signal, List.mem_singleton.mpr rfl, telling⟩) _ _

end Task.AgreesUntil

/-- Jobs of tasks that agree until they part, at the same point of both tasks. -/
inductive Job.AgreesUntil (tells : ο → Prop) :
    Job σ ο α →
    Job σ ο α →
    Prop where
  | fresh
      {task other : Task σ ο α}
      (agrees : task.AgreesUntil tells other) :
      AgreesUntil tells (.fresh task) (.fresh other)
  | waiting
      {task other : Task σ ο α}
      (abandon : Burst σ ο)
      (agrees : task.AgreesUntil tells other) :
      AgreesUntil tells (.waiting abandon task) (.waiting abandon other)
  | same (job : Job σ ο α) :
      AgreesUntil tells job job

variable {tells : ο → Prop}

/-- Runs of jobs without telling signals emit the same, leave the same state, and go on to agree. -/
def Run.AgreesUntil
    (tells : ο → Prop)
    (run other : Run σ ο (Job σ ο α)) :
    Prop :=
  (∀ signal ∈ run.signals, ¬ tells signal) →
    other.signals = run.signals ∧
      other.state = run.state ∧
      run.result.AgreesUntil tells other.result

theorem Task.AgreesUntil.poll
    {task other : Task σ ο α}
    (agrees : task.AgreesUntil tells other)
    (state : σ) :
    (task.poll state).AgreesUntil tells (other.poll state) := by
  induction agrees generalizing state with
  | done value => exact fun _ => ⟨rfl, rfl, .same _⟩
  | panic message => exact fun _ => ⟨rfl, rfl, .same _⟩
  | act work goesOn inductionHypothesis =>
      intro untold
      have laterUntold := fun signal member => untold signal (List.mem_append_right _ member)
      obtain ⟨sameSignals, sameState, agrees⟩ :=
        inductionHypothesis state (work state).2 laterUntold
      exact ⟨congrArg ((work state).1 ++ ·) sameSignals, sameState, agrees⟩
  | part telling _ _ =>
      intro untold
      obtain ⟨signal, member, tellsParting⟩ := telling state
      exact (untold signal (List.mem_append_left _ member) tellsParting).elim
  | suspend abandon goesOn inductionHypothesis => exact fun _ => ⟨rfl, rfl, .waiting abandon goesOn⟩
  | hang abandon => exact fun _ => ⟨rfl, rfl, .same _⟩

/-- What a turn does to its job. -/
def Job.obey
    (job : Job σ ο α)
    (turn : Turn)
    (state : σ) :
    Run σ ο (Job σ ο α) :=
  match turn with
  | .poll _ => job.poll state
  | .drop _ => job.drop state

namespace Job.AgreesUntil

variable {job other : Job σ ο α}

/-- The same becomes of jobs that have not parted yet. -/
theorem fate_eq (agrees : job.AgreesUntil tells other) :
    other.fate = job.fate := by
  cases agrees <;> rfl

theorem poll
    (agrees : job.AgreesUntil tells other)
    (state : σ) :
    (job.poll state).AgreesUntil tells (other.poll state) := by
  cases agrees with
  | fresh agrees => exact agrees.poll state
  | waiting abandon agrees => exact agrees.poll state
  | same => exact fun _ => ⟨rfl, rfl, .same _⟩

theorem drop
    (agrees : job.AgreesUntil tells other)
    (state : σ) :
    (job.drop state).AgreesUntil tells (other.drop state) := by
  cases agrees with
  | fresh agrees => exact fun _ => ⟨rfl, rfl, .same _⟩
  | waiting abandon agrees => exact fun _ => ⟨rfl, rfl, .same _⟩
  | same => exact fun _ => ⟨rfl, rfl, .same _⟩

theorem obey
    (agrees : job.AgreesUntil tells other)
    (turn : Turn)
    (state : σ) :
    (job.obey turn state).AgreesUntil tells (other.obey turn state) := by
  cases turn with
  | poll index => exact agrees.poll state
  | drop index => exact agrees.drop state

end Job.AgreesUntil

namespace Pool

/-- A turn puts what becomes of its job in the place of the job. -/
theorem take_eq_of_member
    {pool : Pool σ ο α}
    {turn : Turn}
    {job : Job σ ο α}
    (member : pool[turn.index]? = some job)
    (state : σ) :
    let run := job.obey turn state
    pool.take turn state = ⟨run.signals, run.state, pool.set turn.index run.result⟩ := by
  cases turn <;> simp only [take, member, Job.obey]

/-- A turn is taken alike when a job is put in the place of one that it agrees with. -/
theorem take_set_of_agreesUntil
    {pool : Pool σ ο α}
    {index : Nat}
    {job other : Job σ ο α}
    (member : pool[index]? = some job)
    (agrees : job.AgreesUntil tells other)
    (turn : Turn)
    (state : σ)
    (untold :
      ∀ signal ∈ signalsOf index ((pool.take turn state).signals.map (turn.index, ·)),
        ¬ tells signal) :
    ∃ jobThen otherThen,
      let first := pool.take turn state
      first.result[index]? = some jobThen ∧
        jobThen.AgreesUntil tells otherThen ∧
        take (pool.set index other) turn state =
          ⟨first.signals, first.state, first.result.set index otherThen⟩ := by
  obtain ⟨inBounds, _⟩ := List.getElem?_eq_some_iff.mp member
  rw [signalsOf_turn] at untold
  by_cases own : turn.index = index
  · subst own
    have otherMember : (pool.set turn.index other)[turn.index]? = some other :=
      List.getElem?_set_self inBounds
    rw [take_eq_of_member member, if_pos rfl] at untold
    obtain ⟨sameSignals, sameState, agreesThen⟩ := agrees.obey turn state untold
    rw [take_eq_of_member member, take_eq_of_member otherMember, sameSignals, sameState]
    refine ⟨_, _, List.getElem?_set_self inBounds, agreesThen, ?_⟩
    rw [List.set_set, List.set_set]
  · refine ⟨job, other, (take_other own state).trans member, agrees, ?_⟩
    have sameMember : (pool.set index other)[turn.index]? = pool[turn.index]? :=
      List.getElem?_set_ne (Ne.symm own)
    unfold take
    rw [sameMember]
    cases pool[turn.index]? with
    | none => rfl
    | some found => simp [List.set_comm _ _ own]

/--
A job may be put in the place of one that it agrees with, and as long as the job
emits no telling signal, nothing else changes in a run of the pool.
-/
theorem follow_set_of_agreesUntil
    (turns : List Turn)
    {pool : Pool σ ο α}
    {index : Nat}
    {job other : Job σ ο α}
    (member : pool[index]? = some job)
    (agrees : job.AgreesUntil tells other)
    (state : σ)
    (untold : ∀ signal ∈ signalsOf index (pool.follow state turns).signals, ¬ tells signal) :
    let run := pool.follow state turns
    let otherRun := follow (pool.set index other) state turns
    otherRun.signals = run.signals ∧
      otherRun.state = run.state ∧
      otherRun.result.map Job.fate = run.result.map Job.fate := by
  induction turns generalizing pool job other state with
  | nil =>
      obtain ⟨inBounds, rfl⟩ := List.getElem?_eq_some_iff.mp member
      have sameFates : (pool.set index other).map Job.fate = pool.map Job.fate := by
        rw [List.map_set, agrees.fate_eq, ← List.map_set, List.set_getElem_self]
      exact ⟨rfl, rfl, sameFates⟩
  | cons turn rest inductionHypothesis =>
      simp only [follow, signalsOf_append] at untold
      obtain ⟨jobThen, otherThen, memberThen, agreesThen, sameTurn⟩ :=
        take_set_of_agreesUntil member agrees turn state
          fun signal own => untold signal (List.mem_append_left _ own)
      obtain ⟨sameSignals, sameState, sameFates⟩ :=
        inductionHypothesis memberThen agreesThen (pool.take turn state).state
          fun signal own => untold signal (List.mem_append_right _ own)
      simp only [follow, sameTurn]
      exact ⟨congrArg _ sameSignals, sameState, sameFates⟩

end Pool

end Middleware
