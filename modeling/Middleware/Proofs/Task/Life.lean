import Middleware.Proofs.Task.Drive
import Middleware.Task.Pool

namespace Middleware

/-!
# The life of a job in a pool

In a run of a pool each job leads a life of its own: it is polled in some
states, in the order of its turns, and in the end it may be dropped. What the
job emits and what becomes of it depend on the rest of the pool only through
this life, so a statement about all lives of a job covers all interleavings.
-/

variable {σ ο α : Type}

namespace Job

/-- Whether a job has come to its end. -/
def hasEnded : Job σ ο α → Bool
  | .fresh _ | .waiting _ _ | .stuck _ => false
  | .finished _ | .panicked _ | .dropped => true

/-- Poll a job once in each of a list of states. -/
def pollIn
    (job : Job σ ο α) :
    List σ →
    List ο × Job σ ο α
  | [] => ([], job)
  | state :: later =>
      let first := job.poll state
      let rest := first.result.pollIn later
      (first.signals ++ rest.1, rest.2)

/-- Further polls add their signals to those of the polls before them. -/
theorem pollIn_append
    (job : Job σ ο α)
    (first second : List σ) :
    job.pollIn (first ++ second) =
      ((job.pollIn first).1 ++ ((job.pollIn first).2.pollIn second).1,
        ((job.pollIn first).2.pollIn second).2) := by
  induction first generalizing job with
  | nil =>
      rfl
  | cons state later inductionHypothesis =>
      simp [pollIn, inductionHypothesis]

/-- A job that has ended stays as it is when it is polled. -/
theorem poll_of_hasEnded
    {job : Job σ ο α}
    (ended : job.hasEnded)
    (state : σ) :
    job.poll state = ⟨[], state, job⟩ := by
  cases job <;> first | rfl | simp [hasEnded] at ended

/-- A job that has ended stays as it is when it is dropped. -/
theorem drop_of_hasEnded
    {job : Job σ ο α}
    (ended : job.hasEnded)
    (state : σ) :
    job.drop state = ⟨[], state, job⟩ := by
  cases job with
  | dropped => rfl
  | finished value => rfl
  | panicked message => rfl
  | fresh task => simp [hasEnded] at ended
  | waiting abandon rest => simp [hasEnded] at ended
  | stuck abandon => simp [hasEnded] at ended

/-- Dropping a job ends it. -/
theorem hasEnded_drop
    (job : Job σ ο α)
    (state : σ) :
    (job.drop state).result.hasEnded := by
  cases job <;> rfl

/-- A job that has not come to its end is dropped when it is dropped. -/
theorem result_drop_of_pending
    {job : Job σ ο α}
    (pending : job.hasEnded = false)
    (state : σ) :
    (job.drop state).result = .dropped := by
  cases job with
  | fresh task => rfl
  | waiting abandon rest => rfl
  | stuck abandon => rfl
  | finished value => simp [hasEnded] at pending
  | panicked message => simp [hasEnded] at pending
  | dropped => simp [hasEnded] at pending

/-- A job that has ended does nothing more. -/
theorem pollIn_of_hasEnded
    {job : Job σ ο α}
    (ended : job.hasEnded)
    (states : List σ) :
    job.pollIn states = ([], job) := by
  induction states with
  | nil =>
      rfl
  | cons state later inductionHypothesis =>
      simp [pollIn, poll_of_hasEnded ended, inductionHypothesis]

end Job

/-- The states in which a driver polls a job, and the one in which it drops it, if it does. -/
structure Life (σ : Type) where
  polls : List σ
  dropped : Option σ

namespace Job

/-- What a job emits in the course of a life, and what becomes of it. -/
def live
    (job : Job σ ο α)
    (life : Life σ) :
    List ο × Job σ ο α :=
  let polled := job.pollIn life.polls
  match life.dropped with
  | none => polled
  | some state =>
      let last := polled.2.drop state
      (polled.1 ++ last.signals, last.result)

/-- A life that begins with a poll. -/
theorem live_cons
    (job : Job σ ο α)
    (state : σ)
    (later : List σ)
    (dropped : Option σ) :
    job.live ⟨state :: later, dropped⟩ =
      ((job.poll state).signals ++ ((job.poll state).result.live ⟨later, dropped⟩).1,
        ((job.poll state).result.live ⟨later, dropped⟩).2) := by
  cases dropped <;> simp [live, pollIn]

/-- A job that has ended sleeps through every life. -/
theorem live_of_hasEnded
    {job : Job σ ο α}
    (ended : job.hasEnded)
    (life : Life σ) :
    job.live life = ([], job) := by
  rcases life with ⟨polls, dropped⟩
  cases dropped with
  | none =>
      exact pollIn_of_hasEnded ended polls
  | some state =>
      simp [live, pollIn_of_hasEnded ended, drop_of_hasEnded ended]

end Job

/-- What has become of a job, apart from what is left of its task. -/
inductive Fate (α : Type) where
  | unpolled
  | waiting
  | stuck
  | finished (value : α)
  | panicked (message : String)
  | dropped
deriving DecidableEq

namespace Job

/-- What has become of a job. -/
def fate : Job σ ο α → Fate α
  | .fresh _ => .unpolled
  | .waiting _ _ => .waiting
  | .stuck _ => .stuck
  | .finished value => .finished value
  | .panicked message => .panicked message
  | .dropped => .dropped

/-- A job has the fate of a value exactly if it has finished with it. -/
theorem fate_eq_finished_iff
    {job : Job σ ο α}
    {value : α} :
    job.fate = .finished value ↔ job = .finished value := by
  cases job <;> simp [fate]

/-- Run a job without others: poll it a number of times, and then drop it if told to. -/
def runAlone
    (job : Job σ ο α)
    (state : σ)
    (count : Nat)
    (drops : Bool) :
    Run σ ο (Job σ ο α) :=
  let polled := job.pollTimes state count
  if drops then
    let last := polled.result.drop polled.state
    { last with signals := polled.signals ++ last.signals }
  else
    polled

/-- Polling a job without others is polling it in states in which it leaves itself. -/
theorem exists_pollIn_eq_pollTimes
    (job : Job σ ο α)
    (state : σ)
    (count : Nat) :
    ∃ polls : List σ,
      polls.length = count ∧
        job.pollIn polls =
          ((job.pollTimes state count).signals, (job.pollTimes state count).result) := by
  induction count generalizing job state with
  | zero =>
      exact ⟨[], rfl, rfl⟩
  | succ count inductionHypothesis =>
      obtain ⟨later, sameLength, sameRun⟩ :=
        inductionHypothesis (job.poll state).result (job.poll state).state
      refine ⟨state :: later, by simp [sameLength], ?_⟩
      simp [pollIn, pollTimes, sameRun]

/-- A job that runs without others leads a life of as many polls, in which it may be dropped. -/
theorem exists_live_eq_runAlone
    (job : Job σ ο α)
    (state : σ)
    (count : Nat)
    (drops : Bool) :
    ∃ life : Life σ,
      life.polls.length = count ∧
        life.dropped.isSome = drops ∧
        job.live life =
          ((job.runAlone state count drops).signals,
            (job.runAlone state count drops).result) := by
  obtain ⟨polls, sameLength, sameRun⟩ := job.exists_pollIn_eq_pollTimes state count
  cases drops with
  | false =>
      refine ⟨⟨polls, none⟩, sameLength, rfl, ?_⟩
      simp [live, runAlone, sameRun]
  | true =>
      refine ⟨⟨polls, some (job.pollTimes state count).state⟩, sameLength, rfl, ?_⟩
      simp [live, runAlone, sameRun]

end Job

namespace Standing

/-- Whether a task can still be dropped where it stands. -/
def isSuspended : Standing σ ο α → Bool
  | .suspended _ => true
  | .finished _ _ | .panicked _ => false

/-- What is emitted where a task stands if it is dropped there. -/
def closing :
    Standing σ ο α →
    Option σ →
    List ο
  | .suspended abandon, some state => (abandon state).1
  | _, _ => []

/-- Where a task has come to its end, nothing more is emitted if it is dropped. -/
theorem closing_eq_nil
    {standing : Standing σ ο α}
    (ended : standing.isSuspended = false)
    (dropped : Option σ) :
    standing.closing dropped = [] := by
  cases standing with
  | finished value left => rfl
  | panicked message => rfl
  | suspended abandon => cases ended

/-- A job stands where the drive of its task has come to. -/
inductive IsOf : Standing σ ο α → Job σ ο α → Prop where
  | finished (value : α) (left : List σ) :
      IsOf (.finished value left) (.finished value)
  | panicked (message : String) :
      IsOf (.panicked message) (.panicked message)
  | waiting (abandon : Burst σ ο) (rest : Task σ ο α) :
      IsOf (.suspended abandon) (.waiting abandon rest)
  | stuck (abandon : Burst σ ο) :
      IsOf (.suspended abandon) (.stuck abandon)

theorem IsOf.signals_drop
    {standing : Standing σ ο α}
    {job : Job σ ο α}
    (stands : standing.IsOf job)
    (state : σ) :
    (job.drop state).signals = standing.closing (some state) := by
  cases stands <;> rfl

theorem IsOf.hasEnded_eq
    {standing : Standing σ ο α}
    {job : Job σ ο α}
    (stands : standing.IsOf job) :
    job.hasEnded = !standing.isSuspended := by
  cases stands <;> rfl

end Standing

namespace Job

/-- Polling a task that is about to start in some states is to drive it through these states. -/
theorem pollIn_fresh
    (task : Task σ ο α)
    (state : σ)
    (later : List σ) :
    ((Job.fresh task).pollIn (state :: later)).1 = (task.drive state later).signals ∧
      (task.drive state later).result.IsOf
        ((Job.fresh task).pollIn (state :: later)).2 := by
  induction task generalizing state later with
  | done value =>
      have ended :
          (Job.finished value : Job σ ο α).pollIn later = ([], .finished value) :=
        pollIn_of_hasEnded rfl later
      simp [pollIn, poll, Task.poll, ended, Standing.IsOf.finished]
  | panic message =>
      have ended :
          (Job.panicked message : Job σ ο α).pollIn later = ([], .panicked message) :=
        pollIn_of_hasEnded rfl later
      simp [pollIn, poll, Task.poll, Task.drive, ended, Standing.IsOf.panicked]
  | act work rest inductionHypothesis =>
      obtain ⟨sameSignals, sameStanding⟩ :=
        inductionHypothesis state (work state).2 later
      simp only [pollIn, poll, Task.poll, Task.drive, Run.signals_after] at sameSignals ⊢
      rw [← sameSignals, List.append_assoc]
      exact ⟨rfl, sameStanding⟩
  | suspend abandon rest inductionHypothesis =>
      cases later with
      | nil =>
          exact ⟨rfl, .waiting abandon rest⟩
      | cons resumed later =>
          exact inductionHypothesis resumed later
  | hang abandon =>
      have stays :
          ∀ states : List σ,
            (Job.stuck abandon : Job σ ο α).pollIn states = ([], .stuck abandon) := by
        intro states
        induction states with
        | nil => rfl
        | cons state later inductionHypothesis => simp [pollIn, poll, inductionHypothesis]
      simp [pollIn, poll, Task.poll, Task.drive, stays, Standing.IsOf.stuck]

/-- A job that is never polled emits nothing. -/
theorem live_unpolled
    (task : Task σ ο α)
    (dropped : Option σ) :
    ((Job.fresh task).live ⟨[], dropped⟩).1 = [] := by
  cases dropped <;> rfl

/-- The signals of a life: those of the drive, and then those of being dropped. -/
theorem live_fresh
    (task : Task σ ο α)
    (state : σ)
    (later : List σ)
    (dropped : Option σ) :
    ((Job.fresh task).live ⟨state :: later, dropped⟩).1 =
      (task.drive state later).signals ++
        (task.drive state later).result.closing dropped := by
  obtain ⟨sameSignals, sameStanding⟩ := pollIn_fresh task state later
  cases dropped with
  | none =>
      simp [live, sameSignals, Standing.closing]
  | some state =>
      simp only [live, sameSignals, sameStanding.signals_drop]

/-- A task that is nothing but its value emits nothing in any life. -/
theorem live_done
    (value : α)
    (life : Life σ) :
    ((Job.fresh (.done value) : Job σ ο α).live life).1 = [] := by
  rcases life with ⟨polls, dropped⟩
  cases polls with
  | nil => exact live_unpolled _ dropped
  | cons state later => simp [live_fresh, Standing.closing]

/-- A life of a job that was polled is over when its task is not suspended, or was dropped. -/
theorem hasEnded_live_fresh
    (task : Task σ ο α)
    (state : σ)
    (later : List σ)
    (dropped : Option σ) :
    ((Job.fresh task).live ⟨state :: later, dropped⟩).2.hasEnded =
      (!(task.drive state later).result.isSuspended || dropped.isSome) := by
  obtain ⟨_, sameStanding⟩ := pollIn_fresh task state later
  cases dropped with
  | none =>
      simpa [live] using sameStanding.hasEnded_eq
  | some state =>
      simp [live, hasEnded_drop]

/-- In a life a job comes to a value exactly if the drive of its task does. -/
theorem live_fresh_eq_finished_iff
    {task : Task σ ο α}
    {state : σ}
    {later : List σ}
    {dropped : Option σ}
    {value : α} :
    ((Job.fresh task).live ⟨state :: later, dropped⟩).2 = .finished value ↔
      ∃ left, (task.drive state later).result = .finished value left := by
  obtain ⟨_, stands⟩ := pollIn_fresh task state later
  generalize (task.drive state later).result = standing at stands ⊢
  simp only [live]
  generalize (Job.fresh task).pollIn (state :: later) = polled at stands ⊢
  rcases polled with ⟨signals, job⟩
  cases dropped <;> cases stands <;> simp [drop]

/-- In a life a job panics exactly if the drive of its task does. -/
theorem live_fresh_eq_panicked_iff
    {task : Task σ ο α}
    {state : σ}
    {later : List σ}
    {dropped : Option σ}
    {message : String} :
    ((Job.fresh task).live ⟨state :: later, dropped⟩).2 = .panicked message ↔
      (task.drive state later).result = .panicked message := by
  obtain ⟨_, stands⟩ := pollIn_fresh task state later
  generalize (task.drive state later).result = standing at stands ⊢
  simp only [live]
  generalize (Job.fresh task).pollIn (state :: later) = polled at stands ⊢
  rcases polled with ⟨signals, job⟩
  cases dropped <;> cases stands <;> simp [drop]

/-- A job that is never polled comes to no end but that of being dropped. -/
theorem live_unpolled_eq
    (task : Task σ ο α)
    (dropped : Option σ) :
    ((Job.fresh task).live ⟨[], dropped⟩).2 =
      if dropped.isSome then .dropped else .fresh task := by
  cases dropped <;> rfl

end Job

namespace Pool

/-- The signals of one job in a run of a pool. -/
def signalsOf
    (index : Nat)
    (signals : List (Nat × ο)) :
    List ο :=
  signals.filterMap fun signal => if signal.1 = index then some signal.2 else none

/-- The life that one job leads while a pool takes its turns. -/
def lifeOf
    (pool : Pool σ ο α)
    (state : σ)
    (turns : List Turn)
    (index : Nat) :
    Life σ :=
  match turns with
  | [] => ⟨[], none⟩
  | turn :: rest =>
      let first := pool.take turn state
      if turn.index = index then
        match turn with
        | .drop _ => ⟨[], some state⟩
        | .poll _ =>
            let later := lifeOf first.result first.state rest index
            { later with polls := state :: later.polls }
      else
        lifeOf first.result first.state rest index

/-- A job is polled in a life as often as it has turns to be polled before it is dropped. -/
theorem length_polls_lifeOf
    (pool : Pool σ ο α)
    (state : σ)
    (turns : List Turn)
    (index : Nat) :
    (pool.lifeOf state turns index).polls.length =
      (turns.takeWhile (· ≠ .drop index)).count (.poll index) := by
  induction turns generalizing pool state with
  | nil =>
      rfl
  | cons turn rest inductionHypothesis =>
      cases turn with
      | poll other =>
          by_cases own : other = index
          · simp [lifeOf, Turn.index, own, inductionHypothesis]
          · simp [lifeOf, Turn.index, own, inductionHypothesis]
      | drop other =>
          by_cases own : other = index
          · simp [lifeOf, Turn.index, own]
          · simp [lifeOf, Turn.index, own, inductionHypothesis]

/-- A job is dropped in a life exactly if it has a turn to be dropped. -/
theorem isSome_dropped_lifeOf
    (pool : Pool σ ο α)
    (state : σ)
    (turns : List Turn)
    (index : Nat) :
    (pool.lifeOf state turns index).dropped.isSome = decide (.drop index ∈ turns) := by
  induction turns generalizing pool state with
  | nil =>
      rfl
  | cons turn rest inductionHypothesis =>
      cases turn with
      | poll other =>
          by_cases own : other = index
          · simp [lifeOf, Turn.index, own, inductionHypothesis]
          · simp [lifeOf, Turn.index, own, inductionHypothesis]
      | drop other =>
          by_cases own : other = index
          · simp [lifeOf, Turn.index, own]
          · have notOwn : index ≠ other := fun same => own same.symm
            simp [lifeOf, Turn.index, own, notOwn, inductionHypothesis]

theorem signalsOf_append
    (index : Nat)
    (first second : List (Nat × ο)) :
    signalsOf index (first ++ second) =
      signalsOf index first ++ signalsOf index second := by
  simp [signalsOf]

/-- All signals of a turn belong to the job that it is about. -/
theorem signalsOf_turn
    (index : Nat)
    (turn : Turn)
    (signals : List ο) :
    signalsOf index (signals.map (turn.index, ·)) =
      if turn.index = index then signals else [] := by
  have extracts :
      (fun signal => if signal.1 = index then some signal.2 else none) ∘
          (fun signal : ο => (turn.index, signal)) =
        fun signal => if turn.index = index then some signal else none :=
    rfl
  rw [signalsOf, List.filterMap_map, extracts]
  by_cases same : turn.index = index
  · simp [same]
  · simp [same]

/-- A turn of another job leaves a job as it is. -/
theorem take_other
    {pool : Pool σ ο α}
    {turn : Turn}
    {index : Nat}
    (other : turn.index ≠ index)
    (state : σ) :
    (pool.take turn state).result[index]? = pool[index]? := by
  unfold take
  cases pool[turn.index]? with
  | none => rfl
  | some job => simp [other]

/-- A turn of a job polls or drops it. -/
theorem take_own
    {pool : Pool σ ο α}
    {turn : Turn}
    {job : Job σ ο α}
    (member : pool[turn.index]? = some job)
    (state : σ) :
    let run :=
      match turn with
      | .poll _ => job.poll state
      | .drop _ => job.drop state
    (pool.take turn state).signals = run.signals ∧
      (pool.take turn state).result[turn.index]? = some run.result := by
  obtain ⟨inBounds, found⟩ := List.getElem?_eq_some_iff.mp member
  cases turn <;> simp [take, inBounds, found]

/-- In a run of a pool a job does what it does in the life that it leads there. -/
theorem follow_member
    (turns : List Turn)
    {pool : Pool σ ο α}
    {index : Nat}
    {job : Job σ ο α}
    (member : pool[index]? = some job)
    (state : σ) :
    signalsOf index (pool.follow state turns).signals =
        (job.live (pool.lifeOf state turns index)).1 ∧
      (pool.follow state turns).result[index]? =
        some (job.live (pool.lifeOf state turns index)).2 := by
  induction turns generalizing pool state job with
  | nil =>
      exact ⟨rfl, member⟩
  | cons turn rest inductionHypothesis =>
      simp only [follow, lifeOf]
      rw [signalsOf_append, signalsOf_turn]
      by_cases own : turn.index = index
      · subst own
        simp only [↓reduceIte]
        obtain ⟨ownSignals, ownResult⟩ := take_own member state
        rw [ownSignals]
        cases turn with
        | poll index =>
            obtain ⟨laterSignals, laterResult⟩ :=
              inductionHypothesis ownResult (pool.take (.poll index) state).state
            rw [Job.live_cons]
            exact ⟨congrArg _ laterSignals, laterResult⟩
        | drop index =>
            obtain ⟨laterSignals, laterResult⟩ :=
              inductionHypothesis ownResult (pool.take (.drop index) state).state
            rw [Job.live_of_hasEnded (job.hasEnded_drop state)] at laterSignals laterResult
            exact
              ⟨by simpa [Job.live, Job.pollIn] using laterSignals,
                by simpa [Job.live, Job.pollIn] using laterResult⟩
      · simp only [own, ↓reduceIte, List.nil_append]
        exact inductionHypothesis ((take_other own state).trans member) _

end Pool

end Middleware
