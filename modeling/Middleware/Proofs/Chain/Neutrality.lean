import Middleware.Proofs.Chain.Calls
import Middleware.Proofs.Download.Observation
import Middleware.Proofs.Telemetry.Omission

namespace Middleware

/-!
# Neutral hooks in a chain

A hook is neutral if it leaves the state of the others alone and lets its chain
go on with what it carries. A run of a chain with a neutral hook at some place,
left to itself, comes to the same as the run without it, and shows the same once
the hook is left out.

Behind the neutral hook both runs are the same but for its visit, which every
report of the longer run counts in. Before it they are the same altogether.
-/

variable {τ υ ν ι κ : Type}

/--
A task that suspends some number of times, leaves the first part of the state as
it is, and comes to a given value.
-/
inductive Task.PassesBy
    {ο α : Type}
    (value : α) :
    Task (τ × υ) ο α →
    Prop where
  | done :
      PassesBy value (.done value)
  | act
      {work : Burst (τ × υ) ο}
      {next : τ × υ → Task (τ × υ) ο α}
      (keeps : ∀ state, (work state).2.1 = state.1)
      (goesOn : ∀ state, PassesBy value (next state)) :
      PassesBy value (.act work next)
  | suspend
      {next : Task (τ × υ) ο α}
      (abandon : Burst (τ × υ) ο)
      (goesOn : PassesBy value next) :
      PassesBy value (.suspend abandon next)

/-- A task that passes by leaves the first part of the state and comes to its value. -/
theorem Task.PassesBy.settle
    {ο α : Type}
    {value : α}
    {task : Task (τ × υ) ο α}
    (passes : task.PassesBy value)
    (state : τ × υ) :
    ∃ signals rest, task.settle state = ⟨signals, (state.1, rest), .finished value⟩ := by
  induction passes generalizing state with
  | done =>
      exact ⟨[], state.2, rfl⟩
  | @act work next keeps goesOn inductionHypothesis =>
      obtain ⟨signals, rest, settled⟩ := inductionHypothesis state (work state).2
      rw [keeps] at settled
      exact ⟨(work state).1 ++ signals, rest, by rw [Task.settle, settled]; rfl⟩
  | suspend abandon goesOn inductionHypothesis =>
      exact inductionHypothesis state

/--
A run on a larger state comes to what another run comes to, and leaves the first
part of the state as that run does. How the two differ in what they show is given.
-/
structure Run.Extends
    {γ : Type}
    (omits : List (Signal ν) → List (Signal ν) → Prop)
    (run : Run (τ × υ) (Signal ν) γ)
    (shorter : Run τ (Signal ν) γ) :
    Prop where
  shown : omits (outline run.signals) (outline shorter.signals)
  left : run.state.1 = shorter.state
  result : run.result = shorter.result

/-- Hooks of a chain with a hook put among them, if there is one, at a place. -/
def IsInserted
    (inserted : Option (Entry (τ × υ) ν ι))
    (entries : List (Entry τ ν ι))
    (place : Option Nat)
    (longer : List (Entry (τ × υ) ν ι)) :
    Prop :=
  ∃ ahead behind,
    entries = ahead ++ behind ∧
      longer = ahead.map Entry.onFirst ++ inserted.toList ++ behind.map Entry.onFirst ∧
      place = inserted.map fun _ => ahead.length

namespace Chain

variable {chain : Chain τ ν ι κ}
variable {reporter : Reporter (τ × υ) ν}
variable {conclude : κ → Task (τ × υ) (Signal ν) (Except Failure Outcome)}

/-- A hook of a chain passes each input by, and its answers let the chain go on as before. -/
def IsNeutral
    (chain : Chain τ ν ι κ)
    (entry : Entry (τ × υ) ν ι) :
    Prop :=
  ∀ carried,
    ∃ answer,
      (entry.hook.start (chain.input carried) chain.context).PassesBy answer ∧
        chain.verdict entry.middleware answer = .ok (.proceed carried)

/-- A chain whose reports go to nobody, and whose conclusion makes none. -/
structure IsBare (chain : Chain τ ν ι κ) : Prop where
  reports : ∀ event, chain.reporter.report event = .signal (.event event)
  concludes :
    ∀ (rename : Signal ν → Signal ν),
      (∀ signal, (∀ event, signal ≠ .event event) → rename signal = signal) →
        ∀ carried, (chain.conclude carried).relabel rename = chain.conclude carried

section Revisiting

variable {place : Nat}

/-- No visit is left out of what is not a chain report. -/
theorem withoutVisit_of_not_event
    (phase : Phase)
    (place : Nat)
    (signal : Signal ν)
    (notEvent : ∀ event, signal ≠ .event event) :
    signal.withoutVisit phase place = signal := by
  cases signal with
  | event event => exact (notEvent event rfl).elim
  | _ => rfl

/-- Calls of hooks are the same without any visit of the chain. -/
theorem relabel_call
    (bare : chain.IsBare)
    (entry : Entry τ ν ι)
    (carried : κ) :
    (chain.call entry carried).relabel (Signal.withoutVisit chain.phase place) =
      chain.call entry carried := by
  have closes :
      chain.closeMethod entry.middleware =
        fun interruption => .signal (.event (chain.interruptedCall entry.middleware interruption)) :=
    funext fun interruption => bare.reports _
  simp only [call_eq_bind, Task.relabel_bind, Task.relabel_guarded, Task.relabel_relabel,
    reportMethod, closes, bare.reports]
  rfl

/-- A visit that is left out of a list of visits is left out of those that follow. -/
theorem eraseIdx_visits
    {visited without : List String}
    (inside : place < visited.length)
    (erased : visited.eraseIdx place = without)
    (middleware : String) :
    place < (visited ++ [middleware]).length ∧
      (visited ++ [middleware]).eraseIdx place = without ++ [middleware] := by
  constructor
  · rw [List.length_append]
    exact Nat.lt_add_right _ inside
  · rw [List.eraseIdx_append_of_lt_length inside, erased]

theorem withoutVisit_finishedRun
    (chain : Chain τ ν ι κ)
    {visited without : List String}
    (inside : place < visited.length)
    (erased : visited.eraseIdx place = without)
    (result : Except Failure Outcome) :
    (Signal.event (chain.finishedRun visited result) : Signal ν).withoutVisit chain.phase place =
      .event (chain.finishedRun without result) := by
  have fewer : without.length = visited.length - 1 := by
    rw [← erased, List.length_eraseIdx_of_lt inside]
  simp [finishedRun, ChainReport.finished, Signal.withoutVisit, ChainReport.withoutVisit, inside,
    erased, fewer]

theorem withoutVisit_interruptedRun
    (chain : Chain τ ν ι κ)
    {visited without : List String}
    (inside : place < visited.length)
    (erased : visited.eraseIdx place = without)
    (interruption : Interruption) :
    (Signal.event (chain.interruptedRun visited interruption) : Signal ν).withoutVisit
        chain.phase place =
      .event (chain.interruptedRun without interruption) := by
  have fewer : without.length = visited.length - 1 := by
    rw [← erased, List.length_eraseIdx_of_lt inside]
  simp [interruptedRun, ChainReport.interrupted, Signal.withoutVisit, ChainReport.withoutVisit,
    inside, erased, fewer]

/-- The report of a finished run without a visit is that of a run with one visit less. -/
theorem relabel_finish
    (bare : chain.IsBare)
    {visited without : List String}
    (inside : place < visited.length)
    (erased : visited.eraseIdx place = without)
    (result : Except Failure Outcome) :
    (chain.finish visited result).relabel (Signal.withoutVisit chain.phase place) =
      chain.finish without result := by
  have reports :
      ∀ visited,
        chain.finish visited result =
          (Task.emit (.event (chain.finishedRun visited result))).bind fun _ => .done result := by
    intro visited
    simp only [finish, reportChain, bare.reports]
    rfl
  have renamed := withoutVisit_finishedRun chain inside erased result
  rw [reports, reports, ← renamed]
  rfl

/-- The report of an interrupted run without a visit is that of a run with one visit less. -/
theorem relabel_closeChain
    (bare : chain.IsBare)
    {visited without : List String}
    (inside : place < visited.length)
    (erased : visited.eraseIdx place = without)
    (interruption : Interruption) :
    (chain.closeChain visited interruption).relabel (Signal.withoutVisit chain.phase place) =
      chain.closeChain without interruption := by
  have reports :
      ∀ visited,
        chain.closeChain visited interruption =
          .signal (.event (chain.interruptedRun visited interruption)) :=
    fun visited => bare.reports _
  have renamed := withoutVisit_interruptedRun chain inside erased interruption
  rw [reports, reports, ← renamed]
  rfl

/-- From each hook on, a run without an earlier visit is a run that counts it in no report. -/
theorem relabel_resume
    (bare : chain.IsBare)
    (entries : List (Entry τ ν ι))
    {visited without : List String}
    (inside : place < visited.length)
    (erased : visited.eraseIdx place = without)
    (carried : κ) :
    (chain.resume visited carried entries).relabel (Signal.withoutVisit chain.phase place) =
      chain.resume without carried entries := by
  induction entries generalizing visited without carried with
  | nil =>
      have concluded :=
        bare.concludes _ (withoutVisit_of_not_event chain.phase place) carried
      simp only [resume_nil, Task.relabel_bind, Task.relabel_guarded, concluded,
        relabel_closeChain bare inside erased, relabel_finish bare inside erased]
  | cons entry rest inductionHypothesis =>
      obtain ⟨insideThen, erasedThen⟩ := eraseIdx_visits inside erased entry.middleware
      simp only [resume_cons, Task.relabel_bind, Task.relabel_guarded, relabel_call bare,
        relabel_closeChain bare insideThen erasedThen]
      congr 1
      funext verdict
      cases verdict with
      | error failure => exact relabel_finish bare insideThen erasedThen _
      | ok verdict =>
          cases verdict with
          | settle outcome =>
              rw [Task.relabel_bind]
              exact
                congrArg (Task.bind (.emit (.log (chain.settledLine entry.middleware outcome))))
                  (funext fun _ => relabel_finish bare insideThen erasedThen _)
          | proceed next => exact inductionHypothesis insideThen erasedThen next

end Revisiting

/-- The call of a hook, in the scope of its run. -/
def callInRun
    {σ : Type}
    (chain : Chain σ ν ι κ)
    (visited : List String)
    (carried : κ)
    (entry : Entry σ ν ι) :
    Task σ (Signal ν) (Except Failure (Verdict κ)) :=
  (chain.call entry carried).guarded (chain.closeChain (visited ++ [entry.middleware]))

/-- What a run does after the call of a hook, by what the reply is taken for. -/
def resumeAfter
    {σ : Type}
    (chain : Chain σ ν ι κ)
    (visited : List String)
    (entry : Entry σ ν ι)
    (entries : List (Entry σ ν ι)) :
    Except Failure (Verdict κ) →
    Task σ (Signal ν) (Except Failure Outcome)
  | .error failure => chain.finish (visited ++ [entry.middleware]) (.error failure)
  | .ok (.settle outcome) =>
      (Task.emit (.log (chain.settledLine entry.middleware outcome))).bind fun _ =>
        chain.finish (visited ++ [entry.middleware]) (.ok outcome)
  | .ok (.proceed next) => chain.resume (visited ++ [entry.middleware]) next entries

theorem outline_settle_finish
    {σ : Type}
    (chain : Chain σ ν ι κ)
    (visited : List String)
    (result : Except Failure Outcome)
    (state : σ) :
    outline ((chain.finish visited result).settle state).signals =
      [.event (chain.finishedRun visited result)] := by
  simp [finish, Task.settle_bind, Run.thenSettle, reportChain, finishedRun]

/-- A run calls the next hook and goes on after it. -/
theorem settle_resume_cons
    {σ : Type}
    (chain : Chain σ ν ι κ)
    (visited : List String)
    (carried : κ)
    (entry : Entry σ ν ι)
    (entries : List (Entry σ ν ι))
    (state : σ) :
    (chain.resume visited carried (entry :: entries)).settle state =
      ((chain.callInRun visited carried entry).settle state).thenSettle
        (chain.resumeAfter visited entry entries) := by
  rw [resume_cons, ← Task.settle_bind]
  rfl

theorem ObservedAs.callInRun
    (observed : chain.ObservedAs (.silent : Observer υ ν) reporter conclude)
    (visited : List String)
    (carried : κ)
    (entry : Entry τ ν ι) :
    (chain.callInRun visited carried entry).ObservedAs .silent
      ((chain.observed reporter conclude).callInRun visited carried entry.onFirst) :=
  (observed.call entry carried).guarded fun interruption =>
    observed.reports (chain.interruptedRun (visited ++ [entry.middleware]) interruption)

/-- A run that its last hook ends does the same whatever hooks are behind it. -/
theorem ObservedAs.resumeAfter
    (observed : chain.ObservedAs (.silent : Observer υ ν) reporter conclude)
    (visited : List String)
    (entry : Entry τ ν ι)
    (entries : List (Entry τ ν ι))
    (others : List (Entry (τ × υ) ν ι))
    {verdict : Except Failure (Verdict κ)}
    (ends : ∀ next, verdict ≠ .ok (.proceed next)) :
    (chain.resumeAfter visited entry entries verdict).ObservedAs .silent
      ((chain.observed reporter conclude).resumeAfter visited entry.onFirst others verdict) := by
  cases verdict with
  | error failure => exact observed.finish _ _
  | ok verdict =>
      cases verdict with
      | settle outcome =>
          exact .bind (.emitLog (observed.logs _ _)) fun _ => observed.finish _ _
      | proceed next => exact (ends next rfl).elim

/-- A report to nobody shows the event and leaves the first part of the state as it is. -/
theorem IsBare.report_observed
    (bare : chain.IsBare)
    (observed : chain.ObservedAs (.silent : Observer υ ν) reporter conclude)
    (event : Event)
    (state : τ × υ) :
    outline (reporter.report event state).1 = [.event event] ∧
      (reporter.report event state).2.1 = state.1 := by
  have reported := observed.reports event
  rw [bare.reports] at reported
  exact ⟨reported.shown state.1 state.2, reported.left state.1 state.2⟩

/-- The call of a hook that comes to an answer comes to what the answer is taken for. -/
theorem settle_call_of_finished
    {σ : Type}
    (chain : Chain σ ν ι κ)
    (entry : Entry σ ν ι)
    (carried : κ)
    {state after : σ}
    {notes : List ν}
    {answer : Answer}
    (settled :
      (entry.hook.start (chain.input carried) chain.context).settle state =
        ⟨notes, after, .finished answer⟩) :
    let verdict := chain.verdict entry.middleware answer
    let report :=
      chain.reportMethod (.finished chain.phase entry.middleware (failure? verdict)) after
    (chain.call entry carried).settle state =
      ⟨.call (chain.callOf entry carried) ::
          (notes.map .note ++ .returned (.ofAnswer answer) :: report.1),
        report.2,
        .finished verdict⟩ := by
  simp only [call_eq_bind, Task.settle_bind, Task.settle_emit, Task.settle_guarded,
    Task.settle_relabel, settled, Run.thenSettle, Run.closedBy, Task.settle_perform,
    Task.settle_done]
  simp [Run.after]

/-- The call of a neutral hook shows the call and its report, and lets the chain go on. -/
theorem settle_call_of_isNeutral
    (bare : chain.IsBare)
    (observed : chain.ObservedAs (.silent : Observer υ ν) reporter conclude)
    {entry : Entry (τ × υ) ν ι}
    (neutral : chain.IsNeutral entry)
    (carried : κ)
    (state : τ × υ) :
    ∃ signals rest answer,
      ((chain.observed reporter conclude).call entry carried).settle state =
          ⟨signals, (state.1, rest), .finished (.ok (.proceed carried))⟩ ∧
        outline signals = (chain.observed reporter conclude).answered entry carried answer := by
  obtain ⟨answer, passes, verdict⟩ := neutral carried
  obtain ⟨notes, rest, settled⟩ := passes.settle state
  have called :
      ((chain.observed reporter conclude).call entry carried).settle state = ⟨_, _, _⟩ :=
    settle_call_of_finished (chain.observed reporter conclude) entry carried settled
  have accepted :
      (chain.observed reporter conclude).verdict entry.middleware answer =
        .ok (.proceed carried) :=
    verdict
  obtain ⟨shown, left⟩ :=
    bare.report_observed observed
      (.method (.finished chain.phase entry.middleware none)) (state.1, rest)
  generalize reports :
    reporter.report (.method (.finished chain.phase entry.middleware none)) (state.1, rest) = report
    at shown left
  have sameReport :
      (chain.observed reporter conclude).reportMethod
          (.finished (chain.observed reporter conclude).phase entry.middleware
            (failure? (.ok (Verdict.proceed carried))))
          (state.1, rest) =
        report :=
    reports
  rw [accepted, sameReport] at called
  rcases report with ⟨reportSignals, first, second⟩
  obtain rfl : first = state.1 := left
  refine ⟨_, second, answer, called, ?_⟩
  simp only [outline_call, outline_append, outline_notes, outline_returned, List.nil_append]
  rw [shown, answered, accepted]
  rfl

/-- In the scope of its run, the call of a hook comes back, panics, or hangs. -/
theorem settle_callInRun
    {σ : Type}
    (chain : Chain σ ν ι κ)
    (visited : List String)
    (carried : κ)
    (entry : Entry σ ν ι)
    (state : σ) :
    let run := (chain.callInRun visited carried entry).settle state
    (∃ answer,
      run.result = .finished (chain.verdict entry.middleware answer) ∧
        outline run.signals = chain.answered entry carried answer) ∨
      (∃ message,
        run.result = .panicked message ∧
          outline run.signals =
            [.call (chain.callOf entry carried),
              .event (chain.interruptedCall entry.middleware .panicked),
              .event (chain.interruptedRun (visited ++ [entry.middleware]) .panicked)]) ∨
      (run.result = .stuck ∧ outline run.signals = [.call (chain.callOf entry carried)]) := by
  obtain ⟨later, sameRun⟩ := (chain.call entry carried).exists_drive_eq_settle state
  have called := chain.called entry carried state later
  intro run
  simp only [run, callInRun, Task.settle_guarded, sameRun]
  generalize (chain.call entry carried).drive state later = driven at called
  rcases driven with ⟨signals, after, standing⟩
  generalize shown : outline signals = outlined at called
  cases called with
  | answered answer left =>
      exact .inl ⟨answer, rfl, shown⟩
  | panicked message =>
      refine .inr (.inl ⟨message, rfl, ?_⟩)
      simp [Run.closedBy, Standing.fate, shown, closeChain, reportChain, interruptedRun]
  | suspended abandon closes =>
      exact .inr (.inr ⟨rfl, shown⟩)

/-- A neutral hook that comes next may be left out of a run. -/
theorem extends_resume_of_neutral
    (bare : chain.IsBare)
    (wellFormed : chain.WellFormed)
    (observed : chain.ObservedAs (.silent : Observer υ ν) reporter conclude)
    {entry : Entry (τ × υ) ν ι}
    (neutral : chain.IsNeutral entry)
    (behind : List (Entry τ ν ι))
    (visited : List String)
    (carried : κ)
    (state : τ × υ) :
    (((chain.observed reporter conclude).resume visited carried
        (entry :: behind.map Entry.onFirst)).settle state).Extends
      (fun signals shorter => leaveOutFrom chain.phase 0 visited.length signals = shorter)
      ((chain.resume visited carried behind).settle state.1) := by
  obtain ⟨signals, rest, answer, called, shown⟩ :=
    settle_call_of_isNeutral bare observed neutral carried state
  have settles :
      ((chain.observed reporter conclude).resume visited carried
          (entry :: behind.map Entry.onFirst)).settle state =
        (((chain.observed reporter conclude).resume (visited ++ [entry.middleware]) carried
            (behind.map Entry.onFirst)).settle (state.1, rest)).after signals := by
    rw [settle_resume_cons, callInRun, Task.settle_guarded, called]
    rfl
  have later :=
    (observed.resume behind (visited ++ [entry.middleware]) carried).settle state.1 rest
  have inside : visited.length < (visited ++ [entry.middleware]).length := by simp
  have erased : (visited ++ [entry.middleware]).eraseIdx visited.length = visited := by
    rw [List.eraseIdx_append_of_length_le (Nat.le_refl _)]
    simp
  have announced :
      ((chain.observed reporter conclude).callOf entry carried).hook? =
        some (chain.phase, entry.middleware) :=
    wellFormed.announces _ _ _
  have callsHook :
      (((chain.observed reporter conclude).callOf entry carried).hookIn? chain.phase).isSome := by
    simp [Call.hookIn?, announced]
  rw [settles, ← relabel_resume bare behind inside erased carried, Task.settle_relabel]
  refine ⟨?_, later.left, later.result.symm⟩
  rw [Run.signals_after, outline_append, shown, later.shown, outline_map_withoutVisit]
  exact leaveOutFrom_zero callsHook rfl _ _ _

/-- A run that its next hook ends shows one call at most, so no hook behind it is left out. -/
theorem leaveOutFrom_of_ended
    (wellFormed : chain.WellFormed)
    {visited : List String}
    {carried : κ}
    {entry : Entry τ ν ι}
    {state : τ}
    (ends :
      ∀ next,
        ((chain.callInRun visited carried entry).settle state).result ≠
          .finished (.ok (.proceed next)))
    (entries : List (Entry τ ν ι))
    (ahead : Nat)
    {place : Nat}
    (behind : visited.length < place) :
    let run := (chain.resume visited carried (entry :: entries)).settle state
    leaveOutFrom chain.phase (ahead + 1) place (outline run.signals) = outline run.signals := by
  have forms := chain.settle_callInRun visited carried entry state
  intro run
  simp only [run, settle_resume_cons]
  generalize (chain.callInRun visited carried entry).settle state = called at forms ends ⊢
  rcases called with ⟨signals, after, fate⟩
  have room : visited.length + 1 ≤ place := behind
  rcases forms with ⟨answer, finished, form⟩ | ⟨message, panicked, form⟩ | ⟨stuck, form⟩
  · obtain rfl : fate = .finished (chain.verdict entry.middleware answer) := finished
    cases accepted : chain.verdict entry.middleware answer with
    | error failure =>
        simp only [Run.thenSettle, resumeAfter, Run.signals_after, outline_append, form,
          outline_settle_finish]
        apply leaveOutFrom_single
        · rfl
        · simp [Signal.isReportIn, MethodReport.finished, finishedRun]
        · simp [finishedRun, ChainReport.finished, room]
    | ok verdict =>
        cases verdict with
        | settle outcome =>
            simp only [Run.thenSettle, resumeAfter, Run.signals_after, outline_append, form,
              Task.settle_bind, Task.settle_emit, outline_settle_finish, outline_log,
              wellFormed.logs, if_pos, outline_nil]
            apply leaveOutFrom_single
            · rfl
            · simp [Signal.isReportIn, MethodReport.finished, finishedRun]
            · simp [finishedRun, ChainReport.finished, room]
        | proceed next => exact (ends next (congrArg Fate.finished accepted)).elim
  · obtain rfl : fate = .panicked message := panicked
    simp only [Run.thenSettle, form]
    apply leaveOutFrom_single
    · rfl
    · simp [Signal.isReportIn, interruptedCall, interruptedRun, MethodReport.interrupted]
    · simp [interruptedRun, interruptedCall, ChainReport.interrupted, room]
  · obtain rfl : fate = .stuck := stuck
    simp only [Run.thenSettle, form]
    apply leaveOutFrom_single
    · rfl
    · simp
    · simp

/-- A neutral hook may be left out of a run, wherever it comes among the other hooks. -/
theorem extends_resume
    (bare : chain.IsBare)
    (wellFormed : chain.WellFormed)
    (observed : chain.ObservedAs (.silent : Observer υ ν) reporter conclude)
    {entry : Entry (τ × υ) ν ι}
    (neutral : chain.IsNeutral entry)
    (ahead behind : List (Entry τ ν ι))
    (visited : List String)
    (carried : κ)
    (state : τ × υ) :
    (((chain.observed reporter conclude).resume visited carried
        (ahead.map Entry.onFirst ++ entry :: behind.map Entry.onFirst)).settle state).Extends
      (fun signals shorter =>
        leaveOutFrom chain.phase ahead.length (visited.length + ahead.length) signals = shorter)
      ((chain.resume visited carried (ahead ++ behind)).settle state.1) := by
  induction ahead generalizing visited carried state with
  | nil =>
      exact extends_resume_of_neutral bare wellFormed observed neutral behind visited carried state
  | cons first ahead inductionHypothesis =>
      rcases state with ⟨state, rest⟩
      have called := (observed.callInRun visited carried first).settle state rest
      rw [List.map_cons, List.cons_append, List.cons_append, settle_resume_cons]
      by_cases proceeds :
          ∃ next,
            ((chain.callInRun visited carried first).settle state).result =
              .finished (.ok (.proceed next))
      · obtain ⟨next, proceeded⟩ := proceeds
        have forms := chain.settle_callInRun visited carried first state
        rw [settle_resume_cons]
        generalize (chain.callInRun visited carried first).settle state = shorter
          at called forms proceeded ⊢
        generalize
          ((chain.observed reporter conclude).callInRun visited carried first.onFirst).settle
            (state, rest) = longer
          at called ⊢
        rcases shorter with ⟨shorterSignals, after, fate⟩
        rcases longer with ⟨signals, state, longerFate⟩
        obtain ⟨shown, left, _, same⟩ := called
        obtain rfl : fate = longerFate := same
        obtain rfl : fate = .finished (.ok (.proceed next)) := proceeded
        obtain rfl : state.1 = after := left
        have later := inductionHypothesis (visited ++ [first.middleware]) next state
        have samePlace :
            (visited ++ [first.middleware]).length + ahead.length =
              visited.length + (first :: ahead).length := by
          simp only [List.length_append, List.length_cons, List.length_nil]
          omega
        have callsHook : ((chain.callOf first carried).hookIn? chain.phase).isSome := by
          simp [wellFormed.hookIn?_callOf]
        rw [samePlace] at later
        rcases forms with ⟨answer, _, form⟩ | ⟨_, panicked, _⟩ | ⟨stuck, _⟩
        · refine ⟨?_, later.left, later.result⟩
          simp only [Run.thenSettle, resumeAfter, Run.signals_after, outline_append, shown, form]
          exact
            (leaveOutFrom_succ callsHook rfl _ ahead.length _ _).trans
              (congrArg (chain.answered first carried answer ++ ·) later.shown)
        · cases panicked
        · cases stuck
      · have ends := not_exists.mp proceeds
        have ended :=
          called.thenSettle fun value finished =>
            observed.resumeAfter visited first (ahead ++ behind)
              (ahead.map Entry.onFirst ++ entry :: behind.map Entry.onFirst)
              fun next proceeded =>
                ends next (finished.trans (congrArg Fate.finished proceeded))
        rw [← settle_resume_cons] at ended
        refine ⟨?_, ended.left, ended.result.symm⟩
        rw [ended.shown]
        apply leaveOutFrom_of_ended wellFormed ends
        rw [List.length_cons]
        exact Nat.lt_add_of_pos_right (Nat.succ_pos _)

/-- What is in the course of a chain is outside of all other phases. -/
theorem Course.isStage
    {σ : Type}
    {chain : Chain σ ν ι κ}
    (wellFormed : chain.WellFormed)
    {visited : List String}
    {carried : κ}
    {entries : List (Entry σ ν ι)}
    {signals : List (Signal ν)}
    {standing : Standing σ (Signal ν) (Except Failure Outcome)}
    (course : chain.Course visited carried entries signals standing) :
    IsStage chain.phase signals := by
  refine ⟨fun other different => ?_, course.replyTo_eq⟩
  have callOutside :
      ∀ (entry : Entry σ ν ι) carried,
        (Signal.call (chain.callOf entry carried) : Signal ν).isOutside other := by
    intro entry carried
    simp [Signal.isOutside, wellFormed.hookIn?_callOf, different.symm]
  have eventOutside :
      ∀ event : Event,
        event.phase = chain.phase → (Signal.event event : Signal ν).isOutside other := by
    intro event own
    exact decide_eq_true fun same => different (same.symm.trans own)
  have answeredOutside :
      ∀ (entry : Entry σ ν ι) carried answer,
        ∀ signal ∈ chain.answered entry carried answer, signal.isOutside other := by
    intro entry carried answer
    simp only [answered, List.forall_mem_cons]
    exact ⟨callOutside entry carried, rfl, eventOutside _ rfl, List.forall_mem_nil _⟩
  induction course with
  | conclude conclusion =>
      cases conclusion with
      | stated concluded left =>
          simp only [List.forall_mem_cons]
          exact ⟨eventOutside _ rfl, List.forall_mem_nil _⟩
      | transported concluded answer left =>
          simp only [List.forall_mem_cons]
          exact ⟨rfl, rfl, eventOutside _ rfl, List.forall_mem_nil _⟩
      | panicked concluded message =>
          simp only [List.forall_mem_cons]
          exact ⟨rfl, eventOutside _ rfl, List.forall_mem_nil _⟩
      | suspended concluded abandon closes =>
          simp only [List.forall_mem_cons]
          exact ⟨rfl, List.forall_mem_nil _⟩
  | proceed verdict later inductionHypothesis =>
      exact List.forall_mem_append.mpr ⟨answeredOutside _ _ _, inductionHypothesis⟩
  | settle verdict left =>
      refine List.forall_mem_append.mpr ⟨answeredOutside _ _ _, ?_⟩
      simp only [List.forall_mem_cons]
      exact ⟨rfl, eventOutside _ rfl, List.forall_mem_nil _⟩
  | fail verdict left =>
      refine List.forall_mem_append.mpr ⟨answeredOutside _ _ _, ?_⟩
      simp only [List.forall_mem_cons]
      exact ⟨eventOutside _ rfl, List.forall_mem_nil _⟩
  | panic message =>
      simp only [List.forall_mem_cons]
      exact ⟨callOutside _ _, eventOutside _ rfl, eventOutside _ rfl, List.forall_mem_nil _⟩
  | suspend abandon closes =>
      simp only [List.forall_mem_cons]
      exact ⟨callOutside _ _, List.forall_mem_nil _⟩

/-- A run that nothing disturbs shows nothing of other phases. -/
theorem isStage_run
    {σ : Type}
    {chain : Chain σ ν ι κ}
    (wellFormed : chain.WellFormed)
    (entries : List (Entry σ ν ι))
    (carried : κ)
    (state : σ) :
    IsStage chain.phase (outline ((chain.run entries carried).settle state).signals) := by
  obtain ⟨later, sameRun⟩ := (chain.run entries carried).exists_drive_eq_settle state
  rw [sameRun]
  exact (chain.course wellFormed entries carried state later).isStage wellFormed

/-- In the course of a chain hooks are called in their order. -/
theorem Course.hookCallsIn_isPrefix
    {σ : Type}
    {chain : Chain σ ν ι κ}
    (wellFormed : chain.WellFormed)
    {visited : List String}
    {carried : κ}
    {entries : List (Entry σ ν ι)}
    {signals : List (Signal ν)}
    {standing : Standing σ (Signal ν) (Except Failure Outcome)}
    (course : chain.Course visited carried entries signals standing) :
    hookCallsIn chain.phase signals <+: entries.map (·.middleware) := by
  have firstOnly :
      ∀ (entry : Entry σ ν ι) rest, [entry.middleware] <+: (entry :: rest).map (·.middleware) :=
    fun entry rest => ⟨rest.map (·.middleware), rfl⟩
  induction course with
  | conclude conclusion => cases conclusion <;> exact List.nil_prefix
  | proceed verdict later inductionHypothesis =>
      rw [wellFormed.hookCallsIn_answered, List.map_cons]
      exact (List.prefix_cons_inj _).mpr inductionHypothesis
  | settle verdict left =>
      rw [wellFormed.hookCallsIn_answered]
      exact firstOnly _ _
  | fail verdict left =>
      rw [wellFormed.hookCallsIn_answered]
      exact firstOnly _ _
  | panic message =>
      rw [hookCallsIn_call, wellFormed.hookIn?_callOf, if_pos rfl]
      exact firstOnly _ _
  | suspend abandon closes =>
      rw [hookCallsIn_call, wellFormed.hookIn?_callOf, if_pos rfl]
      exact firstOnly _ _

/-- The hook that a run calls at the place of an inserted hook is the inserted one. -/
theorem middleware_eq_of_isInserted
    {chain : Chain (τ × υ) ν ι κ}
    (wellFormed : chain.WellFormed)
    {inserted : Option (Entry (τ × υ) ν ι)}
    {middleware : String}
    (named : ∀ entry ∈ inserted, entry.middleware = middleware)
    {entries : List (Entry τ ν ι)}
    {place : Option Nat}
    {longer : List (Entry (τ × υ) ν ι)}
    (inserts : IsInserted inserted entries place longer)
    (carried : κ)
    (state : τ × υ) :
    let shown := outline ((chain.run longer carried).settle state).signals
    ∀ number ∈ place,
      ∀ called ∈ (hookCallsIn chain.phase shown)[number]?, called = middleware := by
  intro shown number atPlace called isCalled
  obtain ⟨later, sameRun⟩ := (chain.run longer carried).exists_drive_eq_settle state
  have inOrder : hookCallsIn chain.phase shown <+: longer.map (·.middleware) := by
    simp only [shown, sameRun]
    exact (chain.course wellFormed longer carried state later).hookCallsIn_isPrefix wellFormed
  obtain ⟨inside, rfl⟩ := List.getElem?_eq_some_iff.mp isCalled
  have listed := List.prefix_iff_getElem?.mp inOrder number inside
  obtain ⟨ahead, behind, rfl, rfl, rfl⟩ := inserts
  cases inserted with
  | none => cases atPlace
  | some entry =>
      obtain rfl : ahead.length = number := Option.some.inj atPlace
      have sameName :
          entry.middleware = (hookCallsIn chain.phase shown)[ahead.length] := by
        simpa using listed
      rw [← sameName, named entry rfl]

/-- A neutral hook, if there is one, may be left out of every run of a chain. -/
theorem extends_run
    (bare : chain.IsBare)
    (wellFormed : chain.WellFormed)
    (observed : chain.ObservedAs (.silent : Observer υ ν) reporter conclude)
    (observedWellFormed : (chain.observed reporter conclude).WellFormed)
    {inserted : Option (Entry (τ × υ) ν ι)}
    (neutral : ∀ entry ∈ inserted, chain.IsNeutral entry)
    {middleware : String}
    (named : ∀ entry ∈ inserted, entry.middleware = middleware)
    {entries : List (Entry τ ν ι)}
    {place : Option Nat}
    {longer : List (Entry (τ × υ) ν ι)}
    (inserts : IsInserted inserted entries place longer)
    (carried : κ)
    (state : τ × υ) :
    (((chain.observed reporter conclude).run longer carried).settle state).Extends
      (IsStageWithout chain.phase place middleware)
      ((chain.run entries carried).settle state.1) := by
  have own := middleware_eq_of_isInserted observedWellFormed named inserts carried state
  have stage := isStage_run observedWellFormed longer carried state
  have shorterStage := isStage_run wellFormed entries carried state.1
  obtain ⟨ahead, behind, rfl, rfl, rfl⟩ := inserts
  cases inserted with
  | none =>
      have same := (observed.run (ahead ++ behind) carried).settle state.1 state.2
      rw [List.map_append] at same
      rw [Option.toList_none, List.append_nil] at own stage ⊢
      exact ⟨⟨same.shown, own, stage, shorterStage⟩, same.left, same.result.symm⟩
  | some entry =>
      have extended :=
        extends_resume bare wellFormed observed (neutral entry rfl) ahead behind [] carried state
      rw [List.length_nil, Nat.zero_add] at extended
      rw [Option.toList_some, List.append_assoc] at own stage ⊢
      exact ⟨⟨extended.shown, own, stage, shorterStage⟩, extended.left, extended.result⟩

end Chain

end Middleware
