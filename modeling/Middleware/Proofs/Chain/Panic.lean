import Middleware.Proofs.Chain.Passage

namespace Middleware

/-!
# Panics in a chain

A hook or the transport panics if what it does from the state in which it is
called comes to a panic. A run of a chain panics exactly if one of them does, and
with the same message: nothing on the way recovers from it. The run then closes
the call that is open and itself, and calls nothing more.
-/

variable {σ ν ι κ : Type}

/-- An event that reports a panic, and no drop and no failure with it. -/
def Event.IsPanic : Event → Prop
  | .method report =>
      report.panicked = true ∧ report.cancelled = false ∧ report.failure = none
  | .chain report =>
      report.panicked = true ∧ report.cancelled = false ∧ report.failure = none

/--
Signals show a panic if they are orderly up to the call that panics, and nothing
follows this call but events that report the panic. What is reported of which
call is given.
-/
def ShowsPanic
    (reports : Call → List Event → Prop)
    (signals : List (Signal ν)) :
    Prop :=
  ∃ before call closing,
    signals = before ++ .call call :: closing.map .event ∧
      IsOrderly before ∧
      reports call closing ∧
      ∀ event ∈ closing, event.IsPanic

/-- A panic shows behind what is orderly, and by any reports that are among those given. -/
theorem ShowsPanic.behind
    {reports others : Call → List Event → Prop}
    {first second : List (Signal ν)}
    (orderly : IsOrderly first)
    (among : ∀ call closing, reports call closing → others call closing)
    (shows : ShowsPanic reports second) :
    ShowsPanic others (first ++ second) := by
  obtain ⟨before, call, closing, rfl, secondOrderly, reported, isPanic⟩ := shows
  refine
    ⟨first ++ before, call, closing, ?_, orderly.append secondOrderly,
      among call closing reported, isPanic⟩
  rw [List.append_assoc]

namespace Chain

/--
A hook or the transport panics in a run of a chain. What the chain carries, its
hooks to come, the state and the later states of the run are given.
-/
inductive Panics (chain : Chain σ ν ι κ) :
    κ →
    List (Entry σ ν ι) →
    σ →
    List σ →
    String →
    Prop where
  /-- The transport is called in conclusion, and panics. -/
  | transport
      {carried : κ}
      {state : σ}
      {later : List σ}
      {message : String}
      {transport : Transport σ ν}
      {request : Request}
      (concluded : chain.conclude carried = Downloader.callTransport transport request)
      (panicked : ((transport request).drive state later).result = .panicked message) :
      Panics chain carried [] state later message
  /-- The next hook panics. -/
  | hook
      {carried : κ}
      {entry : Entry σ ν ι}
      {rest : List (Entry σ ν ι)}
      {state : σ}
      {later : List σ}
      {message : String}
      (panicked :
        ((entry.hook.start (chain.input carried) chain.context).drive state later).result =
          .panicked message) :
      Panics chain carried (entry :: rest) state later message
  /-- The next hook lets the chain proceed, and there is a panic after it. -/
  | proceed
      {carried next : κ}
      {entry : Entry σ ν ι}
      {rest : List (Entry σ ν ι)}
      {state : σ}
      {later left : List σ}
      {message : String}
      (called :
        ((chain.call entry carried).drive state later).result =
          .finished (.ok (.proceed next)) left)
      (panics :
        Panics chain next rest ((chain.call entry carried).drive state later).state left
          message) :
      Panics chain carried (entry :: rest) state later message

/-- The call of a hook panics exactly if the hook does. -/
theorem result_call_eq_panicked_iff
    (chain : Chain σ ν ι κ)
    (entry : Entry σ ν ι)
    (carried : κ)
    (state : σ)
    (later : List σ)
    (message : String) :
    ((chain.call entry carried).drive state later).result = .panicked message ↔
      ((entry.hook.start (chain.input carried) chain.context).drive state later).result =
        .panicked message := by
  rw [call_eq_bind, Task.drive_bind, Task.drive_emit, Run.andThen_finished, Task.drive_bind,
    Task.drive_guarded, Task.drive_relabel]
  rcases (entry.hook.start (chain.input carried) chain.context).drive state later with
    ⟨notes, after, standing⟩
  cases standing with
  | finished answer left => simp [Run.relabel, Run.guarded, Task.drive_bind]
  | panicked text => simp [Run.relabel, Run.guarded]
  | suspended abandon => simp [Run.relabel, Run.guarded]

variable {chain : Chain σ ν ι κ}

/-- A run without hooks panics exactly if the transport that it calls does. -/
theorem result_resume_nil_eq_panicked_iff
    (wellFormed : chain.WellFormed)
    (visited : List String)
    (carried : κ)
    (state : σ)
    (later : List σ)
    (message : String) :
    ((chain.resume visited carried []).drive state later).result = .panicked message ↔
      chain.Panics carried [] state later message := by
  have transported :
      ∀ {transport : Transport σ ν} {request : Request},
        chain.conclude carried = Downloader.callTransport transport request →
          (((chain.resume visited carried []).drive state later).result = .panicked message ↔
            ((transport request).drive state later).result = .panicked message) := by
    intro transport request concluded
    rw [resume_nil, Task.drive_bind, Task.drive_guarded, concluded,
      Downloader.drive_callTransport]
    rcases (transport request).drive state later with ⟨notes, after, standing⟩
    cases standing with
    | finished answer left => simp [Run.relabel, Run.guarded, Task.drive_bind]
    | panicked text => simp [Run.relabel, Run.guarded]
    | suspended abandon => simp [Run.relabel, Run.guarded]
  constructor
  · intro panicked
    rcases wellFormed.concludes carried with ⟨result, concluded⟩ | ⟨transport, request, concluded⟩
    · rw [resume_nil, Task.drive_bind, concluded] at panicked
      simp [Task.guarded] at panicked
    · exact .transport concluded ((transported concluded).mp panicked)
  · intro panics
    cases panics with
    | transport concluded panicked => exact (transported concluded).mpr panicked

/-- A run panics in its next hook, or it proceeds after it and panics then. -/
theorem result_resume_cons_eq_panicked_iff
    (chain : Chain σ ν ι κ)
    (visited : List String)
    (carried : κ)
    (entry : Entry σ ν ι)
    (rest : List (Entry σ ν ι))
    (state : σ)
    (later : List σ)
    (message : String) :
    let call := (chain.call entry carried).drive state later
    ((chain.resume visited carried (entry :: rest)).drive state later).result =
        .panicked message ↔
      call.result = .panicked message ∨
        ∃ next left,
          call.result = .finished (.ok (.proceed next)) left ∧
            ((chain.resume (visited ++ [entry.middleware]) next rest).drive call.state
                left).result =
              .panicked message := by
  rw [resume_cons, Task.drive_bind, Task.drive_guarded]
  rcases (chain.call entry carried).drive state later with ⟨signals, after, standing⟩
  cases standing with
  | panicked text => simp [Run.guarded]
  | suspended abandon => simp [Run.guarded]
  | finished verdict left =>
      cases verdict with
      | error failure => simp [Run.guarded]
      | ok verdict =>
          cases verdict with
          | settle outcome => simp [Run.guarded, Task.drive_bind]
          | proceed next =>
              simp only [Run.guarded, Run.andThen_finished, Run.result_after, Standing.finished.injEq,
                reduceCtorEq, false_or]
              constructor
              · intro panicked
                exact ⟨next, left, ⟨rfl, rfl⟩, panicked⟩
              · rintro ⟨_, _, ⟨same, rfl⟩, panicked⟩
                cases same
                exact panicked

/-- From each hook on, a run panics exactly if a hook or the transport does. -/
theorem result_resume_eq_panicked_iff
    (wellFormed : chain.WellFormed)
    (entries : List (Entry σ ν ι))
    (visited : List String)
    (carried : κ)
    (state : σ)
    (later : List σ)
    (message : String) :
    ((chain.resume visited carried entries).drive state later).result = .panicked message ↔
      chain.Panics carried entries state later message := by
  -- The run behind a hook goes on with what the hook has left: another state, other polls.
  induction entries generalizing visited carried state later with
  | nil =>
      exact result_resume_nil_eq_panicked_iff wellFormed visited carried state later message
  | cons entry rest inductionHypothesis =>
      have hookPanics := chain.result_call_eq_panicked_iff entry carried state later message
      refine (chain.result_resume_cons_eq_panicked_iff ..).trans ?_
      constructor
      · rintro (panicked | ⟨next, left, called, panicked⟩)
        · exact .hook (hookPanics.mp panicked)
        · exact .proceed called ((inductionHypothesis _ _ _ _).mp panicked)
      · intro panics
        cases panics with
        | hook panicked =>
            exact .inl (hookPanics.mpr panicked)
        | proceed called panics =>
            exact .inr ⟨_, _, called, (inductionHypothesis _ _ _ _).mpr panics⟩

/-- A run panics exactly if a hook or the transport does. -/
theorem result_run_eq_panicked_iff
    (wellFormed : chain.WellFormed)
    (entries : List (Entry σ ν ι))
    (carried : κ)
    (state : σ)
    (later : List σ)
    (message : String) :
    ((chain.run entries carried).drive state later).result = .panicked message ↔
      chain.Panics carried entries state later message :=
  result_resume_eq_panicked_iff wellFormed entries [] carried state later message

/--
What is reported when a call of a chain panics, in the order of the reports. The
request that the chain calls the transport for in conclusion, if it does, and the
middlewares of all its hooks are given.
-/
inductive PanicReports
    (chain : Chain σ ν ι κ)
    (transported : Option Request)
    (middlewares : List String)
    (call : Call) :
    List Event →
    Prop where
  | ofHook
      {middleware : String}
      (callsHook : call.hook? = some (chain.phase, middleware))
      (earlier : List String) :
      PanicReports chain transported middlewares call
        [chain.interruptedCall middleware .panicked,
          chain.interruptedRun (earlier ++ [middleware]) .panicked]
  | ofTransport
      (callsTransport : transported.map Call.transport = some call) :
      PanicReports chain transported middlewares call
        [chain.interruptedRun middlewares .panicked]

/-- All reports of a panic are flagged as such. -/
theorem PanicReports.isPanic
    {transported : Option Request}
    {middlewares : List String}
    {call : Call}
    {events : List Event}
    (reports : chain.PanicReports transported middlewares call events) :
    ∀ event ∈ events, event.IsPanic := by
  cases reports <;>
    simp [Event.IsPanic, interruptedCall, interruptedRun, MethodReport.interrupted,
      ChainReport.interrupted]

/-- Every run that panics shows its panic. -/
theorem Course.showsPanic
    (state : σ)
    (wellFormed : chain.WellFormed)
    {transported : Option Request}
    (concludes : chain.ConcludesBy transported)
    {carried : κ}
    {entries : List (Entry σ ν ι)}
    {signals : List (Signal ν)}
    {message : String}
    (course : chain.Course [] carried entries signals (.panicked message)) :
    ShowsPanic (chain.PanicReports transported (entries.map (·.middleware))) signals := by
  obtain ⟨passed, rest, front, back, final, rfl, rfl, passage, ending⟩ := course.split
  cases ending with
  | conclude conclusion =>
      have calls := conclusion.callsIn_eq state concludes
      rw [List.append_nil]
      cases conclusion with
      | @panicked _ request concluded message =>
          have callsTransport := Option.toList_eq_singleton_iff.mp calls.symm
          have reports :
              chain.PanicReports transported
                (passed.map fun entry => entry.middleware)
                (.transport request)
                [chain.interruptedRun
                  ([] ++ passed.map fun entry => entry.middleware) .panicked] :=
            .ofTransport callsTransport
          exact ⟨front, _, _, rfl, passage.isOrderly, reports, reports.isPanic⟩
  | @panic entry rest message =>
      have callsHook : (chain.callOf entry final).hook? = some (chain.phase, entry.middleware) :=
        wellFormed.announces ..
      have reports :
          chain.PanicReports transported
            ((passed ++ entry :: rest).map fun entry => entry.middleware)
            (chain.callOf entry final)
            [chain.interruptedCall entry.middleware .panicked,
              chain.interruptedRun
                (([] ++ passed.map fun entry => entry.middleware) ++ [entry.middleware])
                .panicked] :=
        .ofHook callsHook _
      exact ⟨front, _, _, rfl, passage.isOrderly, reports, reports.isPanic⟩

end Chain

end Middleware
