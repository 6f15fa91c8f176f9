import Middleware.Download
import Middleware.Proofs.Task.Drive
import Middleware.Proofs.Telemetry.Outline

namespace Middleware

/-!
# The course of a chain

Whatever hooks, transport and observer do, and wherever a run of a chain is
left, its outline has one of a few forms. `Chain.Course` lists them, one for
each thing that can become of the next call: the chain proceeds, is settled,
fails, or is left by a panic or at a suspension. The main statement is that
every run takes such a course, so that a law about all runs is an induction
over courses.
-/

variable {σ ν ι κ : Type}

namespace Downloader

/-- What a chain comes to by what the transport comes back with. -/
def transportResult : Except Cause Response → Except Failure Outcome
  | .ok response => .ok (.response response)
  | .error cause => .error (.transport cause)

/-- A call of the transport in its parts: the call, what the transport does, and its return. -/
theorem callTransport_eq_bind
    (transport : Transport σ ν)
    (request : Request) :
    callTransport transport request =
      (Task.emit (.call (.transport request))).bind fun _ =>
        ((transport request).relabel .note).bind fun answer =>
          (Task.emit (.returned (.ofTransport answer))).bind fun _ =>
            .done (transportResult answer) := by
  simp only [callTransport, Task.bind_eq_bind]
  congr
  funext _
  congr
  funext answer
  cases answer <;> rfl

/-- A call of the transport shows the call, what the transport does, and its return. -/
theorem drive_callTransport
    (transport : Transport σ ν)
    (request : Request)
    (state : σ)
    (later : List σ) :
    (callTransport transport request).drive state later =
      ((((transport request).drive state later).relabel .note).andThen fun answer =>
        (Task.emit (.returned (.ofTransport answer))).bind fun _ =>
          .done (transportResult answer)).after [.call (.transport request)] := by
  rw [callTransport_eq_bind, Task.drive_bind, Task.drive_emit, Run.andThen_finished,
    Task.drive_bind, Task.drive_relabel]

end Downloader

namespace Chain

/-- The call of a hook, as it shows. -/
def callOf
    (chain : Chain σ ν ι κ)
    (entry : Entry σ ν ι)
    (carried : κ) :
    Call :=
  chain.announce entry.middleware (chain.input carried)
    (entry.hook.visibleContext chain.context)

/-- The report of a hook call that did not finish. -/
def interruptedCall
    (chain : Chain σ ν ι κ)
    (middleware : String)
    (interruption : Interruption) :
    Event :=
  .method (.interrupted chain.phase middleware interruption)

/-- The report of a run that did not finish. -/
def interruptedRun
    (chain : Chain σ ν ι κ)
    (visited : List String)
    (interruption : Interruption) :
    Event :=
  .chain (.interrupted chain.phase chain.subject visited interruption)

/-- The report of a run that came to a result. -/
def finishedRun
    (chain : Chain σ ν ι κ)
    (visited : List String)
    (result : Except Failure Outcome) :
    Event :=
  .chain (.finished chain.phase (chain.finalSubject result) visited (failure? result))

/-- What a hook call shows that comes back: the call, the answer and the report. -/
def answered
    (chain : Chain σ ν ι κ)
    (entry : Entry σ ν ι)
    (carried : κ)
    (answer : Answer) :
    List (Signal ν) :=
  [.call (chain.callOf entry carried),
    .returned (.ofAnswer answer),
    .event
      (.method
        (.finished chain.phase entry.middleware
          (failure? (chain.verdict entry.middleware answer))))]

/-- A call of a hook in its parts: the call, what the hook does in its scope, and the report. -/
theorem call_eq_bind
    (chain : Chain σ ν ι κ)
    (entry : Entry σ ν ι)
    (carried : κ) :
    chain.call entry carried =
      (Task.emit (.call (chain.callOf entry carried))).bind fun _ =>
        (((entry.hook.start (chain.input carried) chain.context).relabel .note).guarded
            (chain.closeMethod entry.middleware)).bind fun answer =>
          (Task.emit (.returned (.ofAnswer answer))).bind fun _ =>
            (Task.perform
              (chain.reportMethod
                (.finished chain.phase entry.middleware
                  (failure? (chain.verdict entry.middleware answer))))).bind fun _ =>
              .done (chain.verdict entry.middleware answer) :=
  rfl

/-- What a hook call shows, and where it stands. -/
inductive Called
    (chain : Chain σ ν ι κ)
    (entry : Entry σ ν ι)
    (carried : κ) :
    List (Signal ν) →
    Standing σ (Signal ν) (Except Failure (Verdict κ)) →
    Prop where
  | answered (answer : Answer) (left : List σ) :
      Called chain entry carried
        (chain.answered entry carried answer)
        (.finished (chain.verdict entry.middleware answer) left)
  | panicked (message : String) :
      Called chain entry carried
        [.call (chain.callOf entry carried),
          .event (chain.interruptedCall entry.middleware .panicked)]
        (.panicked message)
  | suspended
      (abandon : Burst σ (Signal ν))
      (closes :
        ∀ state,
          outline (abandon state).1 =
            [.event (chain.interruptedCall entry.middleware .cancelled)]) :
      Called chain entry carried
        [.call (chain.callOf entry carried)]
        (.suspended abandon)

/-- Every hook call comes back, panics or is suspended, and shows accordingly. -/
theorem called
    (chain : Chain σ ν ι κ)
    (entry : Entry σ ν ι)
    (carried : κ)
    (state : σ)
    (later : List σ) :
    chain.Called entry carried
      (outline ((chain.call entry carried).drive state later).signals)
      ((chain.call entry carried).drive state later).result := by
  rw [call_eq_bind, Task.drive_bind, Task.drive_emit, Run.andThen_finished, Task.drive_bind,
    Task.drive_guarded, Task.drive_relabel]
  rcases (entry.hook.start (chain.input carried) chain.context).drive state later with
    ⟨notes, after, standing⟩
  cases standing with
  | finished answer left =>
      simpa [Run.relabel, Run.guarded, Task.drive_bind, reportMethod, answered] using
        Called.answered answer left
  | panicked message =>
      simpa [Run.relabel, Run.guarded, closeMethod, reportMethod, interruptedCall] using
        Called.panicked message
  | suspended abandon =>
      simp only [Run.relabel, Run.guarded, Run.andThen_suspended, Run.signals_after,
        Run.result_after, outline_append, outline_notes, outline_call, outline_nil,
        List.append_nil]
      apply Called.suspended
      intro state
      simp [Burst.followedBy, Burst.relabel, closeMethod, reportMethod, interruptedCall]

/-- What the rules of a chain must meet for its runs to have an outline. -/
structure WellFormed (chain : Chain σ ν ι κ) : Prop where
  announces :
    ∀ middleware input context,
      (chain.announce middleware input context).hook? = some (chain.phase, middleware)
  logs :
    ∀ middleware outcome,
      (chain.settledLine middleware outcome).message ∈ settledMessages
  concludes :
    ∀ carried,
      (∃ result, chain.conclude carried = .done result) ∨
        ∃ transport request,
          chain.conclude carried = Downloader.callTransport transport request

/-- What a chain shows when no hook has settled it, from its conclusion on. -/
inductive Conclusion
    (chain : Chain σ ν ι κ)
    (visited : List String)
    (carried : κ) :
    List (Signal ν) →
    Standing σ (Signal ν) (Except Failure Outcome) →
    Prop where
  | stated
      {result : Except Failure Outcome}
      (concluded : chain.conclude carried = .done result)
      (left : List σ) :
      Conclusion chain visited carried
        [.event (chain.finishedRun visited result)]
        (.finished result left)
  | transported
      {transport : Transport σ ν}
      {request : Request}
      (concluded : chain.conclude carried = Downloader.callTransport transport request)
      (answer : Except Cause Response)
      (left : List σ) :
      Conclusion chain visited carried
        [.call (.transport request),
          .returned (.ofTransport answer),
          .event (chain.finishedRun visited (Downloader.transportResult answer))]
        (.finished (Downloader.transportResult answer) left)
  | panicked
      {transport : Transport σ ν}
      {request : Request}
      (concluded : chain.conclude carried = Downloader.callTransport transport request)
      (message : String) :
      Conclusion chain visited carried
        [.call (.transport request),
          .event (chain.interruptedRun visited .panicked)]
        (.panicked message)
  | suspended
      {transport : Transport σ ν}
      {request : Request}
      (concluded : chain.conclude carried = Downloader.callTransport transport request)
      (abandon : Burst σ (Signal ν))
      (closes :
        ∀ state,
          outline (abandon state).1 =
            [.event (chain.interruptedRun visited .cancelled)]) :
      Conclusion chain visited carried
        [.call (.transport request)]
        (.suspended abandon)

/--
The outline of a run of a chain, from some hook on, and where the run stands.
The middlewares visited so far, what is carried and the hooks to come are given.
-/
inductive Course (chain : Chain σ ν ι κ) :
    List String →
    κ →
    List (Entry σ ν ι) →
    List (Signal ν) →
    Standing σ (Signal ν) (Except Failure Outcome) →
    Prop where
  | conclude
      {visited : List String}
      {carried : κ}
      {signals : List (Signal ν)}
      {standing : Standing σ (Signal ν) (Except Failure Outcome)}
      (conclusion : Conclusion chain visited carried signals standing) :
      Course chain visited carried [] signals standing
  | proceed
      {visited : List String}
      {carried next : κ}
      {entry : Entry σ ν ι}
      {rest : List (Entry σ ν ι)}
      {answer : Answer}
      {signals : List (Signal ν)}
      {standing : Standing σ (Signal ν) (Except Failure Outcome)}
      (verdict : chain.verdict entry.middleware answer = .ok (.proceed next))
      (later : Course chain (visited ++ [entry.middleware]) next rest signals standing) :
      Course chain visited carried (entry :: rest)
        (chain.answered entry carried answer ++ signals)
        standing
  | settle
      {visited : List String}
      {carried : κ}
      {entry : Entry σ ν ι}
      {rest : List (Entry σ ν ι)}
      {answer : Answer}
      {outcome : Outcome}
      (verdict : chain.verdict entry.middleware answer = .ok (.settle outcome))
      (left : List σ) :
      Course chain visited carried (entry :: rest)
        (chain.answered entry carried answer ++
          [.log (chain.settledLine entry.middleware outcome),
            .event (chain.finishedRun (visited ++ [entry.middleware]) (.ok outcome))])
        (.finished (.ok outcome) left)
  | fail
      {visited : List String}
      {carried : κ}
      {entry : Entry σ ν ι}
      {rest : List (Entry σ ν ι)}
      {answer : Answer}
      {failure : Failure}
      (verdict : chain.verdict entry.middleware answer = .error failure)
      (left : List σ) :
      Course chain visited carried (entry :: rest)
        (chain.answered entry carried answer ++
          [.event (chain.finishedRun (visited ++ [entry.middleware]) (.error failure))])
        (.finished (.error failure) left)
  | panic
      {visited : List String}
      {carried : κ}
      {entry : Entry σ ν ι}
      {rest : List (Entry σ ν ι)}
      (message : String) :
      Course chain visited carried (entry :: rest)
        [.call (chain.callOf entry carried),
          .event (chain.interruptedCall entry.middleware .panicked),
          .event (chain.interruptedRun (visited ++ [entry.middleware]) .panicked)]
        (.panicked message)
  | suspend
      {visited : List String}
      {carried : κ}
      {entry : Entry σ ν ι}
      {rest : List (Entry σ ν ι)}
      (abandon : Burst σ (Signal ν))
      (closes :
        ∀ state,
          outline (abandon state).1 =
            [.event (chain.interruptedCall entry.middleware .cancelled),
              .event (chain.interruptedRun (visited ++ [entry.middleware]) .cancelled)]) :
      Course chain visited carried (entry :: rest)
        [.call (chain.callOf entry carried)]
        (.suspended abandon)

/-- Report that the run has come to a result, and end with it. -/
def finish
    (chain : Chain σ ν ι κ)
    (visited : List String)
    (result : Except Failure Outcome) :
    Task σ (Signal ν) (Except Failure Outcome) :=
  (Task.perform
    (chain.reportChain
      (.finished chain.phase (chain.finalSubject result) visited (failure? result)))).bind
    fun _ => .done result

/-- A run of a chain from some hook on. -/
def resume
    (chain : Chain σ ν ι κ)
    (visited : List String)
    (carried : κ)
    (entries : List (Entry σ ν ι)) :
    Task σ (Signal ν) (Except Failure Outcome) :=
  (chain.walk visited carried entries).bind fun (visited, result) =>
    chain.finish visited result

theorem run_eq_resume
    (chain : Chain σ ν ι κ)
    (entries : List (Entry σ ν ι))
    (carried : κ) :
    chain.run entries carried = chain.resume [] carried entries :=
  rfl

theorem resume_nil
    (chain : Chain σ ν ι κ)
    (visited : List String)
    (carried : κ) :
    chain.resume visited carried [] =
      ((chain.conclude carried).guarded (chain.closeChain visited)).bind
        (chain.finish visited) := by
  simp only [resume, walk, Task.bind_eq_bind, Task.pure_eq_done]
  rw [Task.bind_assoc]
  rfl

theorem resume_cons
    (chain : Chain σ ν ι κ)
    (visited : List String)
    (carried : κ)
    (entry : Entry σ ν ι)
    (rest : List (Entry σ ν ι)) :
    chain.resume visited carried (entry :: rest) =
      ((chain.call entry carried).guarded
          (chain.closeChain (visited ++ [entry.middleware]))).bind fun
        | .error failure =>
            chain.finish (visited ++ [entry.middleware]) (.error failure)
        | .ok (.settle outcome) =>
            (Task.emit (.log (chain.settledLine entry.middleware outcome))).bind fun _ =>
              chain.finish (visited ++ [entry.middleware]) (.ok outcome)
        | .ok (.proceed next) =>
            chain.resume (visited ++ [entry.middleware]) next rest := by
  simp only [resume, walk, Task.bind_eq_bind, Task.pure_eq_done]
  rw [Task.bind_assoc]
  congr
  funext verdict
  cases verdict with
  | error failure => rfl
  | ok verdict =>
      cases verdict with
      | proceed next => rfl
      | settle outcome => rfl

@[simp] theorem outline_signals_finish
    (chain : Chain σ ν ι κ)
    (visited : List String)
    (result : Except Failure Outcome)
    (state : σ)
    (later : List σ) :
    outline ((chain.finish visited result).drive state later).signals =
      [.event (chain.finishedRun visited result)] := by
  simp [finish, Task.drive_bind, reportChain, finishedRun]

@[simp] theorem result_finish
    (chain : Chain σ ν ι κ)
    (visited : List String)
    (result : Except Failure Outcome)
    (state : σ)
    (later : List σ) :
    ((chain.finish visited result).drive state later).result =
      .finished result later := by
  simp [finish, Task.drive_bind]

/-- From its conclusion on, a chain shows what its conclusion shows. -/
theorem conclusion
    {chain : Chain σ ν ι κ}
    (wellFormed : chain.WellFormed)
    (visited : List String)
    (carried : κ)
    (state : σ)
    (later : List σ) :
    chain.Conclusion visited carried
      (outline ((chain.resume visited carried []).drive state later).signals)
      ((chain.resume visited carried []).drive state later).result := by
  rw [resume_nil, Task.drive_bind, Task.drive_guarded]
  rcases wellFormed.concludes carried with ⟨result, concluded⟩ | ⟨transport, request, concluded⟩
  · rw [concluded]
    simpa [Run.guarded] using Conclusion.stated concluded later
  · rw [concluded, Downloader.drive_callTransport]
    rcases (transport request).drive state later with ⟨notes, after, standing⟩
    cases standing with
    | finished answer left =>
        simpa [Run.relabel, Run.guarded, Task.drive_bind] using
          Conclusion.transported concluded answer left
    | panicked message =>
        simpa [Run.relabel, Run.guarded, closeChain, reportChain, interruptedRun] using
          Conclusion.panicked concluded message
    | suspended abandon =>
        simp only [Run.relabel, Run.guarded, Run.andThen_suspended, Run.signals_after,
          Run.result_after, outline_append, outline_notes, outline_call, outline_nil,
          List.append_nil]
        apply Conclusion.suspended concluded
        intro state
        simp [Burst.followedBy, Burst.relabel, closeChain, reportChain, interruptedRun]

/-- From each hook on, a run takes a course. -/
theorem course_resume
    {chain : Chain σ ν ι κ}
    (wellFormed : chain.WellFormed)
    (entries : List (Entry σ ν ι))
    (visited : List String)
    (carried : κ)
    (state : σ)
    (later : List σ) :
    chain.Course visited carried entries
      (outline ((chain.resume visited carried entries).drive state later).signals)
      ((chain.resume visited carried entries).drive state later).result := by
  induction entries generalizing visited carried state later with
  | nil =>
      exact .conclude (chain.conclusion wellFormed visited carried state later)
  | cons entry rest inductionHypothesis =>
      have called := chain.called entry carried state later
      rw [resume_cons, Task.drive_bind, Task.drive_guarded]
      generalize (chain.call entry carried).drive state later = run at called ⊢
      rcases run with ⟨signals, after, standing⟩
      generalize shown : outline signals = outlined at called
      cases called with
      | answered answer left =>
          cases verdict : chain.verdict entry.middleware answer with
          | error failure =>
              simpa [Run.guarded, verdict, shown] using Course.fail verdict left
          | ok accepted =>
              cases accepted with
              | settle outcome =>
                  simpa [Run.guarded, verdict, shown, Task.drive_bind, outline_log,
                    wellFormed.logs] using
                    Course.settle verdict left
              | proceed next =>
                  simpa [Run.guarded, verdict, shown] using
                    Course.proceed verdict
                      (inductionHypothesis (visited ++ [entry.middleware]) next after left)
      | panicked message =>
          simpa [Run.guarded, shown, closeChain, reportChain, interruptedRun] using
            Course.panic message
      | suspended abandon closes =>
          simp only [Run.guarded, Run.andThen_suspended, shown]
          apply Course.suspend
          intro state
          simp [Burst.followedBy, closes, closeChain, reportChain, interruptedRun]

/-- Every run of a chain takes a course. -/
theorem course
    {chain : Chain σ ν ι κ}
    (wellFormed : chain.WellFormed)
    (entries : List (Entry σ ν ι))
    (carried : κ)
    (state : σ)
    (later : List σ) :
    chain.Course [] carried entries
      (outline ((chain.run entries carried).drive state later).signals)
      ((chain.run entries carried).drive state later).result := by
  rw [run_eq_resume]
  exact chain.course_resume wellFormed entries [] carried state later

variable {chain : Chain σ ν ι κ}

/-- The call of a hook shows the phase of its chain and the middleware of the hook. -/
theorem WellFormed.hookIn?_callOf
    (wellFormed : chain.WellFormed)
    (phase : Phase)
    (entry : Entry σ ν ι)
    (carried : κ) :
    (chain.callOf entry carried).hookIn? phase =
      if chain.phase = phase then some entry.middleware else none := by
  simp [Call.hookIn?, callOf, wellFormed.announces]

theorem WellFormed.hookCallsIn_answered
    (wellFormed : chain.WellFormed)
    (entry : Entry σ ν ι)
    (carried : κ)
    (answer : Answer)
    (rest : List (Signal ν)) :
    hookCallsIn chain.phase (chain.answered entry carried answer ++ rest) =
      entry.middleware :: hookCallsIn chain.phase rest := by
  simp [answered, wellFormed.hookIn?_callOf]

/-- A hook that has been called and has come back is the first of the calls. -/
theorem callsIn_answered
    (entry : Entry σ ν ι)
    (carried : κ)
    (answer : Answer)
    (rest : List (Signal ν)) :
    callsIn (chain.answered entry carried answer ++ rest) =
      (chain.callOf entry carried, some (.ofAnswer answer)) :: callsIn rest :=
  rfl

theorem eventsIn_answered
    (entry : Entry σ ν ι)
    (carried : κ)
    (answer : Answer)
    (rest : List (Signal ν)) :
    eventsIn (chain.answered entry carried answer ++ rest) =
      .method
          (.finished chain.phase entry.middleware
            (failure? (chain.verdict entry.middleware answer))) ::
        eventsIn rest :=
  rfl

end Chain

end Middleware
