import Middleware.Proofs.Chain.Course
import Middleware.Proofs.Task.Life

namespace Middleware

/-!
# The stages of a download

A download that is polled runs its request chain. If that fails and the
download is polled again after its pause, it runs its exception chain; and if
either has come to a response, it runs its response chain. What a download
does in the course of a life is what these runs do, one after another, so laws
about downloads come from laws about runs of chains.
-/

variable {σ ν : Type}

/-- A run of a chain. -/
abbrev ChainRun (σ ν : Type) : Type :=
  Run σ (Signal ν) (Standing σ (Signal ν) (Except Failure Outcome))

namespace ChainRun

/-- What a run emits, and then what it emits if it is dropped where it stands. -/
def signalsUntil
    (run : ChainRun σ ν)
    (dropped : Option σ) :
    List (Signal ν) :=
  run.signals ++ run.result.closing dropped

/-- Whether a run does not go on: it has ended, or is dropped where it stands. -/
def isOver
    (run : ChainRun σ ν)
    (dropped : Option σ) :
    Bool :=
  !run.result.isSuspended || dropped.isSome

/-- A run that is not dropped emits nothing more where it stands. -/
@[simp] theorem signalsUntil_none
    (run : ChainRun σ ν) :
    run.signalsUntil none = run.signals := by
  rcases run with ⟨signals, state, standing⟩
  cases standing <;> simp [signalsUntil, Standing.closing]

/-- A run that has finished is over. -/
theorem isOver_of_finished
    {run : ChainRun σ ν}
    {result : Except Failure Outcome}
    {left : List σ}
    (finished : run.result = .finished result left)
    (dropped : Option σ) :
    run.isOver dropped := by
  simp [isOver, finished, Standing.isSuspended]

end ChainRun

namespace Downloader

theorem wellFormed_requestChain
    (downloader : Downloader σ ν)
    (transport : Transport σ ν)
    (request : Request) :
    (downloader.requestChain transport request).WellFormed where
  announces _ _ _ := rfl
  logs _ _ := by simp [requestChain, settledMessages]
  concludes _ := .inr ⟨transport, request, rfl⟩

theorem wellFormed_exceptionChain
    (downloader : Downloader σ ν)
    (request : Request)
    (failure : Failure) :
    (downloader.exceptionChain request failure).WellFormed where
  announces _ _ _ := rfl
  logs _ _ := by simp [exceptionChain, settledMessages]
  concludes _ := .inl ⟨_, rfl⟩

theorem wellFormed_responseChain
    (downloader : Downloader σ ν)
    (request : Request)
    (response : Response) :
    (downloader.responseChain request response).WellFormed where
  announces _ _ _ := rfl
  logs _ _ := by simp [responseChain, settledMessages]
  concludes _ := .inl ⟨_, rfl⟩

/-- The run of the request chain in a download that is polled in some states. -/
def requestRun?
    (downloader : Downloader σ ν)
    (transport : Transport σ ν)
    (request : Request) :
    List σ →
    Option (ChainRun σ ν)
  | [] => none
  | state :: later => some ((downloader.send transport request).drive state later)

/--
The run of the exception chain: there is one if the request chain has failed
and the download is polled again after its pause.
-/
def exceptionRun?
    (downloader : Downloader σ ν)
    (transport : Transport σ ν)
    (request : Request)
    (polls : List σ) :
    Option (ChainRun σ ν) :=
  (downloader.requestRun? transport request polls).bind fun run =>
    match run.result with
    | .finished (.error failure) (state :: later) =>
        some ((downloader.recover request failure).drive state later)
    | _ => none

/-- The run of the response chain after a run of another chain that has come to a response. -/
def runAfter?
    (downloader : Downloader σ ν)
    (request : Request)
    (run : ChainRun σ ν) :
    Option (ChainRun σ ν) :=
  match run.result with
  | .finished (.ok (.response response)) left =>
      some ((downloader.receive request (some (.response response))).drive run.state left)
  | _ => none

/--
The run of the response chain: there is one if the request chain or the
exception chain has come to a response.
-/
def responseRun?
    (downloader : Downloader σ ν)
    (transport : Transport σ ν)
    (request : Request)
    (polls : List σ) :
    Option (ChainRun σ ν) :=
  ((downloader.requestRun? transport request polls).bind
      (downloader.runAfter? request)).or
    ((downloader.exceptionRun? transport request polls).bind
      (downloader.runAfter? request))

theorem mem_requestRun?
    {downloader : Downloader σ ν}
    {transport : Transport σ ν}
    {request : Request}
    {polls : List σ}
    {run : ChainRun σ ν} :
    run ∈ downloader.requestRun? transport request polls ↔
      ∃ state later,
        polls = state :: later ∧
          ((downloader.requestChain transport request).run
            downloader.stack.request ()).drive state later = run := by
  cases polls with
  | nil => simp [requestRun?]
  | cons state later =>
      simp only [requestRun?, Option.mem_some, send]
      constructor
      · rintro rfl
        exact ⟨state, later, rfl, rfl⟩
      · rintro ⟨_, _, samePolls, rfl⟩
        cases samePolls
        rfl

theorem mem_exceptionRun?
    {downloader : Downloader σ ν}
    {transport : Transport σ ν}
    {request : Request}
    {polls : List σ}
    {run : ChainRun σ ν} :
    run ∈ downloader.exceptionRun? transport request polls ↔
      ∃ before ∈ downloader.requestRun? transport request polls,
        ∃ failure state later,
          before.result = .finished (.error failure) (state :: later) ∧
            ((downloader.exceptionChain request failure).run
              downloader.stack.exception ()).drive state later = run := by
  simp only [exceptionRun?, Option.mem_def, Option.bind_eq_some_iff]
  constructor
  · rintro ⟨before, started, shape⟩
    split at shape
    · rename_i failure state later result
      exact ⟨before, started, failure, state, later, result, Option.some.inj shape⟩
    · simp at shape
  · rintro ⟨before, started, failure, state, later, result, rfl⟩
    exact ⟨before, started, by simp [result, recover]⟩

theorem mem_runAfter?
    {downloader : Downloader σ ν}
    {request : Request}
    {before run : ChainRun σ ν} :
    run ∈ downloader.runAfter? request before ↔
      ∃ response left,
        before.result = .finished (.ok (.response response)) left ∧
          ((downloader.responseChain request response).run
            downloader.stack.response response).drive before.state left = run := by
  simp only [runAfter?, Option.mem_def]
  constructor
  · intro shape
    split at shape
    · rename_i response left result
      exact ⟨response, left, result, Option.some.inj shape⟩
    · simp at shape
  · rintro ⟨response, left, result, rfl⟩
    simp [result, receive]

/-- A failed run of the request chain does not come to a response. -/
theorem runAfter?_of_mem_exceptionRun?
    {downloader : Downloader σ ν}
    {transport : Transport σ ν}
    {request : Request}
    {polls : List σ}
    {run : ChainRun σ ν}
    (recovered : run ∈ downloader.exceptionRun? transport request polls) :
    (downloader.requestRun? transport request polls).bind
      (downloader.runAfter? request) = none := by
  obtain ⟨before, started, failure, state, later, result, _⟩ :=
    mem_exceptionRun?.mp recovered
  rw [Option.mem_def.mp started]
  simp [runAfter?, result]

theorem mem_responseRun?
    {downloader : Downloader σ ν}
    {transport : Transport σ ν}
    {request : Request}
    {polls : List σ}
    {run : ChainRun σ ν} :
    run ∈ downloader.responseRun? transport request polls ↔
      ∃ before,
        (before ∈ downloader.requestRun? transport request polls ∨
            before ∈ downloader.exceptionRun? transport request polls) ∧
          run ∈ downloader.runAfter? request before := by
  constructor
  · intro member
    rcases Option.or_eq_some_iff.mp member with afterSending | ⟨_, afterRecovery⟩
    · obtain ⟨before, started, received⟩ := Option.mem_bind_iff.mp afterSending
      exact ⟨before, .inl started, received⟩
    · obtain ⟨before, started, received⟩ := Option.mem_bind_iff.mp afterRecovery
      exact ⟨before, .inr started, received⟩
  · rintro ⟨before, started | recovered, received⟩
    · have afterSending := Option.mem_bind_iff.mpr ⟨before, started, received⟩
      exact Option.or_eq_some_iff.mpr (.inl afterSending)
    · have unresolved := runAfter?_of_mem_exceptionRun? recovered
      exact
        Option.or_eq_some_iff.mpr
          (.inr ⟨unresolved, Option.mem_bind_iff.mpr ⟨before, recovered, received⟩⟩)

theorem course_of_mem_requestRun?
    {downloader : Downloader σ ν}
    {transport : Transport σ ν}
    {request : Request}
    {polls : List σ}
    {run : ChainRun σ ν}
    (started : run ∈ downloader.requestRun? transport request polls) :
    (downloader.requestChain transport request).Course []
      () downloader.stack.request (outline run.signals) run.result := by
  obtain ⟨state, later, _, rfl⟩ := mem_requestRun?.mp started
  exact Chain.course (downloader.wellFormed_requestChain transport request) _ _ _ _

theorem course_of_mem_exceptionRun?
    {downloader : Downloader σ ν}
    {transport : Transport σ ν}
    {request : Request}
    {polls : List σ}
    {run : ChainRun σ ν}
    (recovered : run ∈ downloader.exceptionRun? transport request polls) :
    ∃ failure,
      (downloader.exceptionChain request failure).Course []
        () downloader.stack.exception (outline run.signals) run.result := by
  obtain ⟨_, _, failure, state, later, _, rfl⟩ := mem_exceptionRun?.mp recovered
  exact ⟨failure, Chain.course (downloader.wellFormed_exceptionChain request failure) _ _ _ _⟩

theorem course_of_mem_responseRun?
    {downloader : Downloader σ ν}
    {transport : Transport σ ν}
    {request : Request}
    {polls : List σ}
    {run : ChainRun σ ν}
    (received : run ∈ downloader.responseRun? transport request polls) :
    ∃ response,
      (downloader.responseChain request response).Course []
        response downloader.stack.response (outline run.signals) run.result := by
  obtain ⟨_, _, after⟩ := mem_responseRun?.mp received
  obtain ⟨response, left, _, rfl⟩ := mem_runAfter?.mp after
  exact ⟨response, Chain.course (downloader.wellFormed_responseChain request response) _ _ _ _⟩

/-- The request chain of a download has failed, and the download was polled again. -/
def Recovers
    (downloader : Downloader σ ν)
    (transport : Transport σ ν)
    (request : Request)
    (polls : List σ) :
    Prop :=
  ∃ run ∈ downloader.requestRun? transport request polls,
    ∃ failure state later,
      run.result = .finished (.error failure) (state :: later)

/-- The request chain or the exception chain of a download has come to a response. -/
def Receives
    (downloader : Downloader σ ν)
    (transport : Transport σ ν)
    (request : Request)
    (polls : List σ) :
    Prop :=
  ∃ run,
    (run ∈ downloader.requestRun? transport request polls ∨
        run ∈ downloader.exceptionRun? transport request polls) ∧
      ∃ response left, run.result = .finished (.ok (.response response)) left

theorem isSome_requestRun?_iff
    {downloader : Downloader σ ν}
    {transport : Transport σ ν}
    {request : Request}
    {polls : List σ} :
    (downloader.requestRun? transport request polls).isSome ↔ polls ≠ [] := by
  cases polls <;> simp [requestRun?]

theorem isSome_exceptionRun?_iff
    {downloader : Downloader σ ν}
    {transport : Transport σ ν}
    {request : Request}
    {polls : List σ} :
    (downloader.exceptionRun? transport request polls).isSome ↔
      downloader.Recovers transport request polls := by
  rw [Option.isSome_iff_exists]
  constructor
  · rintro ⟨_, member⟩
    obtain ⟨before, started, failure, state, later, result, _⟩ :=
      mem_exceptionRun?.mp member
    exact ⟨before, started, failure, state, later, result⟩
  · rintro ⟨before, started, failure, state, later, result⟩
    exact ⟨_, mem_exceptionRun?.mpr ⟨before, started, failure, state, later, result, rfl⟩⟩

theorem isSome_responseRun?_iff
    {downloader : Downloader σ ν}
    {transport : Transport σ ν}
    {request : Request}
    {polls : List σ} :
    (downloader.responseRun? transport request polls).isSome ↔
      downloader.Receives transport request polls := by
  rw [Option.isSome_iff_exists]
  constructor
  · rintro ⟨_, member⟩
    obtain ⟨before, started, received⟩ := mem_responseRun?.mp member
    obtain ⟨response, left, result, _⟩ := mem_runAfter?.mp received
    exact ⟨before, started, response, left, result⟩
  · rintro ⟨before, started, response, left, result⟩
    exact
      ⟨_,
        mem_responseRun?.mpr
          ⟨before, started, mem_runAfter?.mpr ⟨response, left, result, rfl⟩⟩⟩

/-- What a run shows if there is one, and is left at some point. -/
def shownBy
    (run : Option (ChainRun σ ν))
    (dropped : Option σ) :
    List (Signal ν) :=
  (run.map (·.signalsUntil dropped)).getD []

/-- What a download does after a chain whose failure stands. -/
def afterRecovery
    (downloader : Downloader σ ν)
    (request : Request) :
    Except Failure Outcome →
    Task σ (Signal ν) (Except Failure Outcome)
  | .ok outcome => downloader.receive request (some outcome)
  | .error failure => .done (.error failure)

/-- What a download does after its request chain. -/
def afterRequest
    (downloader : Downloader σ ν)
    (request : Request) :
    Except Failure Outcome →
    Task σ (Signal ν) (Except Failure Outcome)
  | .ok outcome => downloader.receive request (some outcome)
  | .error failure =>
      Task.pause.bind fun _ =>
        (downloader.recover request failure).bind (downloader.afterRecovery request)

theorem download_eq_bind
    (downloader : Downloader σ ν)
    (transport : Transport σ ν)
    (request : Request) :
    downloader.download transport request =
      (downloader.send transport request).bind (downloader.afterRequest request) :=
  rfl

/--
How the runs of the request, the exception and the response chain make up the
whole of a download.
-/
inductive Staged
    (request : ChainRun σ ν) :
    Option (ChainRun σ ν) →
    Option (ChainRun σ ν) →
    ChainRun σ ν →
    Prop where
  /-- The request chain has not failed, and there is no more to do. -/
  | direct
      (unfailed : ∀ failure left, request.result ≠ .finished (.error failure) left) :
      Staged request none none request
  /-- The download is suspended in the pause after its request chain has failed. -/
  | paused
      {failure : Failure}
      (failed : request.result = .finished (.error failure) []) :
      Staged request none none ⟨request.signals, request.state, .suspended .silent⟩
  | received
      {outcome : Outcome}
      {left : List σ}
      (resolved : request.result = .finished (.ok outcome) left)
      (response : ChainRun σ ν) :
      Staged request none (some response) (response.after request.signals)
  | recovered
      {failure : Failure}
      {left : List σ}
      (failed : request.result = .finished (.error failure) left)
      (exception : ChainRun σ ν) :
      Staged request (some exception) none (exception.after request.signals)
  | recoveredAndReceived
      {failure : Failure}
      {left leftThen : List σ}
      {exception : ChainRun σ ν}
      {outcome : Outcome}
      (failed : request.result = .finished (.error failure) left)
      (resolved : exception.result = .finished (.ok outcome) leftThen)
      (response : ChainRun σ ν) :
      Staged request (some exception) (some response)
        (response.after (request.signals ++ exception.signals))

/-- After a chain whose failure stands there is the run of the response chain, or nothing more. -/
theorem andThen_afterRecovery
    (downloader : Downloader σ ν)
    (request : Request)
    (run : ChainRun σ ν) :
    run.andThen (downloader.afterRecovery request) =
      match downloader.runAfter? request run with
      | some response => response.after run.signals
      | none => run := by
  rcases run with ⟨signals, state, standing⟩
  cases standing with
  | panicked message => rfl
  | suspended abandon => rfl
  | finished result left =>
      cases result with
      | error failure => simp [afterRecovery, runAfter?, Run.after]
      | ok outcome =>
          cases outcome with
          | response response => rfl
          | request retry => simp [afterRecovery, receive, runAfter?, Run.after]

/-- Every polled download is made up of its stages. -/
theorem staged
    (downloader : Downloader σ ν)
    (transport : Transport σ ν)
    (request : Request)
    (state : σ)
    (later : List σ) :
    Staged
      ((downloader.send transport request).drive state later)
      (downloader.exceptionRun? transport request (state :: later))
      (downloader.responseRun? transport request (state :: later))
      ((downloader.download transport request).drive state later) := by
  rw [download_eq_bind, Task.drive_bind]
  simp only [exceptionRun?, responseRun?, requestRun?, Option.bind_some]
  generalize (downloader.send transport request).drive state later = sent
  rcases sent with ⟨signals, after, standing⟩
  cases standing with
  | panicked message => exact .direct (by simp)
  | suspended abandon => exact .direct (by simp)
  | finished result left =>
      cases result with
      | ok outcome =>
          let sent : ChainRun σ ν := ⟨signals, after, .finished (.ok outcome) left⟩
          have sameRest :
              sent.andThen (downloader.afterRequest request) =
                sent.andThen (downloader.afterRecovery request) :=
            rfl
          change
            Staged sent none ((downloader.runAfter? request sent).or none)
              (sent.andThen (downloader.afterRequest request))
          rw [sameRest, andThen_afterRecovery, Option.or_none]
          cases downloader.runAfter? request sent with
          | none => exact .direct (by simp [sent])
          | some response => exact .received rfl response
      | error failure =>
          cases left with
          | nil =>
              have form :
                  Staged ⟨signals, after, .finished (.error failure) []⟩ none none
                    ⟨signals, after, .suspended .silent⟩ :=
                .paused rfl
              simpa [afterRequest, Task.pause, Task.bind, Task.drive, runAfter?, Run.after]
                using form
          | cons resumed later =>
              simp only [Run.andThen_finished, afterRequest, Task.pause, Task.bind, Task.drive]
              rw [Task.drive_bind, andThen_afterRecovery]
              generalize (downloader.recover request failure).drive resumed later = recovered
              change Staged _ (some recovered) (downloader.runAfter? request recovered) _
              cases received : downloader.runAfter? request recovered with
              | none => exact .recovered rfl recovered
              | some response =>
                  obtain ⟨response, left, resolved, rfl⟩ := mem_runAfter?.mp received
                  rw [Run.after_after]
                  exact .recoveredAndReceived rfl resolved _

/-- In each life a download shows what its three stages show, one after another. -/
theorem live_download
    (downloader : Downloader σ ν)
    (transport : Transport σ ν)
    (request : Request)
    (life : Life σ) :
    ((Job.fresh (downloader.download transport request)).live life).1 =
      shownBy (downloader.requestRun? transport request life.polls) life.dropped ++
        shownBy (downloader.exceptionRun? transport request life.polls) life.dropped ++
        shownBy (downloader.responseRun? transport request life.polls) life.dropped := by
  rcases life with ⟨polls, dropped⟩
  cases polls with
  | nil =>
      exact Job.live_unpolled _ dropped
  | cons state later =>
      have made := downloader.staged transport request state later
      rw [Job.live_fresh]
      change ChainRun.signalsUntil _ dropped = _
      simp only [requestRun?]
      generalize (downloader.download transport request).drive state later = whole at made ⊢
      generalize downloader.exceptionRun? transport request (state :: later) = exception at made ⊢
      generalize downloader.responseRun? transport request (state :: later) = response at made ⊢
      cases made with
      | direct unfailed => simp [shownBy]
      | paused failed =>
          cases dropped <;>
            simp [shownBy, ChainRun.signalsUntil, failed, Standing.closing, Burst.silent]
      | received resolved response =>
          simp [shownBy, ChainRun.signalsUntil, resolved, Standing.closing]
      | recovered failed exception =>
          simp [shownBy, ChainRun.signalsUntil, failed, Standing.closing]
      | recoveredAndReceived failed resolved response =>
          simp [shownBy, ChainRun.signalsUntil, failed, resolved, Standing.closing]

/-- In a life in which a download comes to its end, each of its chains does. -/
theorem isOver_of_hasEnded
    {downloader : Downloader σ ν}
    {transport : Transport σ ν}
    {request : Request}
    {life : Life σ}
    (ended :
      ((Job.fresh (downloader.download transport request)).live life).2.hasEnded) :
    (∀ run ∈ downloader.requestRun? transport request life.polls,
        run.isOver life.dropped) ∧
      (∀ run ∈ downloader.exceptionRun? transport request life.polls,
        run.isOver life.dropped) ∧
      ∀ run ∈ downloader.responseRun? transport request life.polls,
        run.isOver life.dropped := by
  rcases life with ⟨polls, dropped⟩
  cases polls with
  | nil =>
      simp [responseRun?, exceptionRun?, requestRun?]
  | cons state later =>
      have made := downloader.staged transport request state later
      rw [Job.hasEnded_live_fresh] at ended
      change ChainRun.isOver _ dropped at ended
      simp only [requestRun?, Option.mem_some]
      generalize (downloader.download transport request).drive state later = whole at made ended
      generalize downloader.exceptionRun? transport request (state :: later) = exception at made ⊢
      generalize downloader.responseRun? transport request (state :: later) = response at made ⊢
      cases made with
      | direct unfailed => simpa using ended
      | paused failed => simpa using ChainRun.isOver_of_finished failed dropped
      | received resolved response =>
          simpa using ⟨ChainRun.isOver_of_finished resolved dropped, ended⟩
      | recovered failed exception =>
          simpa using ⟨ChainRun.isOver_of_finished failed dropped, ended⟩
      | recoveredAndReceived failed resolved response =>
          simpa using
            ⟨ChainRun.isOver_of_finished failed dropped,
              ChainRun.isOver_of_finished resolved dropped,
              ended⟩

end Downloader

namespace Sample

/-- A layer that counts requests, pauses and lets them pass, and passes responses on. -/
def counting : Layer Nat Unit :=
  ((Layer.named "counting").withRequestHook
      (.plain fun _ => do
        Task.perform fun count => ([()], count + 1)
        Task.pause
        return .ok .nothing)).withResponseHook
    (.plain fun exchange => return .ok (.response exchange.2))

/-- A layer that puts a plain response in the place of a failure. -/
def rescuing : Layer Nat Unit :=
  (Layer.named "rescuing").withExceptionHook
    (.plain fun incident => return .ok (.response (.plain incident.1.url)))

/-- A transport that pauses and then fails. -/
def failing : Transport Nat Unit :=
  fun _ => do
    Task.pause
    return .error .timeout

/-- Both layers, so that a download runs all of its chains. -/
def layers : List (Layer Nat Unit) :=
  [counting, rescuing]

/-- The stack of both layers. -/
def stack : Stack Nat Unit :=
  (Stack.empty.add counting).add rescuing

/-- A download through both layers. -/
def download : Task Nat (Signal Unit) (Except Failure Outcome) :=
  (Downloader.ofStack stack).download failing (.get "/")

end Sample

end Middleware
