import Middleware.Blocking
import Middleware.Proofs.Download.Independence
import Middleware.Proofs.Task.Undisturbed

namespace Middleware

/-!
# Blocking calls and downloads

A blocking call does what a download does that nothing disturbs: it emits the
same signals, leaves the same state and comes to the same end. All it adds is a
warning in front of everything. In a single-threaded runtime it does nothing but
warn. A downloader is left as it is, so what is called on it later does not tell
whether there has been a blocking call.
-/

variable {σ τ ρ ν ι κ : Type}

/-- A transport that works on the first part of a state. -/
def ContextualTransport.onFirst
    (transport : ContextualTransport τ ν) :
    ContextualTransport (τ × ρ) ν :=
  fun request context => (transport request context).onFirst

/-- No task that a hook starts hangs. -/
def Hook.NeverHangs (hook : Hook σ ν ι) : Prop :=
  ∀ input context, (hook.start input context).NeverHangs

/-- No hook of a stack hangs. -/
structure Stack.NeverHangs (stack : Stack σ ν) : Prop where
  request : ∀ entry ∈ stack.request, entry.hook.NeverHangs
  response : ∀ entry ∈ stack.response, entry.hook.NeverHangs
  exception : ∀ entry ∈ stack.exception, entry.hook.NeverHangs

namespace Chain

variable {chain : Chain σ ν ι κ}

theorem neverHangs_call
    (chain : Chain σ ν ι κ)
    {entry : Entry σ ν ι}
    (never : entry.hook.NeverHangs)
    (carried : κ) :
    (chain.call entry carried).NeverHangs := by
  rw [call_eq_bind]
  refine .bind (.perform _) fun _ => .bind (((never _ _).relabel _).guarded _) fun answer => ?_
  exact .bind (.perform _) fun _ => .bind (.perform _) fun _ => trivial

theorem neverHangs_finish
    (chain : Chain σ ν ι κ)
    (visited : List String)
    (result : Except Failure Outcome) :
    (chain.finish visited result).NeverHangs :=
  .bind (.perform _) fun _ => trivial

/-- From each hook on, a run hangs only if a hook or the conclusion does. -/
theorem neverHangs_resume
    (concludes : ∀ carried, (chain.conclude carried).NeverHangs)
    {entries : List (Entry σ ν ι)}
    (never : ∀ entry ∈ entries, entry.hook.NeverHangs)
    (visited : List String)
    (carried : κ) :
    (chain.resume visited carried entries).NeverHangs := by
  induction entries generalizing visited carried with
  | nil =>
      rw [resume_nil]
      exact ((concludes carried).guarded _).bind fun _ => chain.neverHangs_finish _ _
  | cons entry rest inductionHypothesis =>
      obtain ⟨entryNever, restNever⟩ := List.forall_mem_cons.mp never
      rw [resume_cons]
      refine ((chain.neverHangs_call entryNever carried).guarded _).bind fun verdict => ?_
      cases verdict with
      | error failure => exact chain.neverHangs_finish _ _
      | ok verdict =>
          cases verdict with
          | settle outcome => exact .bind (.perform _) fun _ => chain.neverHangs_finish _ _
          | proceed next => exact inductionHypothesis restNever _ next

end Chain

namespace Downloader

section NeverHangs

variable {downloader : Downloader σ ν}

theorem neverHangs_callTransport
    {transport : Transport σ ν}
    {request : Request}
    (never : (transport request).NeverHangs) :
    (callTransport transport request).NeverHangs := by
  refine .bind (.perform _) fun _ => .bind (never.relabel _) fun answer => ?_
  refine .bind (.perform _) fun _ => ?_
  cases answer <;> trivial

theorem neverHangs_receive
    (never : downloader.stack.NeverHangs)
    (request : Request)
    (outcome : Outcome) :
    (downloader.receive request (some outcome)).NeverHangs := by
  cases outcome with
  | request retry => trivial
  | response response =>
      have concludes :
          ∀ current, ((downloader.responseChain request response).conclude current).NeverHangs :=
        fun _ => trivial
      exact Chain.neverHangs_resume concludes never.response [] response

/-- A download hangs only if a hook or the transport does. -/
theorem neverHangs_download
    (never : downloader.stack.NeverHangs)
    (transport : Transport σ ν)
    (request : Request)
    (transportNever : (transport request).NeverHangs) :
    (downloader.download transport request).NeverHangs := by
  have sent : (downloader.send transport request).NeverHangs :=
    Chain.neverHangs_resume (fun _ => neverHangs_callTransport transportNever) never.request _ _
  refine sent.bind fun result => ?_
  cases result with
  | ok outcome => exact neverHangs_receive never request outcome
  | error failure =>
      have concludes :
          ∀ carried, ((downloader.exceptionChain request failure).conclude carried).NeverHangs :=
        fun _ => trivial
      have recovered : (downloader.recover request failure).NeverHangs :=
        Chain.neverHangs_resume concludes never.exception [] ()
      refine .bind .pause fun _ => recovered.bind fun result => ?_
      cases result with
      | ok outcome => exact neverHangs_receive never request outcome
      | error failure => trivial

end NeverHangs

/-- The warning that a blocking call from a place begins with, if the place was not warned before. -/
def warningsAt
    (sites : WarnedSites)
    (site : CallSite) :
    List (Signal ν) :=
  if site ∈ sites then [] else [.log (deprecationLine site)]

/-- The download that a blocking call stands for. -/
def asyncDownload
    (downloader : Downloader σ ν)
    (transport : ContextualTransport σ ν)
    (request : Request)
    (context : Context) :
    Task σ (Signal ν) (Except Failure Outcome) :=
  (downloader.inContext context).download (fun request => transport request context) request

/-- A blocking call warns, and then does what it runs through. -/
theorem poll_downloadFrom
    (downloader : Downloader σ ν)
    (sites : WarnedSites)
    (site : CallSite)
    (ambient : Ambient)
    (transport : ContextualTransport σ ν)
    (request : Request)
    (context : Context)
    (state : σ) :
    let call := downloader.downloadFrom sites site ambient transport request context
    (Job.fresh call.2).poll state =
      ((downloader.runThrough ambient transport request context).poll state).after
        (warningsAt sites site) := by
  intro call
  by_cases warned : site ∈ sites
  · simp only [call, downloadFrom, WarnedSites.visit, warningsAt, if_pos warned]
    rfl
  · simp only [call, downloadFrom, WarnedSites.visit, warningsAt, if_neg warned]
    rfl

/-- Outside of single-threaded runtimes, a download is run straight through its suspensions. -/
theorem runThrough_of_mayBlock
    (downloader : Downloader σ ν)
    {ambient : Ambient}
    (mayBlock : ambient ≠ .singleThreaded)
    (transport : ContextualTransport σ ν)
    (request : Request)
    (context : Context) :
    downloader.runThrough ambient transport request context =
      (downloader.asyncDownload transport request context).withoutPauses := by
  cases ambient with
  | outside => rfl
  | singleThreaded => exact (mayBlock rfl).elim
  | multiThreaded => rfl

/-- A blocking call shows no warning among its own. -/
theorem outline_warningsAt
    (sites : WarnedSites)
    (site : CallSite) :
    outline (warningsAt sites site : List (Signal ν)) = [] := by
  have notSettled : (deprecationLine site).message ∉ settledMessages := by
    simp [deprecationLine, settledMessages]
  by_cases warned : site ∈ sites
  · rw [warningsAt, if_pos warned, outline_nil]
  · rw [warningsAt, if_neg warned, outline_log, if_neg notSettled, outline_nil]

/--
Calls on a downloader do from one state what they do from another: downloads in
any turns, and blocking calls, for which other places may have been warned before.
They show the same of themselves, come to the same ends and leave the first parts
of the states the same.
-/
def CallsAgree
    (downloader : Downloader (τ × ρ) ν)
    (sites otherSites : WarnedSites)
    (state other : τ × ρ) :
    Prop :=
  (∀ downloads turns,
    let jobs := downloader.jobsOf (downloadsOnFirst downloads)
    let run := jobs.follow state turns
    let otherRun := jobs.follow other turns
    Pool.outline run.signals = Pool.outline otherRun.signals ∧
      run.result.map Job.fate = otherRun.result.map Job.fate ∧
      run.state.1 = otherRun.state.1) ∧
    ∀ site ambient (transport : ContextualTransport τ ν) request context,
      let call sites := downloader.downloadFrom sites site ambient transport.onFirst request context
      let run := (Job.fresh (call sites).2).poll state
      let otherRun := (Job.fresh (call otherSites).2).poll other
      outline run.signals = outline otherRun.signals ∧
        run.result.fate = otherRun.result.fate ∧
        run.state.1 = otherRun.state.1

section Watched

variable (stack : Stack τ ν)
variable (own : Context)
variable (observer : Observer ρ ν)
variable (stopwatch : Event → τ × ρ → Duration)

/-- What a blocking call runs through has its observed form, too. -/
theorem observedAs_runThrough
    (ambient : Ambient)
    (transport : ContextualTransport τ ν)
    (request : Request)
    (context : Context) :
    ((bare stack own).runThrough ambient transport request context).ObservedAs observer
      ((watched stack own observer stopwatch).runThrough ambient transport.onFirst request
        context) := by
  have observed :=
    observedAs_download stack context observer stopwatch (fun request => transport request context)
      request
  cases ambient with
  | outside => exact observed.withoutPauses
  | singleThreaded => exact .done _
  | multiThreaded => exact observed.withoutPauses

/-- A downloader that reports to an observer does the same from states that differ in it alone. -/
theorem callsAgree_watched
    (sites otherSites : WarnedSites)
    (state : τ)
    (rest other : ρ) :
    (watched stack own observer stopwatch).CallsAgree sites otherSites
      (state, rest) (state, other) := by
  constructor
  · intro downloads turns jobs run otherRun
    have observed := observedAs_jobsOf stack own observer stopwatch downloads
    obtain ⟨shown, left, _, ends⟩ := observed.follow turns state rest
    obtain ⟨otherShown, otherLeft, _, otherEnds⟩ := observed.follow turns state other
    exact
      ⟨shown.trans otherShown.symm,
        ends.map_fate_eq.trans otherEnds.map_fate_eq.symm,
        left.trans otherLeft.symm⟩
  · intro site ambient transport request context call run otherRun
    have observed := observedAs_runThrough stack own observer stopwatch ambient transport request context
    have first := observed.poll state rest
    have second := observed.poll state other
    simp only [run, otherRun, call]
    rw [poll_downloadFrom, poll_downloadFrom]
    simp only [Run.signals_after, Run.result_after, Run.state_after, outline_append,
      outline_warningsAt, List.nil_append]
    exact
      ⟨first.shown.trans second.shown.symm,
        first.result.fate_eq.trans second.result.fate_eq.symm,
        first.left.trans second.left.symm⟩

end Watched

/--
In a single-threaded runtime a blocking call warns at most, and fails. In any
other it does what the download does that it stands for: if that comes to its end
when it is polled some number of times, which it does if no hook and no transport
hangs, the blocking call emits the same signals after its warning, leaves the same
state and comes to the same end. If it leaves the state of the hooks as it finds
it, whatever is called later on the downloader, which keeps its own context, does
what it does without the blocking call.
-/
theorem downloadFrom_refines_download
    (downloader : Downloader (τ × ρ) ν)
    (sites : WarnedSites)
    (site : CallSite)
    (ambient : Ambient)
    (transport : ContextualTransport (τ × ρ) ν)
    (request : Request)
    (context : Context)
    (start : τ × ρ) :
    let call := downloader.downloadFrom sites site ambient transport request context
    let run := (Job.fresh call.2).poll start
    let warnings := warningsAt sites site
    (ambient = .singleThreaded →
      run.summary =
        ⟨warnings, start, .finished (.error (.invalidState .singleThreadedRuntime))⟩) ∧
      (ambient ≠ .singleThreaded →
        let async := Job.fresh (downloader.asyncDownload transport request context)
        (∀ count,
          let polled := async.pollTimes start count
          polled.result.hasEnded → run.summary = polled.summary.after warnings) ∧
          (downloader.stack.NeverHangs →
            (∀ request, (transport request context).NeverHangs) →
            ∃ count, (async.pollTimes start count).result.hasEnded)) ∧
      ∀ stack own observer stopwatch,
        downloader = watched stack own observer stopwatch →
          run.state.1 = start.1 →
          downloader.CallsAgree call.1 sites run.state start := by
  intro call run warnings
  have polled := poll_downloadFrom downloader sites site ambient transport request context start
  refine ⟨?refused, ?runThrough, ?later⟩
  case refused =>
    rintro rfl
    simp only [run, call, polled]
    rw [runThrough]
    simp [Run.summary, Run.after, Task.poll, Job.fate, warnings]
  case runThrough =>
    intro mayBlock async
    constructor
    · intro count polledTimes ended
      have settles := Job.settles_fresh (downloader.asyncDownload transport request context) start
      have rests :=
        Task.summary_poll_withoutPauses
          (downloader.asyncDownload transport request context) start
      rw [settles.summary_eq ended, ← rests]
      simp only [run, call, polled, downloader.runThrough_of_mayBlock mayBlock]
      rfl
    · intro never transportNever
      have sameHooks : (downloader.inContext context).stack.NeverHangs := never
      have neverHangs : (downloader.asyncDownload transport request context).NeverHangs :=
        neverHangs_download sameHooks (fun request => transport request context) request
          (transportNever request)
      exact neverHangs.exists_hasEnded start
  case later =>
    rintro stack own observer stopwatch rfl keeps
    rcases start with ⟨state, rest⟩
    rcases leftBy : run.state with ⟨after, restAfter⟩
    rw [leftBy] at keeps
    obtain rfl : after = state := keeps
    exact callsAgree_watched stack own observer stopwatch call.1 sites after restAfter rest

/--
A blocking call outside of runtimes, with a transport that responds with its
context and an observer that counts events. It does in one poll what the download
does in three, and nothing but the count tells it afterwards.
-/
theorem downloadFrom_refines_download_counted :
    let sink : Sink Nat Unit := ⟨"count", fun _ _ count => ⟨[], count + 1, none⟩⟩
    let downloader := watched Sample.pausing .default (.sink sink) fun _ _ => .zero
    let transport : ContextualTransport (Unit × Nat) Unit := fun _ context => do
      Task.pause
      return .ok (.plain context.actor)
    let context := Context.ofActor "reader"
    let site : CallSite := ⟨"main", 3, 1⟩
    let call := downloader.downloadFrom [] site .outside transport (.get "/") context
    let run := (Job.fresh call.2).poll ((), 0)
    let polled :=
      (Job.fresh (downloader.asyncDownload transport (.get "/") context)).pollTimes ((), 0) 3
    run.summary.result = .finished (.ok (.response (.plain "reader"))) ∧
      run.summary = polled.summary.after [.log (deprecationLine site)] ∧
      run.state = ((), 3) ∧
      downloader.CallsAgree [site] [] run.state ((), 0) := by
  intro sink downloader transport context site call run polled
  obtain ⟨_, runsThrough, later⟩ :=
    downloadFrom_refines_download downloader [] site .outside transport (.get "/") context ((), 0)
  have refined := (runsThrough (by decide)).1 3 rfl
  exact ⟨rfl, refined, rfl, later _ _ _ _ rfl rfl⟩

end Downloader

end Middleware
