import Middleware.Proofs.Download.CallOrder
import Middleware.Proofs.Telemetry.Completeness

namespace Middleware

/-!
# Dropping a download

A download that is suspended is suspended in a hook, in the transport or in the
pause after its request chain has failed, and one that was never polled is in
none of them. The main statement says for each of these places what a drop
there reports, that all of it is reported as cancelled, and that nothing of what
the download has shown before is changed or followed by a call. As for every job, the
thread that drops the download is not unwinding from another panic.
-/

variable {σ ν ι κ : Type}

/-- An event that reports a drop, and no panic and no failure with it. -/
def Event.IsCancellation : Event → Prop
  | .method report =>
      report.cancelled = true ∧ report.panicked = false ∧ report.failure = none
  | .chain report =>
      report.cancelled = true ∧ report.panicked = false ∧ report.failure = none

namespace Downloader

/--
What is reported when a download is dropped, by where it is suspended. The
polls before the drop and what the download has shown in them are given.
-/
inductive DropReports
    (downloader : Downloader σ ν)
    (transport : Transport σ ν)
    (request : Request)
    (polls : List σ)
    (signals : List (Signal ν)) :
    List Event →
    Prop where
  /-- The download was never polled. -/
  | unpolled
      (never : polls = [])
      (silent : signals = []) :
      DropReports downloader transport request polls signals []
  /-- The download pauses after its request chain has failed. -/
  | inPause
      {run : ChainRun σ ν}
      {failure : Failure}
      (started : run ∈ downloader.requestRun? transport request polls)
      (failed : run.result = .finished (.error failure) [])
      (allBack : AllBack signals) :
      DropReports downloader transport request polls signals []
  | inHook
      {earlier : List (Call × Option Return)}
      {call : Call}
      {phase : Phase}
      {middleware : String}
      {subject : Outcome}
      (isOpen : callsIn signals = earlier ++ [(call, none)])
      (callsHook : call.hook? = some (phase, middleware))
      (calledLast : (hookCallsIn phase signals).getLast? = some middleware) :
      DropReports downloader transport request polls signals
        [.method (.interrupted phase middleware .cancelled),
          .chain (.interrupted phase subject (hookCallsIn phase signals) .cancelled)]
  | inTransport
      {earlier : List (Call × Option Return)}
      (isOpen : callsIn signals = earlier ++ [(.transport request, none)]) :
      DropReports downloader transport request polls signals
        [.chain
          (.interrupted .request (.request request) (downloader.stack.hookNames .request)
            .cancelled)]

/-- All reports of a drop are cancellations. -/
theorem DropReports.isCancellation
    {downloader : Downloader σ ν}
    {transport : Transport σ ν}
    {request : Request}
    {polls : List σ}
    {signals : List (Signal ν)}
    {events : List Event}
    (reports : downloader.DropReports transport request polls signals events) :
    ∀ event ∈ events, event.IsCancellation := by
  cases reports <;>
    simp [Event.IsCancellation, MethodReport.interrupted, ChainReport.interrupted]

variable {downloader : Downloader σ ν}
variable {transport : Transport σ ν}
variable {request : Request}
variable {polls : List σ}

/-- What the drop of a run of a chain reports is what the drop of the download reports. -/
theorem DropReports.of_closes
    {chain : Chain σ ν ι κ}
    {middlewares : List String}
    {before signals : List (Signal ν)}
    {events : List Event}
    (noReturn : replyTo signals = none)
    (noOther : hookCallsIn chain.phase before = [])
    (inTransport :
      ∀ carried called other,
        chain.conclude carried = callTransport called other →
          other = request ∧
            chain.interruptedRun middlewares .cancelled =
              .chain
                (.interrupted .request (.request request) (downloader.stack.hookNames .request)
                  .cancelled))
    (closes : chain.Closes [] middlewares (outline signals) events) :
    downloader.DropReports transport request polls (before ++ signals) events := by
  have stillOpen :
      ∀ {earlier last},
        callsIn signals = earlier ++ [last] →
          callsIn (before ++ signals) = callsIn before ++ earlier ++ [last] := by
    intro earlier last isOpen
    rw [callsIn_append before noReturn, isOpen, List.append_assoc]
  have sameHooks :
      hookCallsIn chain.phase (before ++ signals) = hookCallsIn chain.phase signals := by
    simp [noOther]
  cases closes with
  | hook isOpen callsHook calledLast =>
      rw [callsIn_outline] at isOpen
      rw [hookCallsIn_outline, ← sameHooks] at calledLast
      rw [List.nil_append, hookCallsIn_outline, ← sameHooks]
      exact .inHook (stillOpen isOpen) callsHook calledLast
  | transport isOpen concluded =>
      obtain ⟨rfl, sameReport⟩ := inTransport _ _ _ concluded
      rw [callsIn_outline] at isOpen
      rw [List.nil_append, sameReport]
      exact .inTransport (stillOpen isOpen)

/-- What a run emits when it is dropped, as what the drop of the download reports. -/
def ReportsDrop
    (downloader : Downloader σ ν)
    (transport : Transport σ ν)
    (request : Request)
    (polls : List σ)
    (before : List (Signal ν))
    (run : ChainRun σ ν) :
    Prop :=
  ∀ state,
    ∃ events,
      outline (run.result.closing (some state)) = events.map .event ∧
        downloader.DropReports transport request polls (before ++ run.signals) events

/-- What a run of a chain that is suspended reports when it is dropped. -/
theorem reportsDrop_of_course
    {chain : Chain σ ν ι κ}
    (wellFormed : chain.WellFormed)
    {carried : κ}
    {entries : List (Entry σ ν ι)}
    {run : ChainRun σ ν}
    (course : chain.Course [] carried entries (outline run.signals) run.result)
    (suspended : run.result.isSuspended)
    {before : List (Signal ν)}
    (noOther : hookCallsIn chain.phase before = [])
    (inTransport :
      ∀ carried called other,
        chain.conclude carried = callTransport called other →
          other = request ∧
            chain.interruptedRun (entries.map (·.middleware)) .cancelled =
              .chain
                (.interrupted .request (.request request) (downloader.stack.hookNames .request)
                  .cancelled)) :
    downloader.ReportsDrop transport request polls before run := by
  intro state
  obtain ⟨events, closing, closes⟩ := course.closes wellFormed suspended state
  have noReturn : replyTo run.signals = none := by
    rw [← replyTo_outline]
    exact course.replyTo_eq
  exact ⟨events, closing, .of_closes noReturn noOther inTransport closes⟩

theorem reportsDrop_requestRun?
    {run : ChainRun σ ν}
    (started : run ∈ downloader.requestRun? transport request polls)
    (suspended : run.result.isSuspended) :
    downloader.ReportsDrop transport request polls [] run := by
  have course := course_of_mem_requestRun? started
  have wellFormed := downloader.wellFormed_requestChain transport request
  apply reportsDrop_of_course wellFormed course suspended rfl
  intro carried called other concluded
  exact ⟨(Chain.request_eq_of_callTransport_eq run.state concluded).symm, rfl⟩

theorem reportsDrop_exceptionRun?
    {run : ChainRun σ ν}
    (recovered : run ∈ downloader.exceptionRun? transport request polls)
    (suspended : run.result.isSuspended)
    {before : List (Signal ν)}
    (noOther : hookCallsIn .exception before = []) :
    downloader.ReportsDrop transport request polls before run := by
  obtain ⟨failure, course⟩ := course_of_mem_exceptionRun? recovered
  have wellFormed := downloader.wellFormed_exceptionChain request failure
  apply reportsDrop_of_course wellFormed course suspended noOther
  intro carried called other concluded
  cases concluded

theorem reportsDrop_responseRun?
    {run : ChainRun σ ν}
    (received : run ∈ downloader.responseRun? transport request polls)
    (suspended : run.result.isSuspended)
    {before : List (Signal ν)}
    (noOther : hookCallsIn .response before = []) :
    downloader.ReportsDrop transport request polls before run := by
  obtain ⟨response, course⟩ := course_of_mem_responseRun? received
  have wellFormed := downloader.wellFormed_responseChain request response
  apply reportsDrop_of_course wellFormed course suspended noOther
  intro carried called other concluded
  cases concluded

/-- What follows other signals reports its drop as it does without them. -/
theorem ReportsDrop.after
    {before : List (Signal ν)}
    {run : ChainRun σ ν}
    (reports : downloader.ReportsDrop transport request polls before run) :
    downloader.ReportsDrop transport request polls [] (run.after before) :=
  reports

/-- A download that is suspended reports its drop if it is dropped. -/
theorem reportsDrop_drive
    {start : σ}
    {later : List σ}
    (suspended :
      ((downloader.download transport request).drive start later).result.isSuspended) :
    downloader.ReportsDrop transport request (start :: later) []
      ((downloader.download transport request).drive start later) := by
  have made := downloader.staged transport request start later
  have started :
      (downloader.send transport request).drive start later ∈
        downloader.requestRun? transport request (start :: later) :=
    rfl
  have requestShows :=
    downloader.showsBlock_requestRun? transport request ⟨start :: later, none⟩ _ started
  have exceptionShows :=
    downloader.showsBlock_exceptionRun? transport request ⟨start :: later, none⟩
  generalize (downloader.download transport request).drive start later = whole at made suspended ⊢
  generalize (downloader.send transport request).drive start later = sent at *
  generalize exceptionIs : downloader.exceptionRun? transport request (start :: later) = exception
    at made exceptionShows
  generalize responseIs : downloader.responseRun? transport request (start :: later) = response
    at made
  cases made with
  | direct unfailed =>
      exact reportsDrop_requestRun? started suspended
  | paused failed =>
      have allBack : AllBack sent.signals := by
        simpa [AllBack] using (course_of_mem_requestRun? started).allBack failed
      exact fun state => ⟨[], rfl, .inPause started failed allBack⟩
  | received resolved response =>
      have noOther : hookCallsIn .response sent.signals = [] := by
        simpa using requestShows.noOther .response (by decide)
      exact (reportsDrop_responseRun? responseIs suspended noOther).after
  | recovered failed exception =>
      have noOther : hookCallsIn .exception sent.signals = [] := by
        simpa using requestShows.noOther .exception (by decide)
      exact (reportsDrop_exceptionRun? exceptionIs suspended noOther).after
  | @recoveredAndReceived _ _ _ exception _ failed resolved response =>
      have noOtherSent : hookCallsIn .response sent.signals = [] := by
        simpa using requestShows.noOther .response (by decide)
      have noOther : hookCallsIn .response (sent.signals ++ exception.signals) = [] := by
        simpa [noOtherSent] using (exceptionShows exception rfl).noOther .response (by decide)
      exact (reportsDrop_responseRun? responseIs suspended noOther).after

/-- What the drop of a download that has not come to its end emits. -/
theorem drop_signals
    (pending :
      ((Job.fresh (downloader.download transport request)).pollIn polls).2.hasEnded = false)
    (state : σ) :
    let before := (Job.fresh (downloader.download transport request)).pollIn polls
    ∃ events,
      outline (before.2.drop state).signals = events.map .event ∧
        downloader.DropReports transport request polls before.1 events := by
  cases polls with
  | nil =>
      exact ⟨[], rfl, .unpolled rfl rfl⟩
  | cons start later =>
      obtain ⟨sameSignals, stands⟩ :=
        Job.pollIn_fresh (downloader.download transport request) start later
      have suspended :
          ((downloader.download transport request).drive start later).result.isSuspended := by
        simpa [stands.hasEnded_eq] using pending
      simp only [sameSignals, stands.signals_drop]
      exact reportsDrop_drive suspended state

theorem isCancelled_shownBy
    {run : Option (ChainRun σ ν)}
    (uncancelled :
      ∀ member ∈ run, ∀ event ∈ eventsIn (outline member.signals), event.isCancelled = false) :
    ∀ event ∈ eventsIn (shownBy run none), event.isCancelled = false := by
  cases run with
  | none => simp [shownBy]
  | some run => simpa [shownBy] using uncancelled run rfl

/-- As long as a download is not dropped, it reports nothing as dropped. -/
theorem isCancelled_pollIn
    (downloader : Downloader σ ν)
    (transport : Transport σ ν)
    (request : Request)
    (polls : List σ) :
    let before := (Job.fresh (downloader.download transport request)).pollIn polls
    ∀ event ∈ eventsIn before.1, event.isCancelled = false := by
  intro before event member
  have shown := downloader.live_download transport request ⟨polls, none⟩
  change before.1 = _ at shown
  rw [shown, eventsIn_append, eventsIn_append, List.mem_append, List.mem_append] at member
  rcases member with (inRequest | inException) | inResponse
  · refine isCancelled_shownBy ?_ event inRequest
    intro run started
    exact (course_of_mem_requestRun? started).isCancelled_eq_false
  · refine isCancelled_shownBy ?_ event inException
    intro run recovered
    obtain ⟨failure, course⟩ := course_of_mem_exceptionRun? recovered
    exact course.isCancelled_eq_false
  · refine isCancelled_shownBy ?_ event inResponse
    intro run received
    obtain ⟨response, course⟩ := course_of_mem_responseRun? received
    exact course.isCancelled_eq_false

/--
A download that has not come to its end may be dropped in any state. What it has
shown before is what it shows without the drop, and nothing of that is reported
as cancelled. The drop calls nothing, it is reported by where the download is
suspended and as cancelled only, and nothing follows it.
-/
theorem drop_of_pending
    (downloader : Downloader σ ν)
    (transport : Transport σ ν)
    (request : Request)
    (polls : List σ)
    (pending :
      ((Job.fresh (downloader.download transport request)).pollIn polls).2.hasEnded = false)
    (state : σ)
    (later : List σ) :
    let job := Job.fresh (downloader.download transport request)
    let before := job.pollIn polls
    let drop := before.2.drop state
    before.1 <+: (job.pollIn (polls ++ later)).1 ∧
      (∀ event ∈ eventsIn before.1, event.isCancelled = false) ∧
      drop.result.pollIn later = ([], .dropped) ∧
      callsIn drop.signals = [] ∧
      downloader.DropReports transport request polls before.1 (eventsIn drop.signals) ∧
      ∀ event ∈ eventsIn drop.signals, event.IsCancellation := by
  intro job before drop
  obtain ⟨events, closing, reports⟩ := drop_signals pending state
  have sameEvents : eventsIn drop.signals = events := by
    rw [← eventsIn_outline, closing, eventsIn_events]
  refine ⟨?_, downloader.isCancelled_pollIn transport request polls, ?_, ?_, ?_, ?_⟩
  · rw [Job.pollIn_append]
    exact List.prefix_append ..
  · rw [Job.result_drop_of_pending pending]
    exact Job.pollIn_of_hasEnded rfl later
  · rw [← callsIn_outline, closing, callsIn_events]
  · rwa [sameEvents]
  · rw [sameEvents]
    exact reports.isCancellation

/-- The drop of a download in its transport reports the request chain as cancelled. -/
theorem drop_of_pending_inTransport :
    let before := (Job.fresh Sample.download).pollIn [0, 1]
    let drop := before.2.drop 1
    before.2.hasEnded = false ∧
      (Downloader.ofStack Sample.stack).DropReports Sample.failing (.get "/") [0, 1]
        before.1 (eventsIn drop.signals) ∧
      eventsIn drop.signals =
        [.chain (.interrupted .request (.request (.get "/")) ["counting"] .cancelled)] := by
  intro before drop
  have pending : before.2.hasEnded = false := rfl
  obtain ⟨_, _, _, _, reports, _⟩ :=
    drop_of_pending (.ofStack Sample.stack) Sample.failing (.get "/") [0, 1] pending 1 []
  exact ⟨pending, reports, rfl⟩

end Downloader

end Middleware
