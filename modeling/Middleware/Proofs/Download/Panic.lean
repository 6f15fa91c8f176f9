import Middleware.Proofs.Chain.Panic
import Middleware.Proofs.Download.CallOrder
import Middleware.Proofs.Download.Course
import Middleware.Proofs.Download.Independence

namespace Middleware

/-!
# Panics in a download

A download panics exactly if one of its hooks or its transport does: no chain
recovers from a panic, and none follows it. The panic shows in the reports that
close what is open, and they tell it apart from a drop. It leaves nothing behind
for later downloads.
-/

variable {σ ρ ν : Type}

namespace Downloader

/-- A hook or the transport panics in a download that is polled in some states. -/
inductive Panics
    (downloader : Downloader σ ν)
    (transport : Transport σ ν)
    (request : Request)
    (polls : List σ)
    (message : String) :
    Prop where
  /-- The panic is in the request chain. -/
  | sending
      {state : σ}
      {later : List σ}
      (polled : polls = state :: later)
      (panics :
        (downloader.requestChain transport request).Panics
          () downloader.stack.request state later message)
  /-- The request chain has failed, and the panic is in the exception chain. -/
  | recovering
      {run : ChainRun σ ν}
      {failure : Failure}
      {state : σ}
      {later : List σ}
      (started : run ∈ downloader.requestRun? transport request polls)
      (failed : run.result = .finished (.error failure) (state :: later))
      (panics :
        (downloader.exceptionChain request failure).Panics
          () downloader.stack.exception state later message)
  /-- One of them has come to a response, and the panic is in the response chain. -/
  | receiving
      {run : ChainRun σ ν}
      {response : Response}
      {left : List σ}
      (started :
        run ∈ downloader.requestRun? transport request polls ∨
          run ∈ downloader.exceptionRun? transport request polls)
      (resolved : run.result = .finished (.ok (.response response)) left)
      (panics :
        (downloader.responseChain request response).Panics
          response downloader.stack.response run.state left message)

/-- The whole of some stages has panicked exactly if one of the stages has. -/
theorem Staged.result_eq_panicked_iff
    {request whole : ChainRun σ ν}
    {exception response : Option (ChainRun σ ν)}
    (made : Staged request exception response whole)
    (message : String) :
    whole.result = .panicked message ↔
      request.result = .panicked message ∨
        (∃ run ∈ exception, run.result = .panicked message) ∨
        ∃ run ∈ response, run.result = .panicked message := by
  cases made with
  | direct unfailed => simp
  | paused failed => simp [failed]
  | received resolved response => simp [resolved]
  | recovered failed exception => simp [failed]
  | recoveredAndReceived failed resolved response => simp [failed, resolved]

variable {downloader : Downloader σ ν}
variable {transport : Transport σ ν}
variable {request : Request}
variable {message : String}

/-- A download panics exactly if a hook or the transport does in one of its chains. -/
theorem result_drive_eq_panicked_iff
    {state : σ}
    {later : List σ} :
    ((downloader.download transport request).drive state later).result = .panicked message ↔
      downloader.Panics transport request (state :: later) message := by
  have sends :=
    Chain.result_run_eq_panicked_iff (downloader.wellFormed_requestChain transport request)
      downloader.stack.request ()
  have recovers :=
    fun failure =>
      Chain.result_run_eq_panicked_iff (downloader.wellFormed_exceptionChain request failure)
        downloader.stack.exception ()
  have receives :=
    fun response =>
      Chain.result_run_eq_panicked_iff (downloader.wellFormed_responseChain request response)
        downloader.stack.response response
  rw [(downloader.staged transport request state later).result_eq_panicked_iff message]
  constructor
  · rintro (panicked | ⟨_, member, panicked⟩ | ⟨_, member, panicked⟩)
    · exact .sending rfl ((sends state later message).mp panicked)
    · obtain ⟨run, started, failure, resumed, left, failed, rfl⟩ := mem_exceptionRun?.mp member
      exact .recovering started failed ((recovers failure resumed left message).mp panicked)
    · obtain ⟨run, started, received⟩ := mem_responseRun?.mp member
      obtain ⟨response, left, resolved, rfl⟩ := mem_runAfter?.mp received
      exact .receiving started resolved ((receives response run.state left message).mp panicked)
  · intro panics
    cases panics with
    | sending polled panics =>
        cases polled
        exact .inl ((sends state later message).mpr panics)
    | @recovering run failure resumed left started failed panics =>
        have member := mem_exceptionRun?.mpr ⟨run, started, failure, resumed, left, failed, rfl⟩
        exact .inr (.inl ⟨_, member, (recovers failure resumed left message).mpr panics⟩)
    | @receiving run response left started resolved panics =>
        have received : _ ∈ downloader.runAfter? request run :=
          mem_runAfter?.mpr ⟨response, left, resolved, rfl⟩
        have member := mem_responseRun?.mpr ⟨run, started, received⟩
        exact .inr (.inr ⟨_, member, (receives response run.state left message).mpr panics⟩)

/-- A download that is not polled calls nothing that could panic. -/
theorem not_panics_nil :
    ¬ downloader.Panics transport request [] message := by
  intro panics
  cases panics with
  | sending polled panics => cases polled
  | recovering started failed panics => cases started
  | receiving started resolved panics => rcases started with started | started <;> cases started

/-- In each life a download panics exactly if a hook or the transport does. -/
theorem live_eq_panicked_iff
    {life : Life σ} :
    ((Job.fresh (downloader.download transport request)).live life).2 = .panicked message ↔
      downloader.Panics transport request life.polls message := by
  rcases life with ⟨polls, dropped⟩
  cases polls with
  | nil =>
      rw [Job.live_unpolled_eq]
      cases dropped <;> simp [not_panics_nil]
  | cons state later =>
      rw [Job.live_fresh_eq_panicked_iff]
      exact result_drive_eq_panicked_iff

/--
What is reported when a call of a download panics, in the order of the reports. A
hook is reported, and then its chain with the hook as the last that was called. A
panic of the transport is reported for the request chain, with all its hooks.
-/
inductive PanicReports
    (downloader : Downloader σ ν)
    (request : Request)
    (call : Call) :
    List Event →
    Prop where
  | ofHook
      {phase : Phase}
      {middleware : String}
      (callsHook : call.hook? = some (phase, middleware))
      (subject : Outcome)
      (earlier : List String) :
      PanicReports downloader request call
        [.method (.interrupted phase middleware .panicked),
          .chain (.interrupted phase subject (earlier ++ [middleware]) .panicked)]
  | ofTransport
      (callsTransport : call = .transport request) :
      PanicReports downloader request call
        [.chain
          (.interrupted .request (.request request) (downloader.stack.hookNames .request)
            .panicked)]

/-- What the request chain reports of a panic is what the download reports of it. -/
theorem PanicReports.ofRequestChain
    {call : Call}
    {closing : List Event}
    (reports :
      (downloader.requestChain transport request).PanicReports (some request)
        (downloader.stack.request.map (·.middleware)) call closing) :
    downloader.PanicReports request call closing := by
  cases reports with
  | ofHook callsHook earlier => exact .ofHook callsHook _ earlier
  | ofTransport callsTransport => exact .ofTransport (Option.some.inj callsTransport).symm

/-- So is what a chain reports that does not call the transport. -/
theorem PanicReports.ofChain
    {ι κ : Type}
    {chain : Chain σ ν ι κ}
    {middlewares : List String}
    {call : Call}
    {closing : List Event}
    (reports : chain.PanicReports none middlewares call closing) :
    downloader.PanicReports request call closing := by
  cases reports with
  | ofHook callsHook earlier => exact .ofHook callsHook _ earlier
  | ofTransport callsTransport => cases callsTransport

/-- Every course of a download that panics shows its panic. -/
theorem Course.showsPanic
    (state : σ)
    {signals : List (Signal ν)}
    (course : downloader.Course transport request signals (.panicked message)) :
    ShowsPanic (downloader.PanicReports request) signals := by
  cases course with
  | sending course notFailed =>
      have shows :=
        course.showsPanic state (downloader.wellFormed_requestChain transport request)
          (downloader.concludesBy_requestChain transport request)
      exact shows.behind .nil fun _ _ => .ofRequestChain
  | @recovering _ _ _ failure _ failed course =>
      have shows :=
        course.showsPanic state (downloader.wellFormed_exceptionChain request failure)
          (downloader.concludesBy_exceptionChain request failure)
      exact shows.behind failed.isOrderly fun _ _ => .ofChain
  | @receiving _ _ _ response _ responded course =>
      have shows :=
        course.showsPanic state (downloader.wellFormed_responseChain request response)
          (downloader.concludesBy_responseChain request response)
      exact shows.behind responded.isOrderly fun _ _ => .ofChain
  | @receivingRecovered _ _ _ _ _ response _ _ failed responded course =>
      have shows :=
        course.showsPanic state (downloader.wellFormed_responseChain request response)
          (downloader.concludesBy_responseChain request response)
      exact shows.behind (failed.isOrderly.append responded.isOrderly) fun _ _ => .ofChain

/--
Downloads through hooks that keep no state behave after a panic as before any
download: whatever state a download leaves that has panicked, each download that
starts from it shows the same and comes to the same end as it does from any state.
-/
def PanicLeavesNothing
    (stack : Stack Unit ν)
    (context : Context)
    (observer : Observer ρ ν)
    (stopwatch : Event → Unit × ρ → Duration) :
    Prop :=
  ∀ (transport : Transport Unit ν) (request : Request) (start : Unit × ρ) (count : Nat)
    (message : String),
    let downloader := watched stack context observer stopwatch
    let panicked :=
      (Job.fresh (downloader.download transport.onFirst request)).pollTimes start count
    panicked.result = .panicked message →
      ∀ (transport : Transport Unit ν) (request : Request) (count : Nat) (drops : Bool)
        (fresh : Unit × ρ),
        let later := Job.fresh (downloader.download transport.onFirst request)
        let afterPanic := later.runAlone panicked.state count drops
        let alone := later.runAlone fresh count drops
        outline afterPanic.signals = outline alone.signals ∧
          afterPanic.result.fate = alone.result.fate

theorem panicLeavesNothing
    (stack : Stack Unit ν)
    (context : Context)
    (observer : Observer ρ ν)
    (stopwatch : Event → Unit × ρ → Duration) :
    PanicLeavesNothing stack context observer stopwatch := by
  intro _ _ _ _ _ downloader panicked _ transport request count drops fresh later afterPanic alone
  obtain ⟨life, rfl, rfl, sameRun⟩ := later.exists_live_eq_runAlone panicked.state count drops
  have same :=
    live_eq_runAlone_of_stateless stack context transport request observer stopwatch life
      observer stopwatch fresh
  change outline (later.live life).1 = _ ∧ (later.live life).2.fate = _ at same
  rwa [sameRun] at same

/--
A panic of a hook or of the transport, in whichever chain and after however many
suspensions, reaches the caller with its message. The calls and events before it
are orderly; no call follows it, and the events that do are the reports of this
panic. For downloads through hooks that keep no state it leaves nothing behind.
-/
theorem panic_reaches_caller
    (downloader : Downloader σ ν)
    (transport : Transport σ ν)
    (request : Request)
    (life : Life σ)
    (message : String)
    (panics : downloader.Panics transport request life.polls message) :
    let lived := (Job.fresh (downloader.download transport request)).live life
    lived.2 = .panicked message ∧
      ShowsPanic (downloader.PanicReports request) (outline lived.1) ∧
      ∀ (ρ : Type) (stack : Stack Unit ν) (context : Context) (observer : Observer ρ ν)
        (stopwatch : Event → Unit × ρ → Duration),
        PanicLeavesNothing stack context observer stopwatch := by
  intro lived
  have reachesCaller : lived.2 = .panicked message := live_eq_panicked_iff.mpr panics
  refine ⟨reachesCaller, ?_, fun _ => panicLeavesNothing⟩
  rcases life with ⟨polls, dropped⟩
  cases polls with
  | nil =>
      exact (not_panics_nil panics).elim
  | cons state later =>
      have course := downloader.course transport request state later
      have panicked := result_drive_eq_panicked_iff.mpr panics
      rw [panicked] at course
      simp only [lived]
      rw [Job.live_fresh, panicked, Standing.closing_eq_nil rfl, List.append_nil]
      exact course.showsPanic state

end Downloader

namespace Sample

/-- The stack of a counting layer and a layer whose exception hook pauses and then panics. -/
def helpless : Stack Nat Unit :=
  (Stack.empty.add counting).add
    ((Layer.named "helpless").withExceptionHook
      (.plain fun _ => do
        Task.pause
        Task.panic "no way out"))

end Sample

/-- The transport fails, and the exception hook that is called for it panics at its resumption. -/
theorem Downloader.panic_reaches_caller_recovering :
    let downloader := Downloader.ofStack Sample.helpless
    let life : Life Nat := ⟨[0, 5, 7, 8, 9], none⟩
    let lived := (Job.fresh (downloader.download Sample.failing (.get "/"))).live life
    downloader.Panics Sample.failing (.get "/") life.polls "no way out" ∧
      lived.2.fate = .panicked "no way out" ∧
      ShowsPanic (downloader.PanicReports (.get "/")) (outline lived.1) ∧
      eventsIn lived.1 =
        [.method (.finished .request "counting" none),
          .chain
            (.finished .request (.request (.get "/")) ["counting"] (some (.transport .timeout))),
          .method (.interrupted .exception "helpless" .panicked),
          .chain (.interrupted .exception (.request (.get "/")) ["helpless"] .panicked)] := by
  intro downloader life lived
  have panics : downloader.Panics Sample.failing (.get "/") life.polls "no way out" :=
    live_eq_panicked_iff.mp rfl
  have shown :=
    panic_reaches_caller downloader Sample.failing (.get "/") life "no way out" panics
  exact ⟨panics, congrArg Job.fate shown.1, shown.2.1, rfl⟩

end Middleware
