import Middleware.Proofs.Chain.Provenance
import Middleware.Proofs.Download.CallOrder
import Middleware.Proofs.Download.Course

namespace Middleware

/-!
# Where the failure of a download comes from

A download fails for one of two reasons. The last hook that it calls causes the
failure, or its request chain has failed, and no exception hook resolves the
failure. The events tell which, and they carry the failure where it belongs.
-/

variable {σ ν : Type}

/-- Whether a chain of a phase has reported its run. -/
def HasChainReport
    (phase : Phase)
    (events : List Event) :
    Prop :=
  ∃ report, .chain report ∈ events ∧ report.phase = phase

/--
A report of a request chain carries a failure exactly if the report of an
exception chain follows it.
-/
def RecoveryFollowsFailure : List Event → Prop
  | [] => True
  | .method _ :: rest => RecoveryFollowsFailure rest
  | .chain report :: rest =>
      (report.phase = .request → (report.failure.isSome ↔ HasChainReport .exception rest)) ∧
        RecoveryFollowsFailure rest

theorem hasChainReport_append
    (phase : Phase)
    (first second : List Event) :
    HasChainReport phase (first ++ second) ↔
      HasChainReport phase first ∨ HasChainReport phase second := by
  constructor
  · rintro ⟨report, member, samePhase⟩
    rcases List.mem_append.mp member with inFirst | inSecond
    · exact .inl ⟨report, inFirst, samePhase⟩
    · exact .inr ⟨report, inSecond, samePhase⟩
  · rintro (⟨report, inFirst, samePhase⟩ | ⟨report, inSecond, samePhase⟩)
    · exact ⟨report, List.mem_append_left _ inFirst, samePhase⟩
    · exact ⟨report, List.mem_append_right _ inSecond, samePhase⟩

/-- In the events of a run of a chain there is the report of this chain alone. -/
theorem IsBlockWith.hasChainReport_iff
    {phase : Phase}
    {failure : Option Failure}
    {events : List Event}
    (block : IsBlockWith phase failure events)
    (other : Phase) :
    HasChainReport other events ↔ phase = other := by
  constructor
  · rintro ⟨report, member, rfl⟩
    exact (block.phase_eq (.chain report) member).symm
  · rintro rfl
    obtain ⟨methods, report, rfl, _, samePhase, _⟩ := block
    exact ⟨report, by simp, samePhase⟩

/-- A run of a chain keeps the law for what follows it, if it meets the law itself. -/
theorem IsBlockWith.recoveryFollowsFailure_append
    {phase : Phase}
    {failure : Option Failure}
    {events later : List Event}
    (block : IsBlockWith phase failure events)
    (follows : phase = .request → (failure.isSome ↔ HasChainReport .exception later))
    (laterFollows : RecoveryFollowsFailure later) :
    RecoveryFollowsFailure (events ++ later) := by
  obtain ⟨methods, report, rfl, methodPhases, rfl, rfl⟩ := block
  clear methodPhases
  induction methods with
  | nil => exact ⟨follows, laterFollows⟩
  | cons method rest inductionHypothesis => exact inductionHypothesis

/-- The failure is caused by the last hook that is called, a response or an exception hook. -/
def CausedByLastHook
    (signals : List (Signal ν))
    (failure : Failure) :
    Prop :=
  ∃ phase, phase ≠ .request ∧ EndsWithBlame phase signals failure

/-- The failure is raised by a call of the transport or of a request hook. -/
def IsRaisedBy
    (request : Request)
    (call : Call)
    (cause : Cause)
    (failure : Failure) :
    Prop :=
  (call = .transport request ∧ failure = .transport cause) ∨
    ∃ middleware,
      call.hook? = some (.request, middleware) ∧ failure = .hook middleware .request cause

namespace Downloader

/-- Calls of all exception hooks with a failure, to which all of them reply with nothing. -/
def refusals
    (downloader : Downloader σ ν)
    (request : Request)
    (failure : Failure) :
    List (Call × Option Return) :=
  downloader.stack.exception.map fun entry =>
    (.exception entry.middleware request failure (entry.hook.visibleContext downloader.context),
      some (.reply .nothing))

/-- The reports of these calls, which carry no failure. -/
def refusalReports (downloader : Downloader σ ν) : List Event :=
  downloader.stack.exception.map fun entry =>
    .method (.finished .exception entry.middleware none)

/--
The failure is that of the request chain, and unresolved: the last call before
those of the exception hooks has raised it, and all of these have been offered it.
-/
structure IsUnresolved
    (downloader : Downloader σ ν)
    (request : Request)
    (signals : List (Signal ν))
    (failure : Failure) :
    Prop where
  offered :
    ∃ earlier call cause,
      callsIn signals =
          earlier ++ (call, some (.failure cause)) :: downloader.refusals request failure ∧
        IsRaisedBy request call cause failure
  reported :
    ∃ requestEvents report,
      eventsIn signals = requestEvents ++ downloader.refusalReports ++ [.chain report] ∧
        IsBlockWith .request (some failure) requestEvents ∧
        report.phase = .exception ∧
        report.failure = some failure

variable {downloader : Downloader σ ν}
variable {transport : Transport σ ν}
variable {request : Request}

/-- A failure that the last hook causes is not one that all exception hooks have been offered. -/
theorem IsUnresolved.not_causedByLastHook
    {signals : List (Signal ν)}
    {failure : Failure}
    (unresolved : downloader.IsUnresolved request signals failure) :
    ¬ CausedByLastHook signals failure := by
  rintro ⟨phase, notRequest, earlier, last, value, middleware, _, _, calls, callsHook, blamed, _⟩
  obtain ⟨before, call, cause, sameCalls, raised⟩ := unresolved.offered
  have sameLast := congrArg List.getLast? (calls.symm.trans sameCalls)
  simp only [refusals, List.getLast?_append, List.getLast?_cons, List.getLast?_map] at sameLast
  -- The last call is that of an exception hook or, if there are none, the one that has failed.
  cases offeredLast : downloader.stack.exception.getLast? with
  | none =>
      rw [offeredLast] at sameLast
      cases sameLast
      rcases raised with ⟨rfl, _⟩ | ⟨_, callsRequestHook, _⟩
      · cases callsHook
      · cases callsHook.symm.trans callsRequestHook
        exact notRequest rfl
  | some entry =>
      rw [offeredLast] at sameLast
      cases sameLast
      cases callsHook
      cases blamed

theorem isAccountable_requestChain
    (downloader : Downloader σ ν)
    (transport : Transport σ ν)
    (request : Request) :
    (downloader.requestChain transport request).IsAccountable where
  toWellFormed := downloader.wellFormed_requestChain transport request
  attributes middleware answer := by
    rcases answer with cause | reply
    · rfl
    · cases reply <;> rfl

theorem isAccountable_exceptionChain
    (downloader : Downloader σ ν)
    (request : Request)
    (failure : Failure) :
    (downloader.exceptionChain request failure).IsAccountable where
  toWellFormed := downloader.wellFormed_exceptionChain request failure
  attributes middleware answer := by
    rcases answer with cause | reply
    · rfl
    · cases reply <;> rfl

theorem isAccountable_responseChain
    (downloader : Downloader σ ν)
    (request : Request)
    (response : Response) :
    (downloader.responseChain request response).IsAccountable where
  toWellFormed := downloader.wellFormed_responseChain request response
  attributes middleware answer := by
    rcases answer with cause | reply
    · rfl
    · cases reply <;> rfl

/-- A request chain that fails has been failed by its last call. -/
theorem exists_raised_of_failed
    (state : σ)
    {signals : List (Signal ν)}
    {failure : Failure}
    {left : List σ}
    (failed :
      (downloader.requestChain transport request).Course []
        () downloader.stack.request signals (.finished (.error failure) left)) :
    ∃ earlier call cause,
      callsIn signals = earlier ++ [(call, some (.failure cause))] ∧
        IsRaisedBy request call cause failure := by
  have accountable := downloader.isAccountable_requestChain transport request
  rcases failed.endsWithBlame_or_concludes accountable with
    ⟨earlier, call, value, middleware, _, _, calls, callsHook, blamed, _⟩ |
      ⟨front, back, final, rfl, passage, conclusion⟩
  · cases value with
    | failure cause =>
        cases blamed
        exact ⟨earlier, call, cause, calls, .inr ⟨middleware, callsHook, rfl⟩⟩
    | reply reply => cases reply <;> cases blamed
    | response response => cases blamed
  · obtain ⟨answer, sameResult, calls⟩ := conclusion.eq_of_callTransport state rfl
    cases answer with
    | ok response => cases sameResult
    | error cause =>
        cases sameResult
        refine ⟨callsIn front, .transport request, cause, ?_, .inl ⟨rfl, rfl⟩⟩
        rw [passage.isOrderly.allBack.callsIn_append, calls]
        rfl

/-- An exception chain fails by its last hook, or all its hooks reply with nothing to its failure. -/
theorem endsWithBlame_or_refused
    {failure result : Failure}
    {signals : List (Signal ν)}
    {left : List σ}
    (failed :
      (downloader.exceptionChain request failure).Course []
        () downloader.stack.exception signals (.finished (.error result) left)) :
    EndsWithBlame .exception signals result ∨
      result = failure ∧
        callsIn signals = downloader.refusals request failure ∧
        ∃ report,
          eventsIn signals = downloader.refusalReports ++ [.chain report] ∧
            report.phase = .exception ∧
            report.failure = some failure := by
  have accountable := downloader.isAccountable_exceptionChain request failure
  have proceedsOn := downloader.proceedsOn_exceptionChain request failure
  rcases failed.endsWithBlame_or_concludes accountable with
    ends | ⟨front, back, final, rfl, passage, conclusion⟩
  · exact .inl ends
  · obtain ⟨rfl, _, sameResult⟩ := conclusion.eq_of_done rfl
    cases sameResult
    let report : ChainReport :=
      .finished .exception (.request request)
        (downloader.stack.exception.map fun entry => entry.middleware) (some failure)
    refine .inr ⟨rfl, ?_, report, ?_, rfl, rfl⟩
    · rw [passage.isOrderly.allBack.callsIn_append, passage.callsIn_eq proceedsOn]
      exact List.append_nil _
    · rw [eventsIn_append, passage.eventsIn_eq]
      rfl

/-- A response chain fails by its last hook alone. -/
theorem endsWithBlame_of_failed
    {response : Response}
    {failure : Failure}
    {signals : List (Signal ν)}
    {left : List σ}
    (failed :
      (downloader.responseChain request response).Course []
        response downloader.stack.response signals (.finished (.error failure) left)) :
    EndsWithBlame .response signals failure := by
  have accountable := downloader.isAccountable_responseChain request response
  rcases failed.endsWithBlame_or_concludes accountable with
    ends | ⟨_, _, _, _, _, conclusion⟩
  · exact ends
  · obtain ⟨_, _, sameResult⟩ := conclusion.eq_of_done rfl
    cases sameResult

namespace Course

variable {signals : List (Signal ν)}
variable {result : Except Failure Outcome}
variable {left : List σ}

/-- A download that has finished accounts for its calls. -/
theorem accountsForCalls
    (course : downloader.Course transport request signals (.finished result left)) :
    AccountsForCalls signals := by
  have sends := downloader.isAccountable_requestChain transport request
  have recovers := downloader.isAccountable_exceptionChain request
  have receives := downloader.isAccountable_responseChain request
  cases course with
  | sending course notFailed =>
      exact course.accountsForCalls sends
  | recovering failed course =>
      exact (failed.accountsForCalls sends).append (course.accountsForCalls (recovers _))
  | receiving responded course =>
      exact (responded.accountsForCalls sends).append (course.accountsForCalls (receives _))
  | receivingRecovered failed responded course =>
      have before :=
        (failed.accountsForCalls sends).append (responded.accountsForCalls (recovers _))
      exact before.append (course.accountsForCalls (receives _))

/-- A download that has failed has been failed by its last hook, or its failure is unresolved. -/
theorem causedByLastHook_or_isUnresolved
    (state : σ)
    {failure : Failure}
    (course : downloader.Course transport request signals (.finished (.error failure) left)) :
    CausedByLastHook signals failure ∨ downloader.IsUnresolved request signals failure := by
  cases course with
  | sending course notFailed =>
      exact (notFailed _ _ rfl).elim
  | @recovering first second _ requestFailure _ failed course =>
      have allBack := failed.isOrderly.allBack
      rcases endsWithBlame_or_refused course with
        ends | ⟨rfl, calls, report, events, reportPhase, reportFailure⟩
      · exact .inl ⟨.exception, nofun, ends.behind allBack⟩
      · obtain ⟨earlier, call, cause, requestCalls, raised⟩ := exists_raised_of_failed state failed
        right
        constructor
        · refine ⟨earlier, call, cause, ?_, raised⟩
          rw [allBack.callsIn_append, requestCalls, calls, List.append_assoc]
          rfl
        · refine ⟨eventsIn first, report, ?_, failed.isBlockWith, reportPhase, reportFailure⟩
          rw [eventsIn_append, events, List.append_assoc]
  | receiving responded course =>
      have ends := endsWithBlame_of_failed course
      exact .inl ⟨.response, nofun, ends.behind responded.isOrderly.allBack⟩
  | receivingRecovered failed responded course =>
      have ends := endsWithBlame_of_failed course
      have allBack := (failed.isOrderly.append responded.isOrderly).allBack
      exact .inl ⟨.response, nofun, ends.behind allBack⟩

/-- In a download that has finished, the exception chain has run if the request chain has failed. -/
theorem recoveryFollowsFailure
    (course : downloader.Course transport request signals (.finished result left)) :
    RecoveryFollowsFailure (eventsIn signals) := by
  have ofLast :
      ∀ {phase : Phase} {failure : Option Failure} {events : List Event},
        IsBlockWith phase failure events → phase ≠ .request → RecoveryFollowsFailure events := by
    intro phase failure events block notRequest
    rw [← List.append_nil events]
    exact block.recoveryFollowsFailure_append (fun isRequest => (notRequest isRequest).elim) trivial
  have noException :
      ∀ {phase : Phase} {failure : Option Failure} {events : List Event},
        IsBlockWith phase failure events → phase ≠ .exception →
          ¬ HasChainReport .exception events := by
    intro phase failure events block notException
    rwa [block.hasChainReport_iff]
  cases course with
  | sending course notFailed =>
      have unfailed : failure? result = none := by
        cases result with
        | ok outcome => rfl
        | error failure => exact (notFailed failure left rfl).elim
      rw [← List.append_nil (eventsIn signals)]
      refine course.isBlockWith.recoveryFollowsFailure_append ?_ trivial
      intro _
      simp [unfailed, HasChainReport]
  | recovering failed course =>
      have block := course.isBlockWith
      have recovered : HasChainReport .exception _ := (block.hasChainReport_iff .exception).mpr rfl
      rw [eventsIn_append]
      apply failed.isBlockWith.recoveryFollowsFailure_append _ (ofLast block nofun)
      intro _
      exact iff_of_true rfl recovered
  | receiving responded course =>
      have block := course.isBlockWith
      rw [eventsIn_append]
      apply responded.isBlockWith.recoveryFollowsFailure_append _ (ofLast block nofun)
      intro _
      exact iff_of_false nofun (noException block nofun)
  | receivingRecovered failed responded course =>
      have block := responded.isBlockWith
      have recovered : HasChainReport .exception _ := (block.hasChainReport_iff .exception).mpr rfl
      rw [eventsIn_append, eventsIn_append, List.append_assoc]
      apply failed.isBlockWith.recoveryFollowsFailure_append
      · intro _
        exact iff_of_true rfl ((hasChainReport_append ..).mpr (.inl recovered))
      · exact block.recoveryFollowsFailure_append nofun (ofLast course.isBlockWith nofun)

/-- In a download that has succeeded, no exception chain and no response chain has failed. -/
theorem unfailed_of_ok
    {outcome : Outcome}
    (course : downloader.Course transport request signals (.finished (.ok outcome) left)) :
    ∀ event ∈ eventsIn signals, event.phase ≠ .request → event.failure? = none := by
  have recovers := downloader.isAccountable_exceptionChain request
  have receives := downloader.isAccountable_responseChain request
  intro event member notRequest
  cases course with
  | sending course notFailed =>
      exact (notRequest (course.isBlockWith.phase_eq event member)).elim
  | recovering failed course =>
      rw [eventsIn_append, List.mem_append] at member
      rcases member with inRequest | inException
      · exact (notRequest (failed.isBlockWith.phase_eq event inRequest)).elim
      · exact course.unfailed_of_ok (recovers _) event inException
  | receiving responded course =>
      rw [eventsIn_append, List.mem_append] at member
      rcases member with inRequest | inResponse
      · exact (notRequest (responded.isBlockWith.phase_eq event inRequest)).elim
      · exact course.unfailed_of_ok (receives _) event inResponse
  | receivingRecovered failed responded course =>
      rw [eventsIn_append, eventsIn_append, List.mem_append, List.mem_append] at member
      rcases member with (inRequest | inException) | inResponse
      · exact (notRequest (failed.isBlockWith.phase_eq event inRequest)).elim
      · exact responded.unfailed_of_ok (recovers _) event inException
      · exact course.unfailed_of_ok (receives _) event inResponse

end Course

/--
A download that fails has been failed by the last hook that it calls, or its
request chain has failed and all exception hooks have let the failure stand, and
never both. If it succeeds, no exception chain and no response chain has reported
a failure. In either case the exception chain has run if the request chain has
failed, and the method reports carry exactly the failures that their hooks have
caused, each of which the report of the chain takes up at once.
-/
theorem failure_provenance
    (downloader : Downloader σ ν)
    (transport : Transport σ ν)
    (request : Request)
    (life : Life σ)
    (result : Except Failure Outcome)
    (completed :
      ((Job.fresh (downloader.download transport request)).live life).2 = .finished result) :
    let shown := outline ((Job.fresh (downloader.download transport request)).live life).1
    (∀ failure,
        result = .error failure →
          (CausedByLastHook shown failure ∨ downloader.IsUnresolved request shown failure) ∧
            ¬ (CausedByLastHook shown failure ∧
                downloader.IsUnresolved request shown failure)) ∧
      (∀ outcome,
        result = .ok outcome →
          ∀ event ∈ eventsIn shown, event.phase ≠ .request → event.failure? = none) ∧
      RecoveryFollowsFailure (eventsIn shown) ∧
      AccountsForCalls shown := by
  intro shown
  rcases life with ⟨polls, dropped⟩
  cases polls with
  | nil =>
      rw [Job.live_unpolled_eq] at completed
      cases dropped <;> cases completed
  | cons state later =>
      obtain ⟨left, finished⟩ := Job.live_fresh_eq_finished_iff.mp completed
      have course := downloader.course transport request state later
      have sameShown :
          shown = outline ((downloader.download transport request).drive state later).signals := by
        simp only [shown]
        rw [Job.live_fresh, finished, Standing.closing_eq_nil rfl, List.append_nil]
      rw [finished, ← sameShown] at course
      refine ⟨?_, ?_, course.recoveryFollowsFailure, course.accountsForCalls⟩
      · rintro failure rfl
        refine ⟨course.causedByLastHook_or_isUnresolved state, ?_⟩
        rintro ⟨caused, unresolved⟩
        exact unresolved.not_causedByLastHook caused
      · rintro outcome rfl
        exact course.unfailed_of_ok

end Downloader

namespace Sample

/-- The stack of a counting layer and a layer whose exception hook fails itself. -/
def relapsing : Stack Nat Unit :=
  (Stack.empty.add counting).add
    ((Layer.named "relapsing").withExceptionHook
      (.plain fun _ => return .error (.text "no spare")))

end Sample

/-- The transport fails, and so does the exception hook that is called for its failure. -/
theorem Downloader.failure_provenance_relapsing :
    let downloader := Downloader.ofStack Sample.relapsing
    let life : Life Nat := ⟨[0, 5, 7, 8], none⟩
    let lived := (Job.fresh (downloader.download Sample.failing (.get "/"))).live life
    let failure : Failure := .hook "relapsing" .exception (.text "no spare")
    lived.2.fate = .finished (.error failure) ∧
      CausedByLastHook (outline lived.1) failure ∧
      eventsIn lived.1 =
        [.method (.finished .request "counting" none),
          .chain
            (.finished .request (.request (.get "/")) ["counting"] (some (.transport .timeout))),
          .method (.finished .exception "relapsing" (some failure)),
          .chain
            (.finished .exception (.request (.get "/")) ["relapsing"] (some failure))] := by
  intro downloader life lived failure
  have completed : lived.2 = .finished (.error failure) := rfl
  have provenance :=
    failure_provenance downloader Sample.failing (.get "/") life (.error failure) completed
  have resolved : ¬ downloader.IsUnresolved (.get "/") (outline lived.1) failure := by
    rintro ⟨⟨_, _, _, _, raised⟩, _⟩
    rcases raised with ⟨_, isTransport⟩ | ⟨_, _, isRequest⟩
    · simp [failure] at isTransport
    · simp [failure] at isRequest
  exact ⟨rfl, (provenance.1 failure rfl).1.resolve_right resolved, rfl⟩

end Middleware
