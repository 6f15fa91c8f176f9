import Middleware.Proofs.Chain.Inputs
import Middleware.Proofs.Chain.Report
import Middleware.Proofs.Download.Provenance

namespace Middleware

/-!
# What chain reports show

Each run of a chain is reported with a subject. That of a request chain and of an
exception chain is the request of the download, whatever their hooks do. A response
chain that succeeds is reported with the outcome of the download, and one that is left
in any other way with the response that it was started with: what its hooks have made
of this response in between is never reported.
-/

variable {σ ν ι κ : Type}

/-- The response that a call has come back with, if it has come back with one. -/
def Return.response? : Return → Option Response
  | .response value => some value
  | .reply (.response value) => some value
  | .reply .nothing | .reply (.request _) | .failure _ => none

/-- The last call has come back with a response, and is not that of a response hook. -/
def EndsWithResponse
    (calls : List (Call × Option Return))
    (response : Response) :
    Prop :=
  ∃ earlier call value,
    calls = earlier ++ [(call, some value)] ∧
      call.hookIn? .response = none ∧
      value.response? = some response

/--
The response with which the response hooks are started: the last call before theirs
has come back with it, and the first of them receives it.
-/
def StartsResponseHooks
    (request : Request)
    (calls : List (Call × Option Return))
    (response : Response) :
    Prop :=
  ∃ before responseCalls,
    calls = before ++ responseCalls ∧
      EndsWithResponse before response ∧
      (∀ called ∈ responseCalls, (called.1.hookIn? .response).isSome) ∧
      ∀ first ∈ responseCalls.head?,
        ∃ middleware context, first.1 = .response middleware request response context

theorem EndsWithResponse.behind
    {calls : List (Call × Option Return)}
    {response : Response}
    (ends : EndsWithResponse calls response)
    (earlier : List (Call × Option Return)) :
    EndsWithResponse (earlier ++ calls) response := by
  obtain ⟨between, call, value, rfl, notResponse, responds⟩ := ends
  exact ⟨earlier ++ between, call, value, (List.append_assoc ..).symm, notResponse, responds⟩

namespace Chain

variable {chain : Chain σ ν ι κ}

/-- A hook that settles a chain with a response, or its conclusion in one, is the last call. -/
theorem Course.endsWithResponse
    (wellFormed : chain.WellFormed)
    (otherPhase : chain.phase ≠ .response)
    (settles :
      ∀ middleware answer response,
        chain.verdict middleware answer = .ok (.settle (.response response)) →
          (Return.ofAnswer answer).response? = some response)
    {carried : κ}
    {entries : List (Entry σ ν ι)}
    {signals : List (Signal ν)}
    {response : Response}
    {left : List σ}
    (course :
      chain.Course [] carried entries signals (.finished (.ok (.response response)) left))
    (concludes :
      ∀ {visited : List String} {final : κ} {back : List (Signal ν)},
        chain.Conclusion visited final back (.finished (.ok (.response response)) left) →
          EndsWithResponse (callsIn back) response) :
    EndsWithResponse (callsIn signals) response := by
  obtain ⟨passed, rest, front, back, final, rfl, rfl, passage, ending⟩ := course.split
  have atEnd : EndsWithResponse (callsIn back) response := by
    cases ending with
    | conclude conclusion => exact concludes conclusion
    | @settle entry rest answer _ verdict left =>
        refine ⟨[], chain.callOf entry final, .ofAnswer answer, rfl, ?_, settles _ _ _ verdict⟩
        rw [wellFormed.hookIn?_callOf, if_neg otherPhase]
  rw [passage.isOrderly.allBack.callsIn_append]
  exact atEnd.behind (callsIn front)

/-- All calls of hooks that a chain hands what it carries are calls of its phase. -/
theorem Hands.isSome_hookIn?
    (wellFormed : chain.WellFormed)
    {carried : κ}
    {entries : List (Entry σ ν ι)}
    {calls : List (Call × Option Return)}
    (hands : chain.Hands carried entries calls) :
    ∀ called ∈ calls, (called.1.hookIn? chain.phase).isSome := by
  have isHook :
      ∀ (entry : Entry σ ν ι) (carried : κ),
        ((chain.callOf entry carried).hookIn? chain.phase).isSome := by
    intro entry carried
    rw [wellFormed.hookIn?_callOf, if_pos rfl]
    rfl
  induction hands with
  | nothing carried entries => exact List.forall_mem_nil _
  | last carried entry rest reply => exact List.forall_mem_singleton.mpr (isHook entry carried)
  | @proceed carried _ entry _ _ _ verdict later inductionHypothesis =>
      exact List.forall_mem_cons.mpr ⟨isHook entry carried, inductionHypothesis⟩

/-- The first hook that is called is handed what the chain carries at its start. -/
theorem Hands.exists_eq_callOf
    {carried : κ}
    {entries : List (Entry σ ν ι)}
    {calls : List (Call × Option Return)}
    (hands : chain.Hands carried entries calls) :
    ∀ first ∈ calls.head?, ∃ entry, first.1 = chain.callOf entry carried := by
  intro first isFirst
  cases hands with
  | nothing _ _ => cases isFirst
  | last _ entry _ _ =>
      cases isFirst
      exact ⟨entry, rfl⟩
  | @proceed _ _ entry _ _ _ _ _ =>
      cases isFirst
      exact ⟨entry, rfl⟩

end Chain

namespace Downloader

/-- A hook that settles a chain with the first outcome that there is has replied with it. -/
theorem response?_of_acceptAny
    {chain : Chain σ ν ι Unit}
    (judges :
      ∀ reply : Reply,
        chain.judge reply =
          reply.acceptAny.map fun
            | none => .proceed ()
            | some outcome => .settle outcome)
    (middleware : String)
    (answer : Answer)
    (response : Response)
    (settles : chain.verdict middleware answer = .ok (.settle (.response response))) :
    (Return.ofAnswer answer).response? = some response := by
  rcases answer with cause | reply
  · cases settles
  · rw [Chain.verdict, judges] at settles
    cases reply <;> cases settles
    rfl

variable {downloader : Downloader σ ν}
variable {transport : Transport σ ν}
variable {request : Request}
variable {signals : List (Signal ν)}
variable {response : Response}
variable {left : List σ}

/-- A request chain that has come to a response has been given it by its last call. -/
theorem endsWithResponse_of_sent
    (state : σ)
    (course :
      (downloader.requestChain transport request).Course []
        () downloader.stack.request signals (.finished (.ok (.response response)) left)) :
    EndsWithResponse (callsIn signals) response := by
  refine
    course.endsWithResponse (downloader.wellFormed_requestChain transport request) nofun
      (response?_of_acceptAny fun _ => rfl) ?_
  intro visited final back conclusion
  obtain ⟨answer, sameResult, calls⟩ := conclusion.eq_of_callTransport state rfl
  cases answer with
  | error cause => cases sameResult
  | ok value =>
      cases sameResult
      exact ⟨[], .transport request, .response response, calls, rfl, rfl⟩

/-- An exception chain that has come to a response has been given it by its last call. -/
theorem endsWithResponse_of_recovered
    {failure : Failure}
    (course :
      (downloader.exceptionChain request failure).Course []
        () downloader.stack.exception signals (.finished (.ok (.response response)) left)) :
    EndsWithResponse (callsIn signals) response := by
  refine
    course.endsWithResponse (downloader.wellFormed_exceptionChain request failure) nofun
      (response?_of_acceptAny fun _ => rfl) ?_
  intro visited final back conclusion
  obtain ⟨_, _, sameStanding⟩ := conclusion.eq_of_done rfl
  cases sameStanding

/-- What a response chain is started with is what its hooks are started with. -/
theorem startsResponseHooks_of_course
    (state : σ)
    {before : List (Call × Option Return)}
    (responds : EndsWithResponse before response)
    {standing : Standing σ (Signal ν) (Except Failure Outcome)}
    (course :
      (downloader.responseChain request response).Course []
        response downloader.stack.response signals standing) :
    StartsResponseHooks request (before ++ callsIn signals) response := by
  obtain ⟨hookCalls, transportCalls, sameCalls, hands, transported⟩ :=
    course.exists_hands state (downloader.concludesBy_responseChain request response)
  have noTransport : transportCalls = [] := by simpa using transported
  rw [noTransport, List.append_nil] at sameCalls
  rw [sameCalls]
  have wellFormed := downloader.wellFormed_responseChain request response
  refine ⟨before, hookCalls, rfl, responds, hands.isSome_hookIn? wellFormed, ?_⟩
  intro first isFirst
  obtain ⟨entry, called⟩ := hands.exists_eq_callOf first isFirst
  exact ⟨_, _, called⟩

/--
What the report of a response chain shows, which was started with a response: if the
chain has succeeded, what the download has come to, and otherwise that response.
-/
structure ShowsResult
    (started : Response)
    (fate : Fate (Except Failure Outcome))
    (report : ChainReport) :
    Prop where
  isSuccess_iff : report.IsSuccess ↔ ∃ outcome, fate = .finished (.ok outcome)
  ofSuccess : ∀ outcome, fate = .finished (.ok outcome) → report.subject = outcome
  otherwise : ¬ report.IsSuccess → report.subject = .response started

/--
What the report of a chain shows. That of a request chain or an exception chain shows
the request. That of a response chain shows its result, by the response that the
response hooks have been started with.
-/
structure ShowsSubject
    (request : Request)
    (calls : List (Call × Option Return))
    (fate : Fate (Except Failure Outcome))
    (report : ChainReport) :
    Prop where
  ofRequest : report.phase ≠ .response → report.subject = .request request
  ofResponse :
    report.phase = .response →
      ∃ started, StartsResponseHooks request calls started ∧ ShowsResult started fate report

/-- The report of a chain that shows nothing but the request shows what it should. -/
theorem showsSubject_of_course
    {chain : Chain σ ν ι κ}
    {carried : κ}
    {entries : List (Entry σ ν ι)}
    {standing : Standing σ (Signal ν) (Except Failure Outcome)}
    (course : chain.Course [] carried entries signals standing)
    (otherPhase : chain.phase ≠ .response)
    (subject : chain.subject = .request request)
    (resolved : ∀ outcome, chain.resolved outcome = .request request)
    (dropped : Option σ)
    (calls : List (Call × Option Return))
    (fate : Fate (Except Failure Outcome)) :
    ∀ report ∈ chainReportsIn (signals ++ outline (standing.closing dropped)),
      ShowsSubject request calls fate report := by
  intro report reported
  obtain ⟨visited, rfl⟩ := course.exists_eq_reportAt dropped report reported
  constructor
  · intro _
    cases standing with
    | panicked message => exact subject
    | suspended abandon => exact subject
    | finished result left =>
        cases result with
        | error failure => exact subject
        | ok outcome => exact resolved outcome
  · intro isResponse
    rw [Chain.phase_reportAt] at isResponse
    exact (otherPhase isResponse).elim

/-- The reports of such a chain that has finished show what they should. -/
theorem showsSubject_of_finished
    {chain : Chain σ ν ι κ}
    {carried : κ}
    {entries : List (Entry σ ν ι)}
    {result : Except Failure Outcome}
    (course : chain.Course [] carried entries signals (.finished result left))
    (otherPhase : chain.phase ≠ .response)
    (subject : chain.subject = .request request)
    (resolved : ∀ outcome, chain.resolved outcome = .request request)
    (calls : List (Call × Option Return))
    (fate : Fate (Except Failure Outcome)) :
    ∀ report ∈ chainReportsIn signals, ShowsSubject request calls fate report := by
  simpa [Standing.closing] using
    showsSubject_of_course course otherPhase subject resolved none calls fate

/-- Without success a report shows the result that it should if it shows the start. -/
theorem ShowsResult.ofStart
    {started : Response}
    {fate : Fate (Except Failure Outcome)}
    {report : ChainReport}
    (without : ∀ outcome, fate ≠ .finished (.ok outcome))
    (notSuccess : ¬ report.IsSuccess)
    (subject : report.subject = .response started) :
    ShowsResult started fate report where
  isSuccess_iff :=
    iff_of_false notSuccess fun ⟨outcome, completed⟩ => without outcome completed
  ofSuccess outcome completed := (without outcome completed).elim
  otherwise _ := subject

/-- The report of a response chain shows its result, by where its run is left. -/
theorem showsResult_reportAt
    (visited : List String)
    {standing : Standing σ (Signal ν) (Except Failure Outcome)}
    {fate : Fate (Except Failure Outcome)}
    (comesTo :
      ∀ outcome,
        fate = .finished (.ok outcome) ↔ ∃ left, standing = .finished (.ok outcome) left) :
    ShowsResult response fate
      ((downloader.responseChain request response).reportAt visited standing) := by
  have without
      (elsewhere : ∀ outcome left, standing ≠ .finished (.ok outcome) left) :
      ∀ outcome, fate ≠ .finished (.ok outcome) := by
    intro outcome completed
    obtain ⟨left, comesThere⟩ := (comesTo outcome).mp completed
    exact elsewhere outcome left comesThere
  cases standing with
  | panicked message => exact .ofStart (without nofun) nofun rfl
  | suspended abandon => exact .ofStart (without nofun) nofun rfl
  | finished result left =>
      cases result with
      | error failure => exact .ofStart (without nofun) nofun rfl
      | ok outcome =>
          have completed := (comesTo outcome).mpr ⟨left, rfl⟩
          constructor
          · exact iff_of_true ⟨rfl, rfl, rfl⟩ ⟨outcome, completed⟩
          · intro other alsoCompleted
            cases completed.symm.trans alsoCompleted
            rfl
          · intro notSuccess
            exact (notSuccess ⟨rfl, rfl, rfl⟩).elim

/-- The report of a response chain shows its result. -/
theorem showsSubject_of_responseCourse
    {standing : Standing σ (Signal ν) (Except Failure Outcome)}
    (course :
      (downloader.responseChain request response).Course []
        response downloader.stack.response signals standing)
    (dropped : Option σ)
    {calls : List (Call × Option Return)}
    (starts : StartsResponseHooks request calls response)
    {fate : Fate (Except Failure Outcome)}
    (comesTo :
      ∀ outcome,
        fate = .finished (.ok outcome) ↔ ∃ left, standing = .finished (.ok outcome) left) :
    ∀ report ∈ chainReportsIn (signals ++ outline (standing.closing dropped)),
      ShowsSubject request calls fate report := by
  intro report reported
  obtain ⟨visited, rfl⟩ := course.exists_eq_reportAt dropped report reported
  constructor
  · intro notResponse
    rw [Chain.phase_reportAt] at notResponse
    exact (notResponse rfl).elim
  · intro _
    exact ⟨response, starts, showsResult_reportAt visited comesTo⟩

/-- Wherever a download stands, dropped or not, its chain reports show what they should. -/
theorem Course.showsSubject
    (state : σ)
    {standing : Standing σ (Signal ν) (Except Failure Outcome)}
    (course : downloader.Course transport request signals standing)
    (dropped : Option σ)
    {fate : Fate (Except Failure Outcome)}
    (comesTo :
      ∀ outcome,
        fate = .finished (.ok outcome) ↔ ∃ left, standing = .finished (.ok outcome) left) :
    let shown := signals ++ outline (standing.closing dropped)
    ∀ report ∈ chainReportsIn shown, ShowsSubject request (callsIn shown) fate report := by
  dsimp only
  have receives := downloader.wellFormed_responseChain request
  have ofRequest : Phase.request ≠ .response := by decide
  have ofException : Phase.exception ≠ .response := by decide
  cases course with
  | sending course _ =>
      exact showsSubject_of_course course ofRequest rfl (fun _ => rfl) dropped _ fate
  | pausing failed =>
      have shows := showsSubject_of_course failed ofRequest rfl (fun _ => rfl) dropped
      cases dropped <;> exact shows _ fate
  | @recovering first second standing failure left failed course =>
      intro report reported
      rw [List.append_assoc, chainReportsIn_append, List.mem_append] at reported
      rcases reported with isRequest | isException
      · exact
          showsSubject_of_finished failed ofRequest rfl (fun _ => rfl) _ fate report isRequest
      · exact
          showsSubject_of_course course ofException rfl (fun _ => rfl) dropped _ fate report
            isException
  | @receiving first second standing value left responded course =>
      have calls :
          callsIn (first ++ second ++ outline (standing.closing dropped)) =
            callsIn first ++ callsIn second := by
        rw [List.append_assoc, responded.isOrderly.allBack.callsIn_append,
          course.callsIn_append_closing (receives value)]
      have starts :=
        startsResponseHooks_of_course state (endsWithResponse_of_sent state responded) course
      rw [← calls] at starts
      intro report reported
      rw [List.append_assoc, chainReportsIn_append, List.mem_append] at reported
      rcases reported with isRequest | isResponse
      · exact
          showsSubject_of_finished responded ofRequest rfl (fun _ => rfl) _ fate report isRequest
      · exact showsSubject_of_responseCourse course dropped starts comesTo report isResponse
  | @receivingRecovered first second third standing failure value left _ failed responded course =>
      have allBack := (failed.isOrderly.append responded.isOrderly).allBack
      have calls :
          callsIn (first ++ second ++ third ++ outline (standing.closing dropped)) =
            callsIn first ++ callsIn second ++ callsIn third := by
        rw [List.append_assoc, allBack.callsIn_append, failed.isOrderly.allBack.callsIn_append,
          course.callsIn_append_closing (receives value)]
      have responds := (endsWithResponse_of_recovered responded).behind (callsIn first)
      have starts := startsResponseHooks_of_course state responds course
      rw [← calls] at starts
      intro report reported
      rw [List.append_assoc, chainReportsIn_append, chainReportsIn_append, List.mem_append,
        List.mem_append] at reported
      rcases reported with (isRequest | isException) | isResponse
      · exact
          showsSubject_of_finished failed ofRequest rfl (fun _ => rfl) _ fate report isRequest
      · exact
          showsSubject_of_finished responded ofException rfl (fun _ => rfl) _ fate report isException
      · exact showsSubject_of_responseCourse course dropped starts comesTo report isResponse

/--
In any life of a download, whether it completes, fails, panics or is dropped, every
report of a run of a chain shows what it should.
-/
theorem chainReports_showSubject
    (downloader : Downloader σ ν)
    (transport : Transport σ ν)
    (request : Request)
    (life : Life σ) :
    let lived := (Job.fresh (downloader.download transport request)).live life
    ∀ report ∈ chainReportsIn lived.1,
      ShowsSubject request (callsIn lived.1) lived.2.fate report := by
  intro lived report reported
  rcases downloader.course_of_live transport request life with
    nothing | ⟨start, signals, standing, _, course, shown, comesTo⟩
  · rw [nothing] at reported
    cases reported
  · rw [← chainReportsIn_outline, shown] at reported
    rw [← callsIn_outline, shown]
    exact
      course.showsSubject start life.dropped (fun outcome => comesTo (.ok outcome)) report reported

end Downloader

namespace Sample

/--
A stack with two response hooks. The one that is called first changes the status, and
the other one fails.
-/
def disavowing : Stack Nat Unit :=
  (stack.add
      ((Layer.named "strict").withResponseHook
        (.plain fun _ => return .error (.text "not found")))).add
    ((Layer.named "marking").withResponseHook
      (.plain fun exchange =>
        return .ok (.response (exchange.2.withStatus ⟨404, by decide⟩))))

end Sample

/--
The response hooks are started with the response of the exception hook. The one that
fails has received another response, but the report shows that one.
-/
theorem Downloader.chainReports_showSubject_disavowing :
    let downloader := Downloader.ofStack Sample.disavowing
    let life : Life Nat := ⟨[0, 5, 7, 8], none⟩
    let lived := (Job.fresh (downloader.download Sample.failing (.get "/"))).live life
    let started : Response := .plain "/"
    let received : Response := started.withStatus ⟨404, by decide⟩
    let failure : Failure := .hook "strict" .response (.text "not found")
    let report : ChainReport :=
      .finished .response (.response started) ["marking", "strict"] (some failure)
    (.response "strict" (.get "/") received none, some (.failure (.text "not found"))) ∈
        callsIn lived.1 ∧
      report ∈ chainReportsIn lived.1 ∧
      ShowsSubject (.get "/") (callsIn lived.1) lived.2.fate report := by
  intro downloader life lived started received failure report
  have reported : report ∈ chainReportsIn lived.1 := by decide +kernel
  refine ⟨by decide +kernel, reported, ?_⟩
  exact chainReports_showSubject downloader Sample.failing (.get "/") life report reported

end Middleware
