import Middleware.Proofs.Chain.Inputs
import Middleware.Proofs.Download.Provenance
import Middleware.Proofs.Failure.Rethrow

namespace Middleware

/-!
# Failures that an exception hook raises again

An exception hook is handed the failure of the request chain, which wraps the error
of the transport or of a request hook. If the hook fails, its download fails with its
error at once. So if it raises the failure that it was handed, the error of the
transport or of the request hook is hidden from those who look for it.
-/

variable {σ ν ι κ : Type}

namespace Chain

variable {chain : Chain σ ν ι κ}

/-- An answer with which a call comes back as a failure is judged as the failure of its hook. -/
theorem WellFormed.verdict_of_failed_call
    (wellFormed : chain.WellFormed)
    {entry : Entry σ ν ι}
    {carried : κ}
    {answer : Answer}
    {call : Call}
    {phase : Phase}
    {middleware : String}
    {cause : Cause}
    (callsHook : call.hook? = some (phase, middleware))
    (failed :
      (call, some (.failure cause)) =
        (chain.callOf entry carried, some (Return.ofAnswer answer))) :
    phase = chain.phase ∧
      chain.verdict entry.middleware answer = .error (.hook middleware phase cause) := by
  cases answer with
  | ok reply => cases failed
  | error raised =>
      cases failed
      cases callsHook.symm.trans (wellFormed.announces _ _ _)
      exact ⟨rfl, rfl⟩

/-- A hook that fails ends its chain with its error. -/
theorem Course.eq_error_of_failed_call
    (wellFormed : chain.WellFormed)
    {visited : List String}
    {carried : κ}
    {entries : List (Entry σ ν ι)}
    {signals : List (Signal ν)}
    {result : Except Failure Outcome}
    {left : List σ}
    (course : chain.Course visited carried entries signals (.finished result left))
    {call : Call}
    {phase : Phase}
    {middleware : String}
    {cause : Cause}
    (callsHook : call.hook? = some (phase, middleware))
    (failed : (call, some (.failure cause)) ∈ callsIn signals) :
    phase = chain.phase ∧ result = .error (.hook middleware phase cause) := by
  generalize isFinished : Standing.finished result left = standing at course
  induction course with
  | conclude conclusion =>
      cases conclusion with
      | stated concluded left => cases failed
      | transported concluded answer left =>
          obtain ⟨rfl, _⟩ := Prod.mk.inj (List.mem_singleton.mp failed)
          cases callsHook
      | panicked concluded message => cases isFinished
      | suspended concluded abandon closes => cases isFinished
  | proceed verdict later inductionHypothesis =>
      rw [callsIn_answered, List.mem_cons] at failed
      rcases failed with isFirst | isLater
      · obtain ⟨_, failing⟩ := wellFormed.verdict_of_failed_call callsHook isFirst
        cases verdict.symm.trans failing
      · exact inductionHypothesis isLater isFinished
  | settle verdict left =>
      have isLast := List.mem_singleton.mp failed
      obtain ⟨_, failing⟩ := wellFormed.verdict_of_failed_call callsHook isLast
      cases verdict.symm.trans failing
  | fail verdict left =>
      have isLast := List.mem_singleton.mp failed
      obtain ⟨samePhase, failing⟩ := wellFormed.verdict_of_failed_call callsHook isLast
      cases verdict.symm.trans failing
      cases isFinished
      exact ⟨samePhase, rfl⟩
  | panic message => cases isFinished
  | suspend abandon closes => cases isFinished

end Chain

namespace Downloader

variable {downloader : Downloader σ ν}
variable {transport : Transport σ ν}
variable {request : Request}

/-- An exception chain hands its failure to its hooks. -/
theorem handed_eq_of_exceptionCall
    (state : σ)
    {failure : Failure}
    {signals : List (Signal ν)}
    {standing : Standing σ (Signal ν) (Except Failure Outcome)}
    (course :
      (downloader.exceptionChain request failure).Course []
        () downloader.stack.exception signals standing)
    {middleware : String}
    {asked : Request}
    {handed : Failure}
    {context : Option Context}
    {value : Option Return}
    (called : (.exception middleware asked handed context, value) ∈ callsIn signals) :
    handed = failure := by
  obtain ⟨hookCalls, transportCalls, sameCalls, hands, transported⟩ :=
    course.exists_hands state (downloader.concludesBy_exceptionChain request failure)
  have noTransport : transportCalls = [] := by simpa using transported
  rw [sameCalls, noTransport, List.append_nil] at called
  have announced := hands.calls_isPrefix.subset (List.mem_map_of_mem called)
  obtain ⟨entry, _, sameCall⟩ := List.mem_map.mp announced
  cases sameCall
  rfl

/--
An exception hook that fails ends its download with its error. The failure that it was
handed is one that the transport or a request hook has raised before.
-/
theorem Course.raised_of_failed_exceptionCall
    (state : σ)
    {signals : List (Signal ν)}
    {result : Except Failure Outcome}
    {left : List σ}
    (course : downloader.Course transport request signals (.finished result left))
    {middleware : String}
    {asked : Request}
    {handed : Failure}
    {context : Option Context}
    {cause : Cause}
    (failed :
      (.exception middleware asked handed context, some (.failure cause)) ∈ callsIn signals) :
    result = .error (.hook middleware .exception cause) ∧
      ∃ call raised,
        (call, some (.failure raised)) ∈ callsIn signals ∧
          IsRaisedBy request call raised handed := by
  have sends := downloader.wellFormed_requestChain transport request
  have recovers := downloader.wellFormed_exceptionChain request
  have receives := downloader.wellFormed_responseChain request
  cases course with
  | sending course notFailed =>
      cases (course.eq_error_of_failed_call sends rfl failed).1
  | @recovering first second _ failure _ requestFailed course =>
      have calls := requestFailed.isOrderly.allBack.callsIn_append second
      rw [calls, List.mem_append] at failed
      rcases failed with inRequest | inException
      · cases (requestFailed.eq_error_of_failed_call sends rfl inRequest).1
      · obtain ⟨_, sameResult⟩ := course.eq_error_of_failed_call (recovers _) rfl inException
        cases handed_eq_of_exceptionCall state course inException
        obtain ⟨earlier, call, raised, requestCalls, isRaised⟩ :=
          exists_raised_of_failed state requestFailed
        refine ⟨sameResult, call, raised, ?_, isRaised⟩
        rw [calls, requestCalls]
        simp
  | receiving responded course =>
      rw [responded.isOrderly.allBack.callsIn_append, List.mem_append] at failed
      rcases failed with inRequest | inResponse
      · cases (responded.eq_error_of_failed_call sends rfl inRequest).1
      · cases (course.eq_error_of_failed_call (receives _) rfl inResponse).1
  | receivingRecovered requestFailed responded course =>
      have allBack := requestFailed.isOrderly.allBack
      rw [(allBack.append responded.isOrderly.allBack).callsIn_append, allBack.callsIn_append,
        List.mem_append, List.mem_append] at failed
      rcases failed with (inRequest | inException) | inResponse
      · cases (requestFailed.eq_error_of_failed_call sends rfl inRequest).1
      · cases (responded.eq_error_of_failed_call (recovers _) rfl inException).2
      · cases (course.eq_error_of_failed_call (receives _) rfl inResponse).1

/--
Raising a failure again hides the error that the failure wraps from those who look
for an error of its class, however often it is raised; what lies below this error is
still found, and so is everything of another class. A download fails in this way when
an exception hook raises the failure that it was handed: the error of the transport or
of the request hook that has caused the failure is found in it, and not in what the
download reports.
-/
theorem rethrowing_hides_raised
    (downloader : Downloader σ ν)
    (transport : Transport σ ν)
    (request : Request) :
    (∀ failure later : Failure,
        failure.IsRethrownAs later → failure.HidesRaised later) ∧
      ∀ (life : Life σ) (result : Except Failure Outcome),
        ((Job.fresh (downloader.download transport request)).live life).2 = .finished result →
          let calls :=
            callsIn (outline ((Job.fresh (downloader.download transport request)).live life).1)
          ∀ middleware asked handed context,
            (.exception middleware asked handed context, some (.failure (.nested handed))) ∈ calls →
              ∃ reported call raised,
                result = .error reported ∧
                  reported = .hook middleware .exception (.nested handed) ∧
                  (call, some (.failure raised)) ∈ calls ∧
                  IsRaisedBy request call raised handed ∧
                  handed.raised? = some raised ∧
                  handed.HidesRaised reported := by
  refine ⟨fun failure later rethrown => rethrown.hidesRaised, ?_⟩
  rintro ⟨polls, dropped⟩ result completed calls middleware asked handed context failed
  cases polls with
  | nil =>
      rw [Job.live_unpolled_eq] at completed
      cases dropped <;> cases completed
  | cons state later =>
      obtain ⟨left, finished⟩ := Job.live_fresh_eq_finished_iff.mp completed
      have course := downloader.course transport request state later
      have sameCalls :
          calls =
            callsIn
              (outline ((downloader.download transport request).drive state later).signals) := by
        simp only [calls]
        rw [Job.live_fresh, finished, Standing.closing_eq_nil rfl, List.append_nil]
      rw [finished] at course
      rw [sameCalls] at failed ⊢
      obtain ⟨sameResult, call, raised, member, isRaised⟩ :=
        course.raised_of_failed_exceptionCall state failed
      have raises : handed.raised? = some raised := by
        rcases isRaised with ⟨_, rfl⟩ | ⟨_, _, rfl⟩ <;> rfl
      have rethrown : handed.IsRethrownAs (.hook middleware .exception (.nested handed)) :=
        .once rfl
      exact
        ⟨_, call, raised, sameResult, rfl, member, isRaised, raises, rethrown.hidesRaised⟩

end Downloader

namespace Sample

/-- The stack of a counting layer and a layer whose exception hook raises what it was handed. -/
def rethrowing : Stack Nat Unit :=
  (Stack.empty.add counting).add
    ((Layer.named "rethrowing").withExceptionHook
      (.plain fun incident => return .error (.nested incident.2)))

end Sample

/-- The transport times out, which is found in its failure but not in what the download reports. -/
theorem Downloader.rethrowing_hides_raised_timeout :
    let downloader := Downloader.ofStack Sample.rethrowing
    let life : Life Nat := ⟨[0, 5, 7, 8], none⟩
    let lived := (Job.fresh (downloader.download Sample.failing (.get "/"))).live life
    let handed : Failure := .transport .timeout
    let reported : Failure := .hook "rethrowing" .exception (.nested handed)
    lived.2.fate = .finished (.error reported) ∧
      handed.HidesRaised reported ∧
      handed.find? .timeout = some .timeout ∧
      reported.find? .timeout = none := by
  intro downloader life lived handed reported
  obtain ⟨_, hidden⟩ := rethrowing_hides_raised downloader Sample.failing (.get "/")
  have calls :
      callsIn (outline lived.1) =
        [(.request "counting" (.get "/") none, some (.reply .nothing)),
          (.transport (.get "/"), some (.failure .timeout)),
          (.exception "rethrowing" (.get "/") handed none, some (.failure (.nested handed)))] :=
    rfl
  have called :
      (.exception "rethrowing" (.get "/") handed none, some (.failure (.nested handed))) ∈
        callsIn (outline lived.1) := by
    simp [calls]
  obtain ⟨_, _, _, _, rfl, _, _, _, hides⟩ :=
    hidden life (.error reported) rfl "rethrowing" (.get "/") handed none called
  exact ⟨rfl, hides, rfl, rfl⟩

end Middleware
