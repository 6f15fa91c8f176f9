import Middleware.Proofs.Download.Stages

namespace Middleware

/-!
# The course of a download

A download is at any time in one of its chains, or in the pause after its request
chain has failed, and the chains before have finished. `Downloader.Course` lists
the ways in which the courses of its chains make up the course of a download, so
that a law about all downloads is shown for each of them.
-/

variable {σ ν : Type}

namespace Downloader

/-- The outline of a download that is polled, and where it stands. -/
inductive Course
    (downloader : Downloader σ ν)
    (transport : Transport σ ν)
    (request : Request) :
    List (Signal ν) →
    Standing σ (Signal ν) (Except Failure Outcome) →
    Prop where
  /-- The download is in its request chain, or that has come to a request. -/
  | sending
      {signals : List (Signal ν)}
      {standing : Standing σ (Signal ν) (Except Failure Outcome)}
      (course :
        (downloader.requestChain transport request).Course []
          () downloader.stack.request signals standing)
      (notFailed : ∀ failure left, standing ≠ .finished (.error failure) left) :
      Course downloader transport request signals standing
  /-- The request chain has failed, and the download pauses. -/
  | pausing
      {signals : List (Signal ν)}
      {failure : Failure}
      (failed :
        (downloader.requestChain transport request).Course []
          () downloader.stack.request signals (.finished (.error failure) [])) :
      Course downloader transport request signals (.suspended .silent)
  /-- The download is in its exception chain, or that has not come to a response. -/
  | recovering
      {signals later : List (Signal ν)}
      {standing : Standing σ (Signal ν) (Except Failure Outcome)}
      {failure : Failure}
      {left : List σ}
      (failed :
        (downloader.requestChain transport request).Course []
          () downloader.stack.request signals (.finished (.error failure) left))
      (course :
        (downloader.exceptionChain request failure).Course []
          () downloader.stack.exception later standing) :
      Course downloader transport request (signals ++ later) standing
  /-- The request chain has come to a response, and the download is in its response chain. -/
  | receiving
      {signals later : List (Signal ν)}
      {standing : Standing σ (Signal ν) (Except Failure Outcome)}
      {response : Response}
      {left : List σ}
      (responded :
        (downloader.requestChain transport request).Course []
          () downloader.stack.request signals (.finished (.ok (.response response)) left))
      (course :
        (downloader.responseChain request response).Course []
          response downloader.stack.response later standing) :
      Course downloader transport request (signals ++ later) standing
  /-- The exception chain has come to a response, and the download is in its response chain. -/
  | receivingRecovered
      {signals between later : List (Signal ν)}
      {standing : Standing σ (Signal ν) (Except Failure Outcome)}
      {failure : Failure}
      {response : Response}
      {left leftThen : List σ}
      (failed :
        (downloader.requestChain transport request).Course []
          () downloader.stack.request signals (.finished (.error failure) left))
      (responded :
        (downloader.exceptionChain request failure).Course []
          () downloader.stack.exception between
          (.finished (.ok (.response response)) leftThen))
      (course :
        (downloader.responseChain request response).Course []
          response downloader.stack.response later standing) :
      Course downloader transport request (signals ++ between ++ later) standing

/-- Every download that is polled takes a course. -/
theorem course
    (downloader : Downloader σ ν)
    (transport : Transport σ ν)
    (request : Request)
    (state : σ)
    (later : List σ) :
    downloader.Course transport request
      (outline ((downloader.download transport request).drive state later).signals)
      ((downloader.download transport request).drive state later).result := by
  have made := downloader.staged transport request state later
  have started :
      (downloader.send transport request).drive state later ∈
        downloader.requestRun? transport request (state :: later) :=
    rfl
  have sentCourse := course_of_mem_requestRun? started
  have recoveredCourse :=
    fun failure =>
      Chain.course (downloader.wellFormed_exceptionChain request failure)
        downloader.stack.exception ()
  have receivedCourse :=
    fun response =>
      Chain.course (downloader.wellFormed_responseChain request response)
        downloader.stack.response response
  generalize (downloader.download transport request).drive state later = whole at made ⊢
  generalize exceptionIs : downloader.exceptionRun? transport request (state :: later) = exception
    at made
  generalize responseIs : downloader.responseRun? transport request (state :: later) = response
    at made
  generalize (downloader.send transport request).drive state later = sent at *
  cases made with
  | direct unfailed =>
      exact .sending sentCourse unfailed
  | paused failed =>
      rw [failed] at sentCourse
      exact .pausing sentCourse
  | received resolved response =>
      obtain ⟨before, startedOrRecovered, received⟩ := mem_responseRun?.mp responseIs
      obtain ⟨value, left, responded, rfl⟩ := mem_runAfter?.mp received
      -- Without an exception run, the response run can only follow the request run.
      rcases startedOrRecovered with alsoStarted | recovered
      · cases Option.some.inj (started.symm.trans alsoStarted)
        rw [responded] at sentCourse
        rw [Run.signals_after, Run.result_after, outline_append]
        exact .receiving sentCourse (receivedCourse value _ left)
      · rw [exceptionIs] at recovered
        cases recovered
  | recovered failed exception =>
      obtain ⟨before, alsoStarted, failure, resumed, left, failedThen, rfl⟩ :=
        mem_exceptionRun?.mp exceptionIs
      cases Option.some.inj (started.symm.trans alsoStarted)
      rw [failedThen] at sentCourse
      rw [Run.signals_after, Run.result_after, outline_append]
      exact .recovering sentCourse (recoveredCourse failure resumed left)
  | recoveredAndReceived failed resolved response =>
      obtain ⟨_, alsoStarted, failure, resumed, left, failedThen, rfl⟩ :=
        mem_exceptionRun?.mp exceptionIs
      cases Option.some.inj (started.symm.trans alsoStarted)
      obtain ⟨before, startedOrRecovered, received⟩ := mem_responseRun?.mp responseIs
      obtain ⟨value, leftThen, responded, rfl⟩ := mem_runAfter?.mp received
      have recovered := recoveredCourse failure resumed left
      rw [failedThen] at sentCourse
      rw [Run.signals_after, Run.result_after, outline_append, outline_append]
      -- The request run has failed, so the response run can only follow the exception run.
      rcases startedOrRecovered with alsoStarted | alsoRecovered
      · cases Option.some.inj (started.symm.trans alsoStarted)
        cases failedThen.symm.trans responded
      · cases Option.some.inj (exceptionIs.symm.trans alsoRecovered)
        rw [responded] at recovered
        exact .receivingRecovered sentCourse recovered (receivedCourse value _ leftThen)

/--
In any life, a download shows nothing or takes a course, and then shows what is left to
say where it is dropped. It completes exactly if its course does.
-/
theorem course_of_live
    (downloader : Downloader σ ν)
    (transport : Transport σ ν)
    (request : Request)
    (life : Life σ) :
    let lived := (Job.fresh (downloader.download transport request)).live life
    lived.1 = [] ∨
      ∃ start signals standing,
        life.polls.head? = some start ∧
          downloader.Course transport request signals standing ∧
          outline lived.1 = signals ++ outline (standing.closing life.dropped) ∧
          ∀ result, lived.2.fate = .finished result ↔ ∃ left, standing = .finished result left := by
  intro lived
  rcases life with ⟨polls, dropped⟩
  cases polls with
  | nil => exact .inl (Job.live_unpolled _ dropped)
  | cons start later =>
      have course := downloader.course transport request start later
      refine .inr ⟨start, _, _, rfl, course, ?_, ?_⟩
      · rw [Job.live_fresh, outline_append]
      · intro result
        rw [Job.fate_eq_finished_iff]
        exact Job.live_fresh_eq_finished_iff

end Downloader

end Middleware
