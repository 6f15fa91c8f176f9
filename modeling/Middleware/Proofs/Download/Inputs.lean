import Middleware.Proofs.Chain.Inputs
import Middleware.Proofs.Download.Attestation
import Middleware.Proofs.Task.Agreement

namespace Middleware

/-!
# What the calls of a download receive

Only the response is passed on from hook to hook. Every call receives the
request of the download itself, every exception hook the failure of the request
chain, and each response hook what its predecessor has returned. A context is
handed to contextual hooks alone, so a download that calls none of them does the
same in any context.
-/

variable {σ ν ι κ : Type}

/-- The context that a call shows, if it does. -/
def Call.context? : Call → Option Context
  | .request _ _ context => context
  | .response _ _ _ context => context
  | .exception _ _ _ context => context
  | .transport _ => none

/-- A signal tells the context of its download if it is the call of a contextual hook. -/
def Signal.TellsContext (signal : Signal ν) : Prop :=
  ∃ call, signal = .call call ∧ call.context? ≠ none

/-- Signals whose calls show no context tell none. -/
theorem not_tellsContext_of_callsIn
    {signals : List (Signal ν)}
    (noContext : ∀ call ∈ callsIn signals, call.1.context? = none) :
    ∀ signal ∈ signals, ¬ signal.TellsContext := by
  rintro signal member ⟨call, rfl, shown⟩
  induction signals with
  | nil =>
      cases member
  | cons first rest inductionHypothesis =>
      rcases List.mem_cons.mp member with isFirst | later
      · subst isFirst
        exact shown (noContext _ List.mem_cons_self)
      · refine inductionHypothesis (fun other otherMember => noContext other ?_) later
        cases first with
        | call call => exact List.mem_cons_of_mem _ otherMember
        | returned value => exact otherMember
        | event event => exact otherMember
        | note note => exact otherMember
        | log line => exact otherMember

namespace Chain

variable {chain : Chain σ ν ι κ}

/-- A chain shows the context of a call whenever it hands it over. -/
def ShowsContext (chain : Chain σ ν ι κ) : Prop :=
  ∀ middleware input context,
    (chain.announce middleware input (some context)).context? = some context

/-- Calls of one hook in two contexts are the same, or part at the call that tells the context. -/
theorem agreesUntil_call
    (shows : chain.ShowsContext)
    (other : Context)
    (entry : Entry σ ν ι)
    (carried : κ) :
    (chain.call entry carried).AgreesUntil Signal.TellsContext
      ({ chain with context := other }.call entry carried) := by
  rcases entry with ⟨middleware, hook⟩
  cases hook with
  | plain start =>
      exact .refl _
  | contextual start =>
      refine .emit ⟨_, rfl, ?_⟩ _ _ _
      change (chain.announce middleware (chain.input carried) (some chain.context)).context? ≠ none
      rw [shows]
      exact Option.some_ne_none _

/-- From each hook on, runs in two contexts are the same, or part at a call that tells the context. -/
theorem agreesUntil_resume
    (shows : chain.ShowsContext)
    (other : Context)
    (entries : List (Entry σ ν ι))
    (visited : List String)
    (carried : κ) :
    (chain.resume visited carried entries).AgreesUntil Signal.TellsContext
      ({ chain with context := other }.resume visited carried entries) := by
  induction entries generalizing visited carried with
  | nil =>
      rw [resume_nil, resume_nil]
      exact .refl _
  | cons entry rest inductionHypothesis =>
      rw [resume_cons, resume_cons]
      refine ((agreesUntil_call shows other entry carried).guarded _).bind fun verdict => ?_
      cases verdict with
      | error failure => exact .refl _
      | ok verdict =>
          cases verdict with
          | settle outcome => exact .refl _
          | proceed next => exact inductionHypothesis _ next

/-- A run of a chain that does not call the transport hands its hooks what it carries, wherever it is left. -/
theorem Course.hands_signalsUntil
    (wellFormed : chain.WellFormed)
    (concludes : chain.ConcludesBy none)
    {carried : κ}
    {entries : List (Entry σ ν ι)}
    {run : ChainRun σ ν}
    (course : chain.Course [] carried entries (outline run.signals) run.result)
    (dropped : Option σ) :
    chain.Hands carried entries (callsIn (run.signalsUntil dropped)) := by
  obtain ⟨hookCalls, transportCalls, sameCalls, hands, transported⟩ :=
    course.exists_hands run.state concludes
  have noTransport : transportCalls = [] := by simpa using transported
  rw [noTransport, List.append_nil, callsIn_outline] at sameCalls
  rw [course.callsIn_signalsUntil wellFormed, sameCalls]
  exact hands

end Chain

namespace Downloader

/-- Runs of the response hooks of a download in two contexts agree until a call tells the context. -/
theorem agreesUntil_receive
    (downloader : Downloader σ ν)
    (other : Context)
    (request : Request)
    (outcome : Outcome) :
    (downloader.receive request (some outcome)).AgreesUntil Signal.TellsContext
      ((downloader.inContext other).receive request (some outcome)) := by
  cases outcome with
  | request retry =>
      exact .refl _
  | response response =>
      have shows : (downloader.responseChain request response).ShowsContext := fun _ _ _ => rfl
      exact Chain.agreesUntil_resume shows other downloader.stack.response [] response

/-- Downloads in two contexts agree until a call tells the context. -/
theorem agreesUntil_download
    (downloader : Downloader σ ν)
    (other : Context)
    (transport : Transport σ ν)
    (request : Request) :
    (downloader.download transport request).AgreesUntil Signal.TellsContext
      ((downloader.inContext other).download transport request) := by
  have sent :
      (downloader.send transport request).AgreesUntil Signal.TellsContext
        ((downloader.inContext other).send transport request) :=
    Chain.agreesUntil_resume (fun _ _ _ => rfl) other downloader.stack.request [] ()
  refine sent.bind fun result => ?_
  cases result with
  | ok outcome =>
      exact downloader.agreesUntil_receive other request outcome
  | error failure =>
      have recovered :
          (downloader.recover request failure).AgreesUntil Signal.TellsContext
            ((downloader.inContext other).recover request failure) :=
        Chain.agreesUntil_resume (fun _ _ _ => rfl) other downloader.stack.exception [] ()
      refine .bind (.refl _) fun _ => recovered.bind fun result => ?_
      cases result with
      | ok outcome => exact downloader.agreesUntil_receive other request outcome
      | error failure => exact .refl _

/-- The failure that ends the request chain of a download that is polled in some states. -/
def FailsWith
    (downloader : Downloader σ ν)
    (transport : Transport σ ν)
    (request : Request)
    (polls : List σ)
    (failure : Failure) :
    Prop :=
  ∃ run ∈ downloader.requestRun? transport request polls,
    ∃ left, run.result = .finished (.error failure) left

/-- The response to which the request chain or the exception chain of a download resolves. -/
def ResolvesTo
    (downloader : Downloader σ ν)
    (transport : Transport σ ν)
    (request : Request)
    (polls : List σ)
    (response : Response) :
    Prop :=
  ∃ run,
    (run ∈ downloader.requestRun? transport request polls ∨
        run ∈ downloader.exceptionRun? transport request polls) ∧
      ∃ left, run.result = .finished (.ok (.response response)) left

/--
Calls of response hooks in their order, as far as they go: the first hook
receives a given response, and each later one what its predecessor has returned.
-/
inductive PassesOn
    (downloader : Downloader σ ν)
    (request : Request) :
    Response →
    List (Entry σ ν Exchange) →
    List (Call × Option Return) →
    Prop where
  | nothing
      (response : Response)
      (entries : List (Entry σ ν Exchange)) :
      PassesOn downloader request response entries []
  | last
      (response : Response)
      (entry : Entry σ ν Exchange)
      (rest : List (Entry σ ν Exchange))
      (reply : Option Return) :
      PassesOn downloader request response (entry :: rest)
        [(.response entry.middleware request response
            (entry.hook.visibleContext downloader.context),
          reply)]
  | proceed
      {response returned : Response}
      {entry : Entry σ ν Exchange}
      {rest : List (Entry σ ν Exchange)}
      {calls : List (Call × Option Return)}
      (later : PassesOn downloader request returned rest calls) :
      PassesOn downloader request response (entry :: rest)
        ((.response entry.middleware request response
            (entry.hook.visibleContext downloader.context),
          some (.reply (.response returned))) :: calls)

/-- A response chain passes on what its hooks return. -/
theorem PassesOn.of_hands
    {downloader : Downloader σ ν}
    {request : Request}
    {response current : Response}
    {entries : List (Entry σ ν Exchange)}
    {calls : List (Call × Option Return)}
    (hands : (downloader.responseChain request response).Hands current entries calls) :
    downloader.PassesOn request current entries calls := by
  induction hands with
  | nothing current entries =>
      exact .nothing current entries
  | last current entry rest reply =>
      exact .last current entry rest reply
  | @proceed current next entry rest answer calls verdict later inductionHypothesis =>
      -- Of all answers, a response alone lets the chain proceed, and it is what is carried on.
      rcases answer with cause | reply
      · cases verdict
      · cases reply with
        | nothing => cases verdict
        | request retry => cases verdict
        | response returned =>
            cases verdict
            exact .proceed inductionHypothesis

/--
The calls of a download receive what they should: the request hooks and the
transport the request of the download, the exception hooks with it the failure
that has ended the request chain, and the response hooks with it a response each.
The first response is the one that the request chain or the exception chain has
resolved to. Each hook receives the context of the download if it is contextual.
-/
def CallsReceive
    (downloader : Downloader σ ν)
    (transport : Transport σ ν)
    (request : Request)
    (polls : List σ)
    (calls : List (Call × Option Return)) :
    Prop :=
  let context {ι : Type} (entry : Entry σ ν ι) := entry.hook.visibleContext downloader.context
  ∃ requestCalls transportCalls exceptionCalls responseCalls,
    calls = requestCalls ++ transportCalls ++ exceptionCalls ++ responseCalls ∧
      requestCalls.map Prod.fst <+:
        (downloader.stack.request.map fun entry =>
          .request entry.middleware request (context entry)) ∧
      transportCalls.map Prod.fst <+: [.transport request] ∧
      (exceptionCalls ≠ [] →
        ∃ failure,
          downloader.FailsWith transport request polls failure ∧
            exceptionCalls.map Prod.fst <+:
              downloader.stack.exception.map fun entry =>
                .exception entry.middleware request failure (context entry)) ∧
      (responseCalls ≠ [] →
        ∃ response,
          downloader.ResolvesTo transport request polls response ∧
            downloader.PassesOn request response downloader.stack.response responseCalls)

/-- The calls of the request chain receive the request. -/
theorem exists_requestCalls
    (downloader : Downloader σ ν)
    (transport : Transport σ ν)
    (request : Request)
    (life : Life σ) :
    ∃ requestCalls transportCalls,
      callsIn (shownBy (downloader.requestRun? transport request life.polls) life.dropped) =
          requestCalls ++ transportCalls ∧
        requestCalls.map Prod.fst <+:
          (downloader.stack.request.map fun entry =>
            .request entry.middleware request (entry.hook.visibleContext downloader.context)) ∧
        transportCalls.map Prod.fst <+: [.transport request] := by
  cases started : downloader.requestRun? transport request life.polls with
  | none =>
      exact ⟨[], [], rfl, List.nil_prefix, List.nil_prefix⟩
  | some run =>
      have course := course_of_mem_requestRun? started
      obtain ⟨requestCalls, transportCalls, sameCalls, hands, transported⟩ :=
        course.exists_hands run.state (downloader.concludesBy_requestChain transport request)
      refine ⟨requestCalls, transportCalls, ?_, hands.calls_isPrefix, transported⟩
      change callsIn (run.signalsUntil life.dropped) = _
      rw [course.callsIn_signalsUntil (downloader.wellFormed_requestChain transport request),
        ← callsIn_outline, sameCalls]

/-- The calls of the exception chain receive the failure of the request chain. -/
theorem receives_failure
    (downloader : Downloader σ ν)
    (transport : Transport σ ν)
    (request : Request)
    (life : Life σ) :
    let calls :=
      callsIn (shownBy (downloader.exceptionRun? transport request life.polls) life.dropped)
    calls ≠ [] →
      ∃ failure,
        downloader.FailsWith transport request life.polls failure ∧
          calls.map Prod.fst <+:
            downloader.stack.exception.map fun entry =>
              .exception entry.middleware request failure
                (entry.hook.visibleContext downloader.context) := by
  intro calls called
  cases recovered : downloader.exceptionRun? transport request life.polls with
  | none =>
      simp [calls, recovered, shownBy, callsIn] at called
  | some run =>
      obtain ⟨before, started, failure, state, later, failed, rfl⟩ :=
        mem_exceptionRun?.mp recovered
      have wellFormed := downloader.wellFormed_exceptionChain request failure
      have course := Chain.course wellFormed downloader.stack.exception () state later
      have hands :=
        course.hands_signalsUntil wellFormed
          (downloader.concludesBy_exceptionChain request failure) life.dropped
      simp only [calls, recovered]
      exact ⟨failure, ⟨before, started, _, failed⟩, hands.calls_isPrefix⟩

/-- The calls of the response chain pass on a response that the download has come to. -/
theorem receives_response
    (downloader : Downloader σ ν)
    (transport : Transport σ ν)
    (request : Request)
    (life : Life σ) :
    let calls :=
      callsIn (shownBy (downloader.responseRun? transport request life.polls) life.dropped)
    calls ≠ [] →
      ∃ response,
        downloader.ResolvesTo transport request life.polls response ∧
          downloader.PassesOn request response downloader.stack.response calls := by
  intro calls called
  cases received : downloader.responseRun? transport request life.polls with
  | none =>
      simp [calls, received, shownBy, callsIn] at called
  | some run =>
      obtain ⟨before, member, after⟩ := mem_responseRun?.mp received
      obtain ⟨response, left, resolved, rfl⟩ := mem_runAfter?.mp after
      have wellFormed := downloader.wellFormed_responseChain request response
      have course :=
        Chain.course wellFormed downloader.stack.response response before.state left
      have hands :=
        course.hands_signalsUntil wellFormed
          (downloader.concludesBy_responseChain request response) life.dropped
      simp only [calls, received]
      exact ⟨response, ⟨before, member, left, resolved⟩, .of_hands hands⟩

/-- In each life of a download its calls receive what they should. -/
theorem callsReceive_live
    (downloader : Downloader σ ν)
    (transport : Transport σ ν)
    (request : Request)
    (life : Life σ) :
    downloader.CallsReceive transport request life.polls
      (callsIn ((Job.fresh (downloader.download transport request)).live life).1) := by
  have exceptionMakes := downloader.makesCalls_exceptionRun? transport request life
  have responseMakes := downloader.makesCalls_responseRun? transport request life
  obtain ⟨requestCalls, transportCalls, sameCalls, requestReceive, transportReceives⟩ :=
    downloader.exists_requestCalls transport request life
  refine
    ⟨requestCalls, transportCalls, _, _, ?_, requestReceive, transportReceives,
      downloader.receives_failure transport request life,
      downloader.receives_response transport request life⟩
  rw [live_download, callsIn_append _ (replyTo_shownBy responseMakes),
    callsIn_append _ (replyTo_shownBy exceptionMakes), sameCalls]

/--
In every run of a pool, the calls of a download receive what they should. If no
hook that it calls is contextual, the download may be put into any other context,
and the whole pool shows the same signals, leaves the same state and comes to the
same ends. That calls show what hooks and the transport receive, these confirm:
in every life of a download whose hooks and transport begin by noting what they
have been handed, the note that follows each call is of this very call.
-/
theorem calls_receive
    (downloader : Downloader σ ν)
    (transport : Transport σ ν)
    (request : Request)
    (pool : Pool σ (Signal ν) (Except Failure Outcome))
    (start : σ)
    (turns : List Turn)
    (index : Nat)
    (member : pool[index]? = some (.fresh (downloader.download transport request))) :
    let run := pool.follow start turns
    let calls := callsIn (Pool.signalsOf index run.signals)
    downloader.CallsReceive transport request (pool.lifeOf start turns index).polls calls ∧
      (∀ other : Context,
        (∀ call ∈ calls, call.1.context? = none) →
          let otherPool :=
            pool.set index (.fresh ((downloader.inContext other).download transport request))
          let otherRun := Pool.follow otherPool start turns
          otherRun.signals = run.signals ∧
            otherRun.state = run.state ∧
            otherRun.result.map Job.fate = run.result.map Job.fate) ∧
      ∀ (reporter : Reporter σ (Call ⊕ ν)) (life : Life σ),
        let attesting : Downloader σ (Call ⊕ ν) :=
          ⟨downloader.stack.attesting, downloader.context, reporter⟩
        IsAttested
          ((Job.fresh (attesting.download transport.attesting request)).live life).1 := by
  intro run calls
  refine ⟨?received, ?anyContext, ?attested⟩
  case received =>
    have sameSignals := (Pool.follow_member turns member start).1
    simp only [calls, run, sameSignals]
    exact downloader.callsReceive_live transport request _
  case anyContext =>
    intro other noContext
    have agrees := downloader.agreesUntil_download other transport request
    exact
      Pool.follow_set_of_agreesUntil turns member (.fresh agrees) start
        (not_tellsContext_of_callsIn noContext)
  case attested =>
    intro reporter life
    exact
      isAttested_live downloader.stack downloader.context reporter transport request life

/--
A download that recovers from a failure of its transport. Its exception hook
receives that failure and its response hook the response of the exception hook.
-/
theorem calls_receive_recovered :
    let downloader := Downloader.ofStack Sample.stack
    let pool : Pool Nat (Signal Unit) (Except Failure Outcome) := [.fresh Sample.download]
    let turns : List Turn := [.poll 0, .poll 0, .poll 0, .poll 0]
    let run := pool.follow 0 turns
    let calls := callsIn (Pool.signalsOf 0 run.signals)
    calls.map Prod.fst =
        [.request "counting" (.get "/") none,
          .transport (.get "/"),
          .exception "rescuing" (.get "/") (.transport .timeout) none,
          .response "counting" (.get "/") (.plain "/") none] ∧
      downloader.CallsReceive Sample.failing (.get "/") (pool.lifeOf 0 turns 0).polls calls ∧
      ∀ other : Context,
        (Pool.follow
            [.fresh ((downloader.inContext other).download Sample.failing (.get "/"))]
            0 turns).signals =
          run.signals := by
  intro downloader pool turns run calls
  have receive := calls_receive downloader Sample.failing (.get "/") pool 0 turns 0 rfl
  have made :
      calls.map Prod.fst =
        [.request "counting" (.get "/") none,
          .transport (.get "/"),
          .exception "rescuing" (.get "/") (.transport .timeout) none,
          .response "counting" (.get "/") (.plain "/") none] :=
    rfl
  have noContext : ∀ call ∈ calls, call.1.context? = none := by
    intro call member
    have shown : call.1 ∈ calls.map Prod.fst := List.mem_map_of_mem member
    rw [made] at shown
    simp only [List.mem_cons, List.not_mem_nil, or_false] at shown
    rcases shown with same | same | same | same <;> rw [same] <;> rfl
  exact ⟨made, receive.1, fun other => (receive.2.1 other noContext).1⟩

end Downloader

end Middleware
