import Middleware.Proofs.Chain.Calls
import Middleware.Proofs.Chain.Closing
import Middleware.Proofs.Download.Stages
import Middleware.Proofs.Stack

namespace Middleware

/-!
# The order of calls

A download calls the hooks of its layers from the outside to the inside and
back: first the request hooks in the order of the layers, then the transport,
and then the exception hooks and the response hooks in reverse order. Each of
the three stretches is cut after the first call that does not let its chain
proceed. The main statement says so of every life of every download.
-/

variable {σ ν ι κ : Type}

/-- A hook has replied with nothing. -/
def RepliedNothing (reply : Option Return) : Prop :=
  reply = some (.reply .nothing)

/-- A hook has replied with a response. -/
def RepliedResponse (reply : Option Return) : Prop :=
  ∃ response, reply = some (.reply (.response response))

/-- The calls of the hooks of a chain that runs only under a condition. -/
def IsCutWhen
    (condition : Prop)
    (phase : Phase)
    (proceeds : Option Return → Prop)
    (middlewares : List String)
    (calls : List (Call × Option Return)) :
    Prop :=
  (condition ∧ IsCut phase proceeds middlewares calls) ∨
    (¬ condition ∧ calls = [])

/-- A run makes its calls in order, and no return from before it goes to it. -/
structure ChainRun.MakesCalls
    (phase : Phase)
    (proceeds : Option Return → Prop)
    (transported : Option Request)
    (middlewares : List String)
    (dropped : Option σ)
    (run : ChainRun σ ν) :
    Prop where
  inOrder :
    Chain.CallsInOrder phase proceeds transported middlewares
      (callsIn (run.signalsUntil dropped))
  noReturn : replyTo (run.signalsUntil dropped) = none

namespace Chain.Course

variable {chain : Chain σ ν ι κ}
variable {carried : κ}
variable {entries : List (Entry σ ν ι)}
variable {run : ChainRun σ ν}

/-- Where a run is left, it makes no call, and no return goes to a call of it. -/
theorem callsIn_closing
    (wellFormed : chain.WellFormed)
    (course : chain.Course [] carried entries (outline run.signals) run.result)
    (dropped : Option σ) :
    callsIn (run.result.closing dropped) = [] ∧
      replyTo (run.result.closing dropped) = none := by
  obtain ⟨events, closing⟩ := course.outline_closing wellFormed dropped
  constructor
  · rw [← callsIn_outline, closing, callsIn_events]
  · rw [← replyTo_outline, closing, replyTo_events]

/-- The calls of a run are the same wherever it is left. -/
theorem callsIn_signalsUntil
    (wellFormed : chain.WellFormed)
    (course : chain.Course [] carried entries (outline run.signals) run.result)
    (dropped : Option σ) :
    callsIn (run.signalsUntil dropped) = callsIn run.signals := by
  obtain ⟨noCalls, noReturn⟩ := course.callsIn_closing wellFormed dropped
  rw [ChainRun.signalsUntil, callsIn_append _ noReturn, noCalls, List.append_nil]

/-- A run that takes a course of a chain makes its calls in order. -/
theorem makesCalls
    (wellFormed : chain.WellFormed)
    {proceeds : Option Return → Prop}
    (proceedsOn : chain.ProceedsOn proceeds)
    {transported : Option Request}
    (concludes : chain.ConcludesBy transported)
    (course : chain.Course [] carried entries (outline run.signals) run.result)
    (dropped : Option σ) :
    run.MakesCalls chain.phase proceeds transported (entries.map (·.middleware)) dropped := by
  constructor
  · have inOrder := course.callsInOrder run.state wellFormed proceedsOn concludes
    rw [course.callsIn_signalsUntil wellFormed]
    simpa using inOrder
  · obtain ⟨_, noReturn⟩ := course.callsIn_closing wellFormed dropped
    rw [ChainRun.signalsUntil, replyTo_append _ noReturn, ← replyTo_outline]
    exact course.replyTo_eq

end Chain.Course

namespace Downloader

/-- A chain that goes on when a hook replies with nothing, and is settled by any other reply. -/
theorem proceedsOn_of_acceptAny
    {chain : Chain σ ν ι Unit}
    (judges :
      ∀ reply : Reply,
        chain.judge reply =
          reply.acceptAny.map fun
            | none => .proceed ()
            | some outcome => .settle outcome) :
    chain.ProceedsOn RepliedNothing where
  needsReturn := by simp [RepliedNothing]
  verdict_iff middleware answer := by
    rcases answer with cause | reply
    · simp [RepliedNothing, Return.ofAnswer, Chain.verdict]
    · cases reply <;>
        simp [RepliedNothing, Return.ofAnswer, Chain.verdict, judges, Reply.acceptAny,
          Reply.outcome?, Except.map]

theorem proceedsOn_requestChain
    (downloader : Downloader σ ν)
    (transport : Transport σ ν)
    (request : Request) :
    (downloader.requestChain transport request).ProceedsOn RepliedNothing :=
  proceedsOn_of_acceptAny fun _ => rfl

theorem proceedsOn_exceptionChain
    (downloader : Downloader σ ν)
    (request : Request)
    (failure : Failure) :
    (downloader.exceptionChain request failure).ProceedsOn RepliedNothing :=
  proceedsOn_of_acceptAny fun _ => rfl

theorem proceedsOn_responseChain
    (downloader : Downloader σ ν)
    (request : Request)
    (response : Response) :
    (downloader.responseChain request response).ProceedsOn RepliedResponse where
  needsReturn := by simp [RepliedResponse]
  verdict_iff middleware answer := by
    rcases answer with cause | reply
    · simp [RepliedResponse, Return.ofAnswer, Chain.verdict]
    · cases reply <;>
        simp [RepliedResponse, Return.ofAnswer, Chain.verdict, responseChain,
          Reply.acceptOutcome, Reply.outcome?, Except.map]

theorem concludesBy_requestChain
    (downloader : Downloader σ ν)
    (transport : Transport σ ν)
    (request : Request) :
    (downloader.requestChain transport request).ConcludesBy (some request) :=
  fun _ => ⟨transport, rfl⟩

theorem concludesBy_exceptionChain
    (downloader : Downloader σ ν)
    (request : Request)
    (failure : Failure) :
    (downloader.exceptionChain request failure).ConcludesBy none :=
  fun _ => ⟨.error failure, rfl⟩

theorem concludesBy_responseChain
    (downloader : Downloader σ ν)
    (request : Request)
    (response : Response) :
    (downloader.responseChain request response).ConcludesBy none :=
  fun current => ⟨.ok (.response current), rfl⟩

theorem makesCalls_requestRun?
    (downloader : Downloader σ ν)
    (transport : Transport σ ν)
    (request : Request)
    (life : Life σ) :
    ∀ run ∈ downloader.requestRun? transport request life.polls,
      run.MakesCalls .request RepliedNothing (some request)
        (downloader.stack.hookNames .request)
        life.dropped := by
  intro run started
  have course := course_of_mem_requestRun? started
  exact
    course.makesCalls
      (downloader.wellFormed_requestChain transport request)
      (downloader.proceedsOn_requestChain transport request)
      (downloader.concludesBy_requestChain transport request)
      life.dropped

theorem makesCalls_exceptionRun?
    (downloader : Downloader σ ν)
    (transport : Transport σ ν)
    (request : Request)
    (life : Life σ) :
    ∀ run ∈ downloader.exceptionRun? transport request life.polls,
      run.MakesCalls .exception RepliedNothing none
        (downloader.stack.hookNames .exception)
        life.dropped := by
  intro run recovered
  obtain ⟨failure, course⟩ := course_of_mem_exceptionRun? recovered
  exact
    course.makesCalls
      (downloader.wellFormed_exceptionChain request failure)
      (downloader.proceedsOn_exceptionChain request failure)
      (downloader.concludesBy_exceptionChain request failure)
      life.dropped

theorem makesCalls_responseRun?
    (downloader : Downloader σ ν)
    (transport : Transport σ ν)
    (request : Request)
    (life : Life σ) :
    ∀ run ∈ downloader.responseRun? transport request life.polls,
      run.MakesCalls .response RepliedResponse none
        (downloader.stack.hookNames .response)
        life.dropped := by
  intro run received
  obtain ⟨response, course⟩ := course_of_mem_responseRun? received
  exact
    course.makesCalls
      (downloader.wellFormed_responseChain request response)
      (downloader.proceedsOn_responseChain request response)
      (downloader.concludesBy_responseChain request response)
      life.dropped

variable {phase : Phase}
variable {proceeds : Option Return → Prop}
variable {transported : Option Request}
variable {middlewares : List String}
variable {dropped : Option σ}
variable {run : Option (ChainRun σ ν)}

theorem replyTo_shownBy
    (makes : ∀ member ∈ run, member.MakesCalls phase proceeds transported middlewares dropped) :
    replyTo (shownBy run dropped) = none := by
  cases run with
  | none => rfl
  | some run => exact (makes run rfl).noReturn

/-- A run that there may be makes its calls in order exactly when there is one. -/
theorem isCutWhen_shownBy
    {condition : Prop}
    (exactlyWhen : run.isSome ↔ condition)
    (makes : ∀ member ∈ run, member.MakesCalls phase proceeds none middlewares dropped) :
    IsCutWhen condition phase proceeds middlewares (callsIn (shownBy run dropped)) := by
  cases run with
  | none =>
      exact .inr ⟨by simpa using exactlyWhen, rfl⟩
  | some run =>
      exact .inl ⟨exactlyWhen.mp rfl, (makes run rfl).inOrder.isCut⟩

/-- The calls of a run that there may be, apart from the calls of the transport. -/
theorem exists_calls_shownBy
    {condition : Prop}
    (exactlyWhen : run.isSome ↔ condition)
    (makes : ∀ member ∈ run, member.MakesCalls phase proceeds transported middlewares dropped) :
    ∃ hookCalls transportCalls,
      callsIn (shownBy run dropped) = hookCalls ++ transportCalls ∧
        IsCutWhen condition phase proceeds middlewares hookCalls ∧
        (condition ∧ AllProceed proceeds middlewares hookCalls →
          transportCalls.map (·.1) = (transported.map Call.transport).toList) ∧
        (¬ (condition ∧ AllProceed proceeds middlewares hookCalls) → transportCalls = []) := by
  cases run with
  | none =>
      have unmet : ¬ condition := by simpa using exactlyWhen
      exact ⟨[], [], rfl, .inr ⟨unmet, rfl⟩, fun all => (unmet all.1).elim, fun _ => rfl⟩
  | some run =>
      have met : condition := exactlyWhen.mp rfl
      obtain ⟨hookCalls, transportCalls, sameCalls, cut, whenAll, whenNotAll⟩ :=
        (makes run rfl).inOrder
      refine ⟨hookCalls, transportCalls, sameCalls, .inl ⟨met, cut⟩, ?_, ?_⟩
      · intro all
        exact whenAll all.2
      · intro notAll
        exact whenNotAll fun all => notAll ⟨met, all⟩

/--
The calls of a download through layers are in the order of the layers if they
are first those of the request hooks, up to the first that does not reply with
nothing; then, if all of them have replied with nothing, that of the transport;
then, if the request chain has failed and the download was polled again, those
of the exception hooks in reverse order, up to the first that does not reply
with nothing; and then, if there is a response, those of the response hooks in
reverse order, up to the first that does not reply with a response.
-/
def CallsInLayerOrder
    (downloader : Downloader σ ν)
    (layers : List (Layer σ ν))
    (transport : Transport σ ν)
    (request : Request)
    (polls : List σ)
    (calls : List (Call × Option Return)) :
    Prop :=
  let requestNames := (Layer.requestEntries layers).map (·.middleware)
  let exceptionNames := ((Layer.exceptionEntries layers).map (·.middleware)).reverse
  let responseNames := ((Layer.responseEntries layers).map (·.middleware)).reverse
  ∃ requestCalls transportCalls exceptionCalls responseCalls,
    calls = requestCalls ++ transportCalls ++ exceptionCalls ++ responseCalls ∧
      IsCutWhen (polls ≠ []) .request RepliedNothing requestNames requestCalls ∧
      (polls ≠ [] ∧ AllProceed RepliedNothing requestNames requestCalls →
        transportCalls.map (·.1) = [.transport request]) ∧
      (¬ (polls ≠ [] ∧ AllProceed RepliedNothing requestNames requestCalls) →
        transportCalls = []) ∧
      IsCutWhen (downloader.Recovers transport request polls)
        .exception RepliedNothing exceptionNames exceptionCalls ∧
      IsCutWhen (downloader.Receives transport request polls)
        .response RepliedResponse responseNames responseCalls

/-- In each life of a download its calls are in the order of its layers. -/
theorem calls_inLayerOrder
    {layers : List (Layer σ ν)}
    {stack : Stack σ ν}
    (accepted : Stack.ofLayers layers = .ok stack)
    (context : Context)
    (reporter : Reporter σ ν)
    (transport : Transport σ ν)
    (request : Request)
    (life : Life σ) :
    let downloader : Downloader σ ν := ⟨stack, context, reporter⟩
    downloader.CallsInLayerOrder layers transport request life.polls
      (callsIn ((Job.fresh (downloader.download transport request)).live life).1) := by
  intro downloader
  obtain ⟨sameRequest, sameResponse, sameException⟩ := Stack.eq_of_ofLayers_eq_ok accepted
  have requestOrder :
      downloader.stack.hookNames .request =
        (Layer.requestEntries layers).map (·.middleware) := by
    simp [downloader, Stack.hookNames, sameRequest]
  have exceptionOrder :
      downloader.stack.hookNames .exception =
        ((Layer.exceptionEntries layers).map (·.middleware)).reverse := by
    simp [downloader, Stack.hookNames, sameException]
  have responseOrder :
      downloader.stack.hookNames .response =
        ((Layer.responseEntries layers).map (·.middleware)).reverse := by
    simp [downloader, Stack.hookNames, sameResponse]
  have requestMakes := downloader.makesCalls_requestRun? transport request life
  have exceptionMakes := downloader.makesCalls_exceptionRun? transport request life
  have responseMakes := downloader.makesCalls_responseRun? transport request life
  rw [requestOrder] at requestMakes
  rw [exceptionOrder] at exceptionMakes
  rw [responseOrder] at responseMakes
  obtain ⟨requestCalls, transportCalls, sameCalls, requestCut, whenAll, whenNotAll⟩ :=
    exists_calls_shownBy isSome_requestRun?_iff requestMakes
  refine
    ⟨requestCalls, transportCalls, _, _, ?_, requestCut, whenAll, whenNotAll,
      isCutWhen_shownBy isSome_exceptionRun?_iff exceptionMakes,
      isCutWhen_shownBy isSome_responseRun?_iff responseMakes⟩
  rw [live_download, callsIn_append _ (replyTo_shownBy responseMakes),
    callsIn_append _ (replyTo_shownBy exceptionMakes), sameCalls]

/-- The calls of a download that is dropped in the transport, in the order of its layers. -/
theorem calls_inLayerOrder_dropped :
    Stack.ofLayers Sample.layers = .ok Sample.stack ∧
      (Downloader.ofStack Sample.stack).CallsInLayerOrder Sample.layers Sample.failing (.get "/")
        [0, 1]
        (callsIn ((Job.fresh Sample.download).live ⟨[0, 1], some 1⟩).1) :=
  ⟨rfl, calls_inLayerOrder rfl .default .default Sample.failing (.get "/") ⟨[0, 1], some 1⟩⟩

end Downloader

end Middleware
