import Middleware.Proofs.Download.Separation
import Middleware.Proofs.Download.Stages
import Middleware.Proofs.Stack

namespace Middleware

/-!
# What a download computes

The reference semantics of a download is made up of three folds over its
layers, in which hooks and the transport are functions of their inputs and of
a state that is threaded through the calls. There are no chains, scopes,
reports or suspensions in it. The main statement is that a download comes to a
result exactly if the reference does, to the same one, and leaves the same
state.
-/

variable {τ ρ ν : Type}

namespace Layer

/-- Call the request hooks in order up to the first value or failure, and then the transport. -/
def sendReference
    (context : Context)
    (transport : Transport τ ν)
    (request : Request) :
    List (Layer τ ν) →
    StateT τ Option (Except Failure Outcome)
  | [] => do
      match ← (transport request).complete with
      | .ok response => return .ok (.response response)
      | .error cause => return .error (.transport cause)
  | layer :: rest =>
      match layer.request with
      | none => sendReference context transport request rest
      | some hook => do
          match ← (hook.start request context).complete with
          | .ok .nothing => sendReference context transport request rest
          | .ok (.response response) => return .ok (.response response)
          | .ok (.request retry) => return .ok (.request retry)
          | .error cause => return .error (.hook layer.name .request cause)

/-- Call the exception hooks in order up to the first value or failure. -/
def recoverReference
    (context : Context)
    (request : Request)
    (failure : Failure) :
    List (Layer τ ν) →
    StateT τ Option (Except Failure Outcome)
  | [] => return .error failure
  | layer :: rest =>
      match layer.exception with
      | none => recoverReference context request failure rest
      | some hook => do
          match ← (hook.start (request, failure) context).complete with
          | .ok .nothing => recoverReference context request failure rest
          | .ok (.response response) => return .ok (.response response)
          | .ok (.request retry) => return .ok (.request retry)
          | .error cause => return .error (.hook layer.name .exception cause)

/-- Thread a response through the response hooks in order, up to the first that gives none. -/
def receiveReference
    (context : Context)
    (request : Request)
    (response : Response) :
    List (Layer τ ν) →
    StateT τ Option (Except Failure Outcome)
  | [] => return .ok (.response response)
  | layer :: rest =>
      match layer.response with
      | none => receiveReference context request response rest
      | some hook => do
          match ← (hook.start (request, response) context).complete with
          | .ok (.response next) => receiveReference context request next rest
          | .ok (.request retry) => return .ok (.request retry)
          | .ok .nothing =>
              return .error
                (.replyMismatch layer.name .response "Response or Request" "nothing")
          | .error cause => return .error (.hook layer.name .response cause)

/-- Offer a failure to the exception hooks, from the inside to the outside. -/
def recoveredReference
    (layers : List (Layer τ ν))
    (context : Context)
    (request : Request) :
    Except Failure Outcome →
    StateT τ Option (Except Failure Outcome)
  | .ok outcome => return .ok outcome
  | .error failure => recoverReference context request failure layers.reverse

/-- Pass a response to the response hooks, from the inside to the outside. -/
def receivedReference
    (layers : List (Layer τ ν))
    (context : Context)
    (request : Request) :
    Except Failure Outcome →
    StateT τ Option (Except Failure Outcome)
  | .ok (.response response) => receiveReference context request response layers.reverse
  | .ok (.request retry) => return .ok (.request retry)
  | .error failure => return .error failure

/-- What a download through layers computes; they are given from the outside to the inside. -/
def downloadReference
    (layers : List (Layer τ ν))
    (context : Context)
    (transport : Transport τ ν)
    (request : Request) :
    StateT τ Option (Except Failure Outcome) := do
  let sent ← sendReference context transport request layers
  let recovered ← recoveredReference layers context request sent
  receivedReference layers context request recovered

end Layer

/-- The hooks of some layers, each made to work on the first part of a state. -/
def Layer.entriesOnFirst
    {ι : Type}
    (select : Layer τ ν → Option (Hook τ ν ι))
    (layers : List (Layer τ ν)) :
    List (Entry (τ × ρ) ν ι) :=
  layers.filterMap fun layer =>
    (select layer).map fun hook => ⟨layer.name, hook.onFirst⟩

/--
A fold over layers that follows the verdicts of a chain at their hooks, and its
conclusion in the end, is what the chain computes.
-/
theorem Chain.realizes_fold
    {ι κ : Type}
    {chain : Chain (τ × ρ) ν ι κ}
    (keeps : chain.reporter.Keeps Prod.fst)
    (select : Layer τ ν → Option (Hook τ ν ι))
    (fold : κ → List (Layer τ ν) → StateT τ Option (Except Failure Outcome))
    (concludes :
      ∀ carried, Realizes Prod.fst (chain.conclude carried) (fold carried []))
    (skips :
      ∀ carried layer rest,
        select layer = none → fold carried (layer :: rest) = fold carried rest)
    (calls :
      ∀ carried layer rest hook,
        select layer = some hook →
          fold carried (layer :: rest) =
            (hook.start (chain.input carried) chain.context).complete >>=
              chain.follow layer.name fun next => fold next rest)
    (layers : List (Layer τ ν))
    (visited : List String)
    (carried : κ) :
    Realizes Prod.fst
      (chain.resume visited carried (Layer.entriesOnFirst select layers))
      (fold carried layers) := by
  induction layers generalizing visited carried with
  | nil =>
      exact Chain.realizes_resume_nil keeps (concludes carried)
  | cons layer rest inductionHypothesis =>
      cases present : select layer with
      | none =>
          have sameEntries :
              (Layer.entriesOnFirst select (layer :: rest) : List (Entry (τ × ρ) ν ι)) =
                Layer.entriesOnFirst select rest := by
            simp [Layer.entriesOnFirst, present]
          rw [sameEntries, skips carried layer rest present]
          exact inductionHypothesis visited carried
      | some hook =>
          have sameEntries :
              (Layer.entriesOnFirst select (layer :: rest) : List (Entry (τ × ρ) ν ι)) =
                ⟨layer.name, hook.onFirst⟩ :: Layer.entriesOnFirst select rest := by
            simp [Layer.entriesOnFirst, present]
          rw [sameEntries, calls carried layer rest hook present]
          exact
            Chain.realizes_resume_cons keeps
              (Realizes.start_onFirst hook (chain.input carried) chain.context)
              (inductionHypothesis (visited ++ [layer.name]))

namespace Downloader

theorem realizes_callTransport
    {σ : Type}
    {view : σ → τ}
    {transport : Transport σ ν}
    {request : Request}
    {function : StateT τ Option (Except Cause Response)}
    (responds : Realizes view (transport request) function) :
    Realizes view (callTransport transport request)
      (function >>= fun
        | .ok response => pure (.ok (.response response))
        | .error cause => pure (.error (.transport cause))) := by
  apply (Realizes.emit _).skip
  apply (responds.relabel _).bind
  intro answer
  apply (Realizes.emit _).skip
  cases answer with
  | ok response => exact .done _
  | error cause => exact .done _

/-- A downloader through layers whose hooks share no state with its observer. -/
structure IsSeparate
    (downloader : Downloader (τ × ρ) ν)
    (layers : List (Layer τ ν)) :
    Prop where
  request : downloader.stack.request = Layer.entriesOnFirst (·.request) layers
  response : downloader.stack.response = Layer.entriesOnFirst (·.response) layers.reverse
  exception : downloader.stack.exception = Layer.entriesOnFirst (·.exception) layers.reverse
  keeps : downloader.reporter.Keeps Prod.fst

/-- Layers on the first part of the state and an observer on the second are separate. -/
theorem isSeparate_onFirst_onSecond
    {layers : List (Layer τ ν)}
    {stack : Stack (τ × ρ) ν}
    (accepted : Stack.ofLayers (layers.map Layer.onFirst) = .ok stack)
    (context : Context)
    (observer : Observer ρ ν)
    (stopwatch : Event → τ × ρ → Duration) :
    IsSeparate ⟨stack, context, observer.onSecond, stopwatch⟩ layers := by
  obtain ⟨sameRequest, sameResponse, sameException⟩ := Stack.eq_of_ofLayers_eq_ok accepted
  constructor
  · simp [sameRequest, Layer.requestEntries, Layer.entriesOnFirst, List.filterMap_map,
      Function.comp_def, Layer.onFirst]
  · simp [sameResponse, Layer.responseEntries, Layer.entriesOnFirst, List.filterMap_map,
      Function.comp_def, Layer.onFirst, List.filterMap_reverse]
  · simp [sameException, Layer.exceptionEntries, Layer.entriesOnFirst, List.filterMap_map,
      Function.comp_def, Layer.onFirst, List.filterMap_reverse]
  · exact Reporter.keeps_onSecond observer stopwatch

variable {downloader : Downloader (τ × ρ) ν}
variable {layers : List (Layer τ ν)}

theorem realizes_send
    (separate : downloader.IsSeparate layers)
    (transport : Transport τ ν)
    (request : Request) :
    Realizes Prod.fst
      (downloader.send transport.onFirst request)
      (Layer.sendReference downloader.context transport request layers) := by
  rw [send, separate.request, Chain.run_eq_resume]
  have keeps : (downloader.requestChain transport.onFirst request).reporter.Keeps Prod.fst :=
    separate.keeps
  apply
    Chain.realizes_fold keeps (·.request) fun _ =>
      Layer.sendReference downloader.context transport request
  case concludes =>
    intro carried
    exact realizes_callTransport (.onFirst (transport request))
  case skips =>
    intro carried layer rest absent
    simp only [Layer.sendReference, absent]
  case calls =>
    intro carried layer rest hook present
    simp only [Layer.sendReference, present]
    congr
    funext answer
    rcases answer with cause | reply
    · rfl
    · cases reply <;> rfl

theorem realizes_recover
    (separate : downloader.IsSeparate layers)
    (request : Request)
    (failure : Failure) :
    Realizes Prod.fst
      (downloader.recover request failure)
      (Layer.recoverReference downloader.context request failure layers.reverse) := by
  rw [recover, separate.exception, Chain.run_eq_resume]
  have keeps : (downloader.exceptionChain request failure).reporter.Keeps Prod.fst :=
    separate.keeps
  apply
    Chain.realizes_fold keeps (·.exception) fun _ =>
      Layer.recoverReference downloader.context request failure
  case concludes =>
    intro carried
    exact .done _
  case skips =>
    intro carried layer rest absent
    simp only [Layer.recoverReference, absent]
  case calls =>
    intro carried layer rest hook present
    simp only [Layer.recoverReference, present]
    congr
    funext answer
    rcases answer with cause | reply
    · rfl
    · cases reply <;> rfl

theorem realizes_receive
    (separate : downloader.IsSeparate layers)
    (request : Request)
    (response : Response) :
    Realizes Prod.fst
      (downloader.receive request (some (.response response)))
      (Layer.receiveReference downloader.context request response layers.reverse) := by
  rw [receive, separate.response, Chain.run_eq_resume]
  have keeps : (downloader.responseChain request response).reporter.Keeps Prod.fst :=
    separate.keeps
  apply
    Chain.realizes_fold keeps (·.response) fun response =>
      Layer.receiveReference downloader.context request response
  case concludes =>
    intro carried
    exact .done _
  case skips =>
    intro carried layer rest absent
    simp only [Layer.receiveReference, absent]
  case calls =>
    intro carried layer rest hook present
    simp only [Layer.receiveReference, present]
    congr
    funext answer
    rcases answer with cause | reply
    · rfl
    · cases reply <;> rfl

/-- A download computes the reference semantics. -/
theorem realizes_download
    (separate : downloader.IsSeparate layers)
    (transport : Transport τ ν)
    (request : Request) :
    Realizes Prod.fst
      (downloader.download transport.onFirst request)
      (Layer.downloadReference layers downloader.context transport request) := by
  rw [download_eq_bind]
  apply (realizes_send separate transport request).bind
  intro sent
  cases sent with
  | ok outcome =>
      rw [Layer.recoveredReference, pure_bind]
      cases outcome with
      | response response => exact realizes_receive separate request response
      | request retry => exact .done _
  | error failure =>
      apply Realizes.pause.skip
      apply (realizes_recover separate request failure).bind
      intro recovered
      cases recovered with
      | error failure => exact .done _
      | ok outcome =>
          cases outcome with
          | response response => exact realizes_receive separate request response
          | request retry => exact .done _

/--
A download that is polled until its end comes to a result exactly if the
reference semantics does: to the same result, with the same final state of
hooks and transport.
-/
theorem download_comesTo_iff_reference
    {layers : List (Layer τ ν)}
    {stack : Stack (τ × ρ) ν}
    (accepted : Stack.ofLayers (layers.map Layer.onFirst) = .ok stack)
    (context : Context)
    (observer : Observer ρ ν)
    (stopwatch : Event → τ × ρ → Duration)
    (transport : Transport τ ν)
    (request : Request)
    (start final : τ)
    (rest : ρ)
    (result : Except Failure Outcome) :
    let downloader : Downloader (τ × ρ) ν := ⟨stack, context, observer.onSecond, stopwatch⟩
    let job := Job.fresh (downloader.download transport.onFirst request)
    (∃ restThen, job.ComesTo (start, rest) result (final, restThen)) ↔
      Layer.downloadReference layers context transport request start = some (result, final) := by
  intro downloader job
  have separate : downloader.IsSeparate layers :=
    isSeparate_onFirst_onSecond accepted context observer stopwatch
  have realizes := realizes_download separate transport request (start, rest)
  rw [← realizes]
  constructor
  · rintro ⟨restThen, comesTo⟩
    rw [(Job.comesTo_fresh_iff ..).mp comesTo]
    rfl
  · intro computed
    obtain ⟨⟨value, after, restThen⟩, completed, same⟩ := Option.map_eq_some_iff.mp computed
    cases same
    exact ⟨restThen, (Job.comesTo_fresh_iff ..).mpr completed⟩

/-- A download whose transport fails comes to the response in the place of the failure. -/
theorem download_comesTo_iff_reference_rescued :
    let stack : Stack (Nat × Nat) Unit :=
      (Stack.empty.add Sample.counting.onFirst).add Sample.rescuing.onFirst
    let sink : Sink Nat Unit := ⟨"events", fun _ _ count => ⟨[], count + 1, none⟩⟩
    let downloader : Downloader (Nat × Nat) Unit :=
      ⟨stack, .default, (Observer.sink sink).onSecond, fun _ _ => .zero⟩
    Stack.ofLayers (Sample.layers.map Layer.onFirst) = .ok stack ∧
      ∃ events,
        (Job.fresh (downloader.download Sample.failing.onFirst (.get "/"))).ComesTo (0, 0)
          (.ok (.response (.plain "/")))
          (1, events) := by
  intro stack sink downloader
  have accepted : Stack.ofLayers (Sample.layers.map Layer.onFirst) = .ok stack := rfl
  have comesTo :=
    download_comesTo_iff_reference accepted .default (.sink sink) (fun _ _ => .zero)
      Sample.failing (.get "/") 0 1 0 (.ok (.response (.plain "/")))
  exact ⟨accepted, comesTo.mpr rfl⟩

end Downloader

end Middleware
