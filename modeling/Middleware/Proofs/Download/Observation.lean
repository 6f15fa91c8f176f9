import Middleware.Proofs.Download.Stages
import Middleware.Proofs.Telemetry.Observation

namespace Middleware

/-!
# Downloads and their observed forms

A downloader whose hooks work on a state of their own may report to any observer
that works on another state. Its downloads are the observed forms of the
downloads that report to nobody.
-/

variable {τ ρ ν ι κ : Type}

/-- A hook gets to see the same context on the first part of a state. -/
theorem Hook.visibleContext_onFirst
    (hook : Hook τ ν ι)
    (context : Context) :
    (hook.onFirst : Hook (τ × ρ) ν ι).visibleContext context = hook.visibleContext context := by
  cases hook <;> rfl

theorem Hook.start_onFirst
    (hook : Hook τ ν ι)
    (input : ι)
    (context : Context) :
    (hook.onFirst : Hook (τ × ρ) ν ι).start input context =
      (hook.start input context).onFirst := by
  cases hook <;> rfl

namespace Chain

/-- The rules of a chain on a larger state, with another reporter and another conclusion. -/
def observed
    (chain : Chain τ ν ι κ)
    (reporter : Reporter (τ × ρ) ν)
    (conclude : κ → Task (τ × ρ) (Signal ν) (Except Failure Outcome)) :
    Chain (τ × ρ) ν ι κ where
  phase := chain.phase
  context := chain.context
  reporter := reporter
  subject := chain.subject
  resolved := chain.resolved
  input := chain.input
  announce := chain.announce
  judge := chain.judge
  settledLine := chain.settledLine
  conclude := conclude

/-- A chain whose reports and whose conclusion are observed forms of those of a bare chain. -/
structure ObservedAs
    (observer : Observer ρ ν)
    (chain : Chain τ ν ι κ)
    (reporter : Reporter (τ × ρ) ν)
    (conclude : κ → Task (τ × ρ) (Signal ν) (Except Failure Outcome)) :
    Prop where
  reports : ∀ event, (chain.reporter.report event).ObservedAs observer (reporter.report event)
  concludes : ∀ carried, (chain.conclude carried).ObservedAs observer (conclude carried)
  logs : ∀ middleware outcome, (chain.settledLine middleware outcome).message ∈ settledMessages

namespace ObservedAs

variable {observer : Observer ρ ν}
variable {chain : Chain τ ν ι κ}
variable {reporter : Reporter (τ × ρ) ν}
variable {conclude : κ → Task (τ × ρ) (Signal ν) (Except Failure Outcome)}

theorem call
    (observed : chain.ObservedAs observer reporter conclude)
    (entry : Entry τ ν ι)
    (carried : κ) :
    (chain.call entry carried).ObservedAs observer
      ((chain.observed reporter conclude).call entry.onFirst carried) := by
  have started :
      ((entry.hook.start (chain.input carried) chain.context).relabel Signal.note).ObservedAs
        observer
        ((entry.onFirst.hook.start (chain.input carried) chain.context).relabel .note) := by
    rw [Entry.onFirst, Hook.start_onFirst]
    exact .onFirst _
  have sameCall :
      (chain.observed reporter conclude).callOf entry.onFirst carried =
        chain.callOf entry carried := by
    simp only [callOf, Entry.onFirst, Hook.visibleContext_onFirst]
    rfl
  refine .bind ?announced fun _ => .bind ?answered fun answer => ?reported
  case announced =>
    change
      Task.ObservedAs observer (Task.emit (.call (chain.callOf entry carried)))
        (Task.emit (.call ((chain.observed reporter conclude).callOf entry.onFirst carried)))
    rw [sameCall]
    exact .emitCall _
  case answered =>
    exact started.guarded fun _ => observed.reports _
  case reported =>
    exact
      .bind (.emitReturned _) fun _ =>
        .bind (.perform (observed.reports _)) fun _ => .done _

theorem finish
    (observed : chain.ObservedAs observer reporter conclude)
    (visited : List String)
    (result : Except Failure Outcome) :
    (chain.finish visited result).ObservedAs observer
      ((chain.observed reporter conclude).finish visited result) :=
  .bind (.perform (observed.reports _)) fun _ => .done result

/-- From each hook on, a run of a chain on a larger state is the observed form of a bare run. -/
theorem resume
    (observed : chain.ObservedAs observer reporter conclude)
    (entries : List (Entry τ ν ι))
    (visited : List String)
    (carried : κ) :
    (chain.resume visited carried entries).ObservedAs observer
      ((chain.observed reporter conclude).resume visited carried
        (entries.map Entry.onFirst)) := by
  induction entries generalizing visited carried with
  | nil =>
      have concluded :=
        (observed.concludes carried).guarded fun interruption =>
          observed.reports (chain.interruptedRun visited interruption)
      rw [List.map_nil, resume_nil, resume_nil]
      exact concluded.bind fun result => observed.finish visited result
  | cons entry rest inductionHypothesis =>
      have called :=
        (observed.call entry carried).guarded fun interruption =>
          observed.reports (chain.interruptedRun (visited ++ [entry.middleware]) interruption)
      rw [List.map_cons, resume_cons, resume_cons]
      refine called.bind fun verdict => ?_
      cases verdict with
      | error failure =>
          exact observed.finish _ _
      | ok verdict =>
          cases verdict with
          | settle outcome =>
              have logged := observed.logs entry.middleware outcome
              exact .bind (.emitLog logged) fun _ => observed.finish _ _
          | proceed next =>
              exact inductionHypothesis (visited ++ [entry.middleware]) next

theorem run
    (observed : chain.ObservedAs observer reporter conclude)
    (entries : List (Entry τ ν ι))
    (carried : κ) :
    (chain.run entries carried).ObservedAs observer
      ((chain.observed reporter conclude).run (entries.map Entry.onFirst) carried) :=
  observed.resume entries [] carried

end ObservedAs

end Chain

namespace Downloader

/-- The downloader of a stack that reports to nobody. -/
def bare
    (stack : Stack τ ν)
    (context : Context) :
    Downloader τ ν :=
  ⟨stack, context, .silent, fun _ _ => .zero⟩

/-- The downloader of a stack that reports to an observer with a state of its own. -/
def watched
    (stack : Stack τ ν)
    (context : Context)
    (observer : Observer ρ ν)
    (stopwatch : Event → τ × ρ → Duration) :
    Downloader (τ × ρ) ν :=
  ⟨stack.onFirst, context, observer.onSecond, stopwatch⟩

variable (stack : Stack τ ν)
variable (context : Context)
variable (observer : Observer ρ ν)
variable (stopwatch : Event → τ × ρ → Duration)

theorem observedAs_callTransport
    (transport : Transport τ ν)
    (request : Request) :
    (callTransport transport request).ObservedAs observer
      (callTransport (transport.onFirst : Transport (τ × ρ) ν) request) := by
  refine .bind (.emitCall _) fun _ => .bind (.onFirst (transport request)) fun answer => ?_
  refine .bind (.emitReturned _) fun _ => ?_
  cases answer with
  | ok response => exact .done _
  | error cause => exact .done _

theorem observedAs_requestChain
    (transport : Transport τ ν)
    (request : Request) :
    ((bare stack context).requestChain transport request).ObservedAs observer
      ⟨observer.onSecond, stopwatch⟩
      (fun _ => callTransport transport.onFirst request) where
  reports := .report _ stopwatch
  concludes _ := observedAs_callTransport observer transport request
  logs := ((bare stack context).wellFormed_requestChain transport request).logs

theorem observedAs_exceptionChain
    (request : Request)
    (failure : Failure) :
    ((bare stack context).exceptionChain request failure).ObservedAs observer
      ⟨observer.onSecond, stopwatch⟩
      (fun _ => .done (.error failure)) where
  reports := .report _ stopwatch
  concludes _ := .done _
  logs := ((bare stack context).wellFormed_exceptionChain request failure).logs

theorem observedAs_responseChain
    (request : Request)
    (response : Response) :
    ((bare stack context).responseChain request response).ObservedAs observer
      ⟨observer.onSecond, stopwatch⟩
      (fun current => .done (.ok (.response current))) where
  reports := .report _ stopwatch
  concludes _ := .done _
  logs := ((bare stack context).wellFormed_responseChain request response).logs

theorem observedAs_send
    (transport : Transport τ ν)
    (request : Request) :
    ((bare stack context).send transport request).ObservedAs observer
      ((watched stack context observer stopwatch).send transport.onFirst request) :=
  (observedAs_requestChain stack context observer stopwatch transport request).run stack.request ()

theorem observedAs_recover
    (request : Request)
    (failure : Failure) :
    ((bare stack context).recover request failure).ObservedAs observer
      ((watched stack context observer stopwatch).recover request failure) :=
  (observedAs_exceptionChain stack context observer stopwatch request failure).run
    stack.exception ()

theorem observedAs_receive
    (request : Request)
    (outcome : Outcome) :
    ((bare stack context).receive request (some outcome)).ObservedAs observer
      ((watched stack context observer stopwatch).receive request (some outcome)) := by
  cases outcome with
  | request retry =>
      exact .done _
  | response response =>
      have observed := observedAs_responseChain stack context observer stopwatch request response
      exact observed.run stack.response response

/-- A download that reports to an observer is the observed form of one that reports to nobody. -/
theorem observedAs_download
    (transport : Transport τ ν)
    (request : Request) :
    ((bare stack context).download transport request).ObservedAs observer
      ((watched stack context observer stopwatch).download transport.onFirst request) := by
  refine (observedAs_send stack context observer stopwatch transport request).bind fun sent => ?_
  cases sent with
  | ok outcome =>
      exact observedAs_receive stack context observer stopwatch request outcome
  | error failure =>
      have recovered := observedAs_recover stack context observer stopwatch request failure
      refine .bind .pause fun _ => recovered.bind fun result => ?_
      cases result with
      | ok outcome => exact observedAs_receive stack context observer stopwatch request outcome
      | error failure => exact .done _

end Downloader

end Middleware
