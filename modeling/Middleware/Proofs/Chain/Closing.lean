import Middleware.Proofs.Chain.Course
import Middleware.Proofs.Task.Life

namespace Middleware

/-!
# Dropping a run of a chain

A run of a chain that is suspended has one call open, that of a hook or that of
the transport, and it is the last of its calls. If the run is dropped there, it
reports what this call leaves open, from the inside to the outside: the method
if a hook was called, and then the chain. It calls nothing more.
-/

variable {σ ν ι κ : Type}

/-- Events alone make no calls. -/
@[simp] theorem callsIn_events (events : List Event) :
    callsIn (events.map (Signal.event : Event → Signal ν)) = [] := by
  induction events with
  | nil => rfl
  | cons event rest inductionHypothesis => exact inductionHypothesis

/-- The events among events alone are all of them. -/
@[simp] theorem eventsIn_events (events : List Event) :
    eventsIn (events.map (Signal.event : Event → Signal ν)) = events := by
  induction events with
  | nil => rfl
  | cons event rest inductionHypothesis => exact congrArg (event :: ·) inductionHypothesis

/-- Events alone hold no return. -/
@[simp] theorem replyTo_events (events : List Event) :
    replyTo (events.map (Signal.event : Event → Signal ν)) = none := by
  induction events with
  | nil => rfl
  | cons event rest inductionHypothesis => exact inductionHypothesis

/-- Whether an event reports that a hook call or a run of a chain was dropped. -/
def Event.isCancelled : Event → Bool
  | .method report => report.cancelled
  | .chain report => report.cancelled

/-- All calls among signals have come back. -/
def AllBack (signals : List (Signal ν)) : Prop :=
  ∀ call ∈ callsIn signals, call.2.isSome

namespace Chain

variable {chain : Chain σ ν ι κ}

/-- As long as a run of a chain is not dropped, it reports nothing as dropped. -/
theorem Course.isCancelled_eq_false
    {visited : List String}
    {carried : κ}
    {entries : List (Entry σ ν ι)}
    {signals : List (Signal ν)}
    {standing : Standing σ (Signal ν) (Except Failure Outcome)}
    (course : chain.Course visited carried entries signals standing) :
    ∀ event ∈ eventsIn signals, event.isCancelled = false := by
  induction course with
  | conclude conclusion =>
      cases conclusion <;>
        simp [Event.isCancelled, finishedRun, ChainReport.finished, interruptedRun,
          ChainReport.interrupted]
  | proceed verdict later inductionHypothesis =>
      rw [eventsIn_answered]
      simpa [Event.isCancelled, MethodReport.finished] using inductionHypothesis
  | settle verdict left =>
      rw [eventsIn_answered]
      simp [Event.isCancelled, MethodReport.finished, finishedRun, ChainReport.finished]
  | fail verdict left =>
      rw [eventsIn_answered]
      simp [Event.isCancelled, MethodReport.finished, finishedRun, ChainReport.finished]
  | panic message =>
      simp [Event.isCancelled, interruptedCall, MethodReport.interrupted, interruptedRun,
        ChainReport.interrupted]
  | suspend abandon closes =>
      simp

/-- When a run of a chain has finished, all of its calls have come back. -/
theorem Course.allBack
    {visited : List String}
    {carried : κ}
    {entries : List (Entry σ ν ι)}
    {signals : List (Signal ν)}
    {standing : Standing σ (Signal ν) (Except Failure Outcome)}
    (course : chain.Course visited carried entries signals standing)
    {result : Except Failure Outcome}
    {left : List σ}
    (finished : standing = .finished result left) :
    AllBack signals := by
  induction course with
  | conclude conclusion =>
      cases conclusion with
      | stated concluded left => simp [AllBack, callsIn]
      | transported concluded answer left => simp [AllBack, callsIn, replyTo]
      | panicked concluded message => cases finished
      | suspended concluded abandon closes => cases finished
  | proceed verdict later inductionHypothesis =>
      rw [AllBack, callsIn_answered, List.forall_mem_cons]
      exact ⟨rfl, inductionHypothesis finished⟩
  | settle verdict left =>
      rw [AllBack, callsIn_answered]
      simp [callsIn]
  | fail verdict left =>
      rw [AllBack, callsIn_answered]
      simp [callsIn]
  | panic message => cases finished
  | suspend abandon closes => cases finished

/--
What a run of a chain reports when it is dropped, by the call that is open
there. The middlewares visited before, those of its hooks and what it has shown
are given.
-/
inductive Closes
    (chain : Chain σ ν ι κ)
    (visited middlewares : List String)
    (signals : List (Signal ν)) :
    List Event →
    Prop where
  | hook
      {earlier : List (Call × Option Return)}
      {call : Call}
      {middleware : String}
      (isOpen : callsIn signals = earlier ++ [(call, none)])
      (callsHook : call.hook? = some (chain.phase, middleware))
      (calledLast : (hookCallsIn chain.phase signals).getLast? = some middleware) :
      Closes chain visited middlewares signals
        [chain.interruptedCall middleware .cancelled,
          chain.interruptedRun (visited ++ hookCallsIn chain.phase signals) .cancelled]
  | transport
      {earlier : List (Call × Option Return)}
      {carried : κ}
      {transport : Transport σ ν}
      {request : Request}
      (isOpen : callsIn signals = earlier ++ [(.transport request, none)])
      (concluded : chain.conclude carried = Downloader.callTransport transport request) :
      Closes chain visited middlewares signals
        [chain.interruptedRun (visited ++ middlewares) .cancelled]

/-- Nothing but a call of the transport has been made, and it is open. -/
theorem Closes.transportOnly
    {visited : List String}
    {carried : κ}
    {transport : Transport σ ν}
    {request : Request}
    (concluded : chain.conclude carried = Downloader.callTransport transport request) :
    chain.Closes visited [] [.call (.transport request)]
      [chain.interruptedRun visited .cancelled] := by
  have form :
      chain.Closes visited [] [.call (.transport request)]
        [chain.interruptedRun (visited ++ []) .cancelled] :=
    .transport (List.nil_append _).symm concluded
  rwa [List.append_nil] at form

/-- Nothing but a call of a hook has been made, and it is open. -/
theorem Closes.firstHook
    (wellFormed : chain.WellFormed)
    (visited middlewares : List String)
    (entry : Entry σ ν ι)
    (carried : κ) :
    chain.Closes visited middlewares [.call (chain.callOf entry carried)]
      [chain.interruptedCall entry.middleware .cancelled,
        chain.interruptedRun (visited ++ [entry.middleware]) .cancelled] := by
  have sameHooks :
      hookCallsIn chain.phase [(.call (chain.callOf entry carried) : Signal ν)] =
        [entry.middleware] := by
    simp [wellFormed.hookIn?_callOf]
  have form :
      chain.Closes visited middlewares [.call (chain.callOf entry carried)]
        [chain.interruptedCall entry.middleware .cancelled,
          chain.interruptedRun
            (visited ++ hookCallsIn chain.phase [.call (chain.callOf entry carried)])
            .cancelled] :=
    .hook (List.nil_append _).symm (wellFormed.announces ..) (by simp [sameHooks])
  rwa [sameHooks] at form

/-- A hook that has let the chain proceed was visited before what is open now. -/
theorem Closes.proceed
    (wellFormed : chain.WellFormed)
    {visited rest : List String}
    {entry : Entry σ ν ι}
    {carried : κ}
    {answer : Answer}
    {signals : List (Signal ν)}
    {events : List Event}
    (later : chain.Closes (visited ++ [entry.middleware]) rest signals events) :
    chain.Closes visited (entry.middleware :: rest)
      (chain.answered entry carried answer ++ signals)
      events := by
  have sameHooks := wellFormed.hookCallsIn_answered entry carried answer signals
  have stillOpen :
      ∀ {earlier last},
        callsIn signals = earlier ++ [last] →
          callsIn (chain.answered entry carried answer ++ signals) =
            ((chain.callOf entry carried, some (.ofAnswer answer)) :: earlier) ++ [last] := by
    intro earlier last isOpen
    rw [callsIn_answered, isOpen, List.cons_append]
  cases later with
  | @hook earlier call middleware isOpen callsHook calledLast =>
      have sameVisited :
          visited ++ [entry.middleware] ++ hookCallsIn chain.phase signals =
            visited ++
              hookCallsIn chain.phase (chain.answered entry carried answer ++ signals) := by
        simp [sameHooks]
      rw [sameVisited]
      refine .hook (stillOpen isOpen) callsHook ?_
      rw [sameHooks, List.getLast?_cons, calledLast]
      rfl
  | @transport earlier carried transport request isOpen concluded =>
      have sameVisited :
          visited ++ [entry.middleware] ++ rest = visited ++ entry.middleware :: rest := by
        simp
      rw [sameVisited]
      exact .transport (stillOpen isOpen) concluded

/-- A run that is suspended closes what is open when it is dropped. -/
theorem Course.closes
    (wellFormed : chain.WellFormed)
    {visited : List String}
    {carried : κ}
    {entries : List (Entry σ ν ι)}
    {signals : List (Signal ν)}
    {standing : Standing σ (Signal ν) (Except Failure Outcome)}
    (course : chain.Course visited carried entries signals standing)
    (suspended : standing.isSuspended)
    (state : σ) :
    ∃ events,
      outline (standing.closing (some state)) = events.map .event ∧
        chain.Closes visited (entries.map (·.middleware)) signals events := by
  induction course with
  | @conclude visited carried signals standing conclusion =>
      cases conclusion with
      | stated concluded left => cases suspended
      | transported concluded answer left => cases suspended
      | panicked concluded message => cases suspended
      | suspended concluded abandon closes =>
          exact
            ⟨[chain.interruptedRun visited .cancelled],
              closes state,
              .transportOnly concluded⟩
  | proceed verdict later inductionHypothesis =>
      obtain ⟨events, closing, closes⟩ := inductionHypothesis suspended
      exact ⟨events, closing, closes.proceed wellFormed⟩
  | settle verdict left => cases suspended
  | fail verdict left => cases suspended
  | panic message => cases suspended
  | @suspend visited carried entry rest abandon closes =>
      exact
        ⟨[chain.interruptedCall entry.middleware .cancelled,
            chain.interruptedRun (visited ++ [entry.middleware]) .cancelled],
          closes state,
          .firstHook wellFormed visited _ entry carried⟩

/-- Wherever a run is left, it emits events only. -/
theorem Course.outline_closing
    (wellFormed : chain.WellFormed)
    {visited : List String}
    {carried : κ}
    {entries : List (Entry σ ν ι)}
    {signals : List (Signal ν)}
    {standing : Standing σ (Signal ν) (Except Failure Outcome)}
    (course : chain.Course visited carried entries signals standing)
    (dropped : Option σ) :
    ∃ events : List Event, outline (standing.closing dropped) = events.map .event := by
  cases dropped with
  | none =>
      cases standing <;> exact ⟨[], rfl⟩
  | some state =>
      cases suspended : standing.isSuspended with
      | true =>
          obtain ⟨events, closing, _⟩ := course.closes wellFormed suspended state
          exact ⟨events, closing⟩
      | false =>
          cases standing with
          | finished result left => exact ⟨[], rfl⟩
          | panicked message => exact ⟨[], rfl⟩
          | suspended abandon => cases suspended

/-- Where a run is left, it makes no further calls. -/
theorem Course.callsIn_append_closing
    (wellFormed : chain.WellFormed)
    {visited : List String}
    {carried : κ}
    {entries : List (Entry σ ν ι)}
    {signals : List (Signal ν)}
    {standing : Standing σ (Signal ν) (Except Failure Outcome)}
    (course : chain.Course visited carried entries signals standing)
    (dropped : Option σ) :
    callsIn (signals ++ outline (standing.closing dropped)) = callsIn signals := by
  obtain ⟨events, closing⟩ := course.outline_closing wellFormed dropped
  rw [closing, callsIn_append _ (replyTo_events events), callsIn_events, List.append_nil]

end Chain

end Middleware
