import Middleware.Proofs.Chain.Passage

namespace Middleware

/-!
# Where the failure of a chain comes from

A hook causes a failure by failing itself or, in the response phase, by replying
with nothing. The report of its call carries this failure, its chain ends with
it, and the report of the chain follows at once and carries it too. A chain whose
hooks cause no failure can only fail in its conclusion.
-/

variable {σ ν ι κ : Type}

/-- The failure that a hook causes by what its call comes back with, if it causes one. -/
def blame?
    (phase : Phase)
    (middleware : String) :
    Return →
    Option Failure
  | .failure cause => some (.hook middleware phase cause)
  | .reply .nothing =>
      match phase with
      | .response =>
          some (.replyMismatch middleware .response "Response or Request" "nothing")
      | .request | .exception => none
  | .reply _ | .response _ => none

/-- What is reported of a call that has come back, if it is the call of a hook. -/
def methodReport? : Call × Option Return → Option MethodReport
  | (call, some value) =>
      call.hook?.map fun (phase, middleware) =>
        .finished phase middleware (blame? phase middleware value)
  | (_, none) => none

/-- The failure that an event carries. -/
def Event.failure? : Event → Option Failure
  | .method report => report.failure
  | .chain report => report.failure

/-- The report that an event hands over, if it is that of a hook call. -/
def Event.method? : Event → Option MethodReport
  | .method report => some report
  | .chain _ => none

/-- The method reports among signals. -/
def methodsIn (signals : List (Signal ν)) : List MethodReport :=
  (eventsIn signals).filterMap Event.method?

/--
Each method report that carries a failure is followed at once by the report of a
chain of its phase, which carries the same failure.
-/
def FailuresReachChains : List Event → Prop
  | [] => True
  | .chain _ :: rest => FailuresReachChains rest
  | .method report :: rest =>
      (∀ failure ∈ report.failure,
          ∃ chain later,
            rest = .chain chain :: later ∧
              chain.phase = report.phase ∧
              chain.failure = some failure) ∧
        FailuresReachChains rest

theorem FailuresReachChains.append
    {first second : List Event}
    (firstReach : FailuresReachChains first)
    (secondReach : FailuresReachChains second) :
    FailuresReachChains (first ++ second) := by
  induction first with
  | nil =>
      exact secondReach
  | cons event rest inductionHypothesis =>
      cases event with
      | chain report =>
          exact inductionHypothesis firstReach
      | method report =>
          obtain ⟨reaches, restReach⟩ := firstReach
          refine ⟨?_, inductionHypothesis restReach⟩
          intro failure carries
          obtain ⟨chain, later, rfl, samePhase, sameFailure⟩ := reaches failure carries
          exact ⟨chain, later ++ second, rfl, samePhase, sameFailure⟩

/--
All calls have come back, and the method reports are those of the hook calls, in
their order and with the failures that the hooks have caused. Each of these
failures reaches the report of the chain.
-/
structure AccountsForCalls (signals : List (Signal ν)) : Prop where
  allBack : AllBack signals
  methods : methodsIn signals = (callsIn signals).filterMap methodReport?
  reach : FailuresReachChains (eventsIn signals)

theorem AccountsForCalls.append
    {first second : List (Signal ν)}
    (firstAccounts : AccountsForCalls first)
    (secondAccounts : AccountsForCalls second) :
    AccountsForCalls (first ++ second) := by
  have calls := firstAccounts.allBack.callsIn_append second
  constructor
  · exact firstAccounts.allBack.append secondAccounts.allBack
  · have firstMethods := firstAccounts.methods
    have secondMethods := secondAccounts.methods
    simp only [methodsIn] at firstMethods secondMethods ⊢
    rw [eventsIn_append, List.filterMap_append, firstMethods, secondMethods, calls,
      List.filterMap_append]
  · rw [eventsIn_append]
    exact firstAccounts.reach.append secondAccounts.reach

/-- The events of a run of a chain, by the failure that the report of the chain carries. -/
def IsBlockWith
    (phase : Phase)
    (failure : Option Failure)
    (events : List Event) :
    Prop :=
  ∃ (methods : List MethodReport) (report : ChainReport),
    events = methods.map .method ++ [.chain report] ∧
      (∀ method ∈ methods, method.phase = phase) ∧
      report.phase = phase ∧
      report.failure = failure

theorem IsBlockWith.phase_eq
    {phase : Phase}
    {failure : Option Failure}
    {events : List Event}
    (block : IsBlockWith phase failure events) :
    ∀ event ∈ events, event.phase = phase := by
  obtain ⟨methods, report, rfl, methodPhases, reportPhase, _⟩ := block
  intro event member
  rw [List.mem_append, List.mem_map, List.mem_singleton] at member
  rcases member with ⟨method, isMethod, rfl⟩ | rfl
  · exact methodPhases method isMethod
  · exact reportPhase

/-- More method reports of the phase in front make a block of a block. -/
theorem IsBlockWith.behind
    {phase : Phase}
    {failure : Option Failure}
    {events : List Event}
    {methods : List MethodReport}
    (methodPhases : ∀ method ∈ methods, method.phase = phase)
    (block : IsBlockWith phase failure events) :
    IsBlockWith phase failure (methods.map .method ++ events) := by
  obtain ⟨later, report, rfl, laterPhases, reported⟩ := block
  refine ⟨methods ++ later, report, by simp, ?_, reported⟩
  intro method member
  rcases List.mem_append.mp member with isFirst | isLater
  · exact methodPhases method isFirst
  · exact laterPhases method isLater

/-- Where the report of the chain carries no failure, and failures reach it, no event carries one. -/
theorem IsBlockWith.unfailed
    {phase : Phase}
    {events : List Event}
    (block : IsBlockWith phase none events)
    (reach : FailuresReachChains events) :
    ∀ event ∈ events, event.failure? = none := by
  obtain ⟨methods, report, rfl, methodPhases, _, unfailed⟩ := block
  clear methodPhases
  induction methods with
  | nil =>
      simpa [Event.failure?] using unfailed
  | cons method rest inductionHypothesis =>
      obtain ⟨reaches, restReach⟩ := reach
      have restUnfailed := inductionHypothesis restReach
      rw [List.map_cons, List.cons_append, List.forall_mem_cons]
      refine ⟨?_, restUnfailed⟩
      -- A failure would be in the chain report that follows, which is the last event.
      cases carried : method.failure with
      | none =>
          exact carried
      | some failure =>
          obtain ⟨chain, later, shape, _, sameFailure⟩ := reaches failure carried
          change rest.map .method ++ [Event.chain report] = .chain chain :: later at shape
          rw [shape] at restUnfailed
          have chainUnfailed := restUnfailed (.chain chain) List.mem_cons_self
          cases sameFailure.symm.trans chainUnfailed

/--
Signals end with a call of a hook that causes a failure, and with the reports of
the call and of the chain, which both carry it.
-/
def EndsWithBlame
    (phase : Phase)
    (signals : List (Signal ν))
    (failure : Failure) :
    Prop :=
  ∃ earlier call value middleware front report,
    callsIn signals = earlier ++ [(call, some value)] ∧
      call.hook? = some (phase, middleware) ∧
      blame? phase middleware value = some failure ∧
      eventsIn signals =
        front ++ [.method (.finished phase middleware (some failure)), .chain report] ∧
      report.phase = phase ∧
      report.failure = some failure

theorem EndsWithBlame.behind
    {first second : List (Signal ν)}
    (allBack : AllBack first)
    {phase : Phase}
    {failure : Failure}
    (ends : EndsWithBlame phase second failure) :
    EndsWithBlame phase (first ++ second) failure := by
  obtain ⟨earlier, call, value, middleware, front, report, calls, callsHook, blamed, events,
    reported⟩ := ends
  refine
    ⟨callsIn first ++ earlier, call, value, middleware, eventsIn first ++ front, report, ?_,
      callsHook, blamed, ?_, reported⟩
  · rw [allBack.callsIn_append, calls, List.append_assoc]
  · rw [eventsIn_append, events, List.append_assoc]

namespace Chain

variable {chain : Chain σ ν ι κ}

/-- A chain is accountable if it attributes failures to the hooks that cause them. -/
structure IsAccountable (chain : Chain σ ν ι κ) : Prop extends WellFormed chain where
  attributes :
    ∀ middleware answer,
      failure? (chain.verdict middleware answer) =
        blame? chain.phase middleware (.ofAnswer answer)

/-- What is reported of a hook call that has come back is what its answer calls for. -/
theorem IsAccountable.methodReport?_callOf
    (accountable : chain.IsAccountable)
    (entry : Entry σ ν ι)
    (carried : κ)
    (answer : Answer) :
    methodReport? (chain.callOf entry carried, some (.ofAnswer answer)) =
      some
        (.finished chain.phase entry.middleware
          (failure? (chain.verdict entry.middleware answer))) := by
  have callsHook : (chain.callOf entry carried).hook? = some (chain.phase, entry.middleware) :=
    accountable.announces ..
  rw [accountable.attributes, methodReport?, callsHook]
  rfl

/-- A hook call accounts for itself, with what follows if that takes up its failure. -/
theorem IsAccountable.accountsForCalls_answered
    (accountable : chain.IsAccountable)
    (entry : Entry σ ν ι)
    (carried : κ)
    (answer : Answer)
    {later : List (Signal ν)}
    (laterAccounts : AccountsForCalls later)
    (reaches :
      ∀ failure ∈ failure? (chain.verdict entry.middleware answer),
        ∃ report rest,
          eventsIn later = .chain report :: rest ∧
            report.phase = chain.phase ∧
            report.failure = some failure) :
    AccountsForCalls (chain.answered entry carried answer ++ later) := by
  constructor
  · rw [AllBack, callsIn_answered, List.forall_mem_cons]
    exact ⟨rfl, laterAccounts.allBack⟩
  · have laterMethods := laterAccounts.methods
    have reported := accountable.methodReport?_callOf entry carried answer
    rw [methodsIn] at laterMethods ⊢
    rw [callsIn_answered, eventsIn_answered, List.filterMap_cons_some reported, ← laterMethods]
    rfl
  · rw [eventsIn_answered]
    exact ⟨reaches, laterAccounts.reach⟩

/-- A run that has finished accounts for its calls. -/
theorem Course.accountsForCalls
    (accountable : chain.IsAccountable)
    {visited : List String}
    {carried : κ}
    {entries : List (Entry σ ν ι)}
    {signals : List (Signal ν)}
    {result : Except Failure Outcome}
    {left : List σ}
    (course : chain.Course visited carried entries signals (.finished result left)) :
    AccountsForCalls signals := by
  have closed :
      ∀ {signals : List (Signal ν)} {report : ChainReport},
        callsIn signals = [] → eventsIn signals = [.chain report] → AccountsForCalls signals := by
    intro signals report noCalls onlyChain
    constructor
    · simp [AllBack, noCalls]
    · simp [methodsIn, noCalls, onlyChain, Event.method?]
    · rw [onlyChain]
      trivial
  generalize isFinished : Standing.finished result left = standing at course
  -- Only where the hook fails must its failure be taken up, by the report of the chain.
  induction course with
  | conclude conclusion =>
      cases conclusion with
      | stated concluded left =>
          exact closed rfl rfl
      | @transported _ _ concluded answer left =>
          constructor
          · exact List.forall_mem_singleton.mpr rfl
          · rfl
          · trivial
      | panicked concluded message => cases isFinished
      | suspended concluded abandon closes => cases isFinished
  | proceed verdict later inductionHypothesis =>
      apply accountable.accountsForCalls_answered _ _ _ (inductionHypothesis isFinished)
      intro failure carries
      rw [verdict] at carries
      cases carries
  | settle verdict left =>
      apply accountable.accountsForCalls_answered _ _ _ (closed rfl rfl)
      intro failure carries
      rw [verdict] at carries
      cases carries
  | fail verdict left =>
      apply accountable.accountsForCalls_answered _ _ _ (closed rfl rfl)
      intro failure carries
      rw [verdict] at carries
      exact ⟨_, [], rfl, rfl, carries⟩
  | panic message => cases isFinished
  | suspend abandon closes => cases isFinished

/-- The events of a run that has finished end with the report of the chain, and its failure. -/
theorem Course.isBlockWith
    {visited : List String}
    {carried : κ}
    {entries : List (Entry σ ν ι)}
    {signals : List (Signal ν)}
    {result : Except Failure Outcome}
    {left : List σ}
    (course : chain.Course visited carried entries signals (.finished result left)) :
    IsBlockWith chain.phase (failure? result) (eventsIn signals) := by
  obtain ⟨passed, rest, front, back, final, rfl, rfl, passage, ending⟩ := course.split
  have passedEvents :
      eventsIn front =
        (passed.map fun entry =>
          MethodReport.finished chain.phase entry.middleware none).map .method := by
    rw [passage.eventsIn_eq, List.map_map]
    rfl
  rw [eventsIn_append, passedEvents]
  apply IsBlockWith.behind
  · intro method member
    obtain ⟨entry, _, rfl⟩ := List.mem_map.mp member
    rfl
  · cases ending with
    | conclude conclusion =>
        cases conclusion with
        | stated concluded left =>
            exact ⟨[], _, rfl, List.forall_mem_nil _, rfl, rfl⟩
        | transported concluded answer left =>
            exact ⟨[], _, rfl, List.forall_mem_nil _, rfl, rfl⟩
    | settle verdict left =>
        exact ⟨[_], _, rfl, List.forall_mem_singleton.mpr rfl, rfl, rfl⟩
    | fail verdict left =>
        exact ⟨[_], _, rfl, List.forall_mem_singleton.mpr rfl, rfl, rfl⟩

/-- A run that succeeds reports no failure. -/
theorem Course.unfailed_of_ok
    (accountable : chain.IsAccountable)
    {visited : List String}
    {carried : κ}
    {entries : List (Entry σ ν ι)}
    {signals : List (Signal ν)}
    {outcome : Outcome}
    {left : List σ}
    (course : chain.Course visited carried entries signals (.finished (.ok outcome) left)) :
    ∀ event ∈ eventsIn signals, event.failure? = none :=
  course.isBlockWith.unfailed (course.accountsForCalls accountable).reach

/-- A chain whose conclusion is a result comes to this result, and reports it. -/
theorem Conclusion.eq_of_done
    {visited : List String}
    {carried : κ}
    {result : Except Failure Outcome}
    (concludes : chain.conclude carried = .done result)
    {signals : List (Signal ν)}
    {standing : Standing σ (Signal ν) (Except Failure Outcome)}
    (conclusion : chain.Conclusion visited carried signals standing) :
    signals = [.event (chain.finishedRun visited result)] ∧
      ∃ left, standing = .finished result left := by
  cases conclusion with
  | stated concluded left =>
      cases concluded.symm.trans concludes
      exact ⟨rfl, left, rfl⟩
  | transported concluded answer left => cases concluded.symm.trans concludes
  | panicked concluded message => cases concluded.symm.trans concludes
  | suspended concluded abandon closes => cases concluded.symm.trans concludes

/-- A chain that calls the transport in conclusion comes to what the transport comes back with. -/
theorem Conclusion.eq_of_callTransport
    (state : σ)
    {visited : List String}
    {carried : κ}
    {transport : Transport σ ν}
    {request : Request}
    (concludes : chain.conclude carried = Downloader.callTransport transport request)
    {signals : List (Signal ν)}
    {result : Except Failure Outcome}
    {left : List σ}
    (conclusion : chain.Conclusion visited carried signals (.finished result left)) :
    ∃ answer,
      result = Downloader.transportResult answer ∧
        callsIn signals = [(.transport request, some (.ofTransport answer))] := by
  generalize isFinished : Standing.finished result left = standing at conclusion
  cases conclusion with
  | stated concluded left => cases concluded.symm.trans concludes
  | transported concluded answer left =>
      cases isFinished
      cases request_eq_of_callTransport_eq state (concluded.symm.trans concludes)
      exact ⟨answer, rfl, rfl⟩
  | panicked concluded message => cases isFinished
  | suspended concluded abandon closes => cases isFinished

/-- A run fails at a hook that causes the failure, or in its conclusion behind all hooks. -/
theorem Course.endsWithBlame_or_concludes
    (accountable : chain.IsAccountable)
    {carried : κ}
    {entries : List (Entry σ ν ι)}
    {signals : List (Signal ν)}
    {failure : Failure}
    {left : List σ}
    (course : chain.Course [] carried entries signals (.finished (.error failure) left)) :
    EndsWithBlame chain.phase signals failure ∨
      ∃ front back final,
        signals = front ++ back ∧
          chain.Passage carried entries front final ∧
          chain.Conclusion (entries.map (·.middleware)) final back
            (.finished (.error failure) left) := by
  obtain ⟨passed, rest, front, back, final, rfl, rfl, passage, ending⟩ := course.split
  cases ending with
  | conclude conclusion =>
      rw [List.append_nil]
      exact .inr ⟨front, back, final, rfl, passage, conclusion⟩
  | @fail entry rest answer failure verdict left =>
      left
      have blamed : blame? chain.phase entry.middleware (.ofAnswer answer) = some failure := by
        rw [← accountable.attributes, verdict]
        rfl
      have callsHook :
          (chain.callOf entry final).hook? = some (chain.phase, entry.middleware) :=
        accountable.announces ..
      let report : ChainReport :=
        .finished chain.phase (chain.finalSubject (.error failure))
          (([] ++ passed.map fun entry => entry.middleware) ++ [entry.middleware])
          (some failure)
      refine EndsWithBlame.behind passage.isOrderly.allBack ?_
      refine
        ⟨[], chain.callOf entry final, .ofAnswer answer, entry.middleware, [], report, rfl,
          callsHook, blamed, ?_, rfl, rfl⟩
      rw [eventsIn_answered, verdict]
      rfl

end Chain

end Middleware
