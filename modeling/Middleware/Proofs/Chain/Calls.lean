import Middleware.Proofs.Chain.Course

namespace Middleware

/-!
# The calls of a chain

A chain calls its hooks in their order for as long as each call comes back
with something that lets it proceed. It comes to its conclusion, and with it
possibly to a call of the transport, exactly when all hooks have been called
and all of them have let it proceed.
-/

variable {σ ν ι κ : Type}

/--
The calls of hooks of some middlewares in their order, up to the first call
that does not let the chain proceed. A call that does not come back does not.
-/
inductive IsCut
    (phase : Phase)
    (proceeds : Option Return → Prop) :
    List String →
    List (Call × Option Return) →
    Prop where
  | all :
      IsCut phase proceeds [] []
  | proceed
      {middleware : String}
      {rest : List String}
      {call : Call}
      {reply : Option Return}
      {later : List (Call × Option Return)}
      (callsHook : call.hook? = some (phase, middleware))
      (passes : proceeds reply)
      (goesOn : IsCut phase proceeds rest later) :
      IsCut phase proceeds (middleware :: rest) ((call, reply) :: later)
  | stop
      {middleware : String}
      {rest : List String}
      {call : Call}
      {reply : Option Return}
      (callsHook : call.hook? = some (phase, middleware))
      (stops : ¬ proceeds reply) :
      IsCut phase proceeds (middleware :: rest) [(call, reply)]

/-- All of some middlewares have been called, and all calls let the chain proceed. -/
def AllProceed
    (proceeds : Option Return → Prop)
    (middlewares : List String)
    (calls : List (Call × Option Return)) :
    Prop :=
  calls.length = middlewares.length ∧ ∀ call ∈ calls, proceeds call.2

theorem allProceed_cons
    (proceeds : Option Return → Prop)
    (middleware : String)
    (middlewares : List String)
    (call : Call × Option Return)
    (calls : List (Call × Option Return)) :
    AllProceed proceeds (middleware :: middlewares) (call :: calls) ↔
      proceeds call.2 ∧ AllProceed proceeds middlewares calls := by
  simp only [AllProceed, List.length_cons, Nat.add_right_cancel_iff, List.forall_mem_cons]
  constructor
  · rintro ⟨sameLength, passes, allPass⟩
    exact ⟨passes, sameLength, allPass⟩
  · rintro ⟨passes, sameLength, allPass⟩
    exact ⟨sameLength, passes, allPass⟩

namespace Chain

/-- What a call must come back with for a chain to proceed. -/
structure ProceedsOn
    (chain : Chain σ ν ι κ)
    (proceeds : Option Return → Prop) :
    Prop where
  needsReturn : ¬ proceeds none
  verdict_iff :
    ∀ middleware answer,
      proceeds (some (.ofAnswer answer)) ↔
        ∃ next, chain.verdict middleware answer = .ok (.proceed next)

/-- The request for which a chain calls the transport in conclusion, if it does. -/
def ConcludesBy
    (chain : Chain σ ν ι κ) :
    Option Request →
    Prop
  | none => ∀ carried, ∃ result, chain.conclude carried = .done result
  | some request =>
      ∀ carried, ∃ transport, chain.conclude carried = Downloader.callTransport transport request

/--
The calls of a chain: those of its hooks, up to the first that does not let it
proceed, and that of the transport if all of them do.
-/
def CallsInOrder
    (phase : Phase)
    (proceeds : Option Return → Prop)
    (transported : Option Request)
    (middlewares : List String)
    (calls : List (Call × Option Return)) :
    Prop :=
  ∃ hookCalls transportCalls,
    calls = hookCalls ++ transportCalls ∧
      IsCut phase proceeds middlewares hookCalls ∧
      (AllProceed proceeds middlewares hookCalls →
        transportCalls.map (·.1) = (transported.map Call.transport).toList) ∧
      (¬ AllProceed proceeds middlewares hookCalls → transportCalls = [])

variable {chain : Chain σ ν ι κ}

namespace ProceedsOn

variable {proceeds : Option Return → Prop}

theorem passes
    (proceedsOn : chain.ProceedsOn proceeds)
    {middleware : String}
    {answer : Answer}
    {next : κ}
    (verdict : chain.verdict middleware answer = .ok (.proceed next)) :
    proceeds (some (.ofAnswer answer)) :=
  (proceedsOn.verdict_iff middleware answer).mpr ⟨next, verdict⟩

theorem stops
    (proceedsOn : chain.ProceedsOn proceeds)
    {middleware : String}
    {answer : Answer}
    {result : Except Failure (Verdict κ)}
    (verdict : chain.verdict middleware answer = result)
    (different : ∀ next, result ≠ .ok (.proceed next)) :
    ¬ proceeds (some (.ofAnswer answer)) := by
  intro passes
  obtain ⟨next, proceeding⟩ := (proceedsOn.verdict_iff middleware answer).mp passes
  exact different next (verdict.symm.trans proceeding)

end ProceedsOn

namespace CallsInOrder

variable {phase : Phase}
variable {proceeds : Option Return → Prop}
variable {transported : Option Request}

theorem proceed
    {middleware : String}
    {rest : List String}
    {call : Call}
    {reply : Option Return}
    {later : List (Call × Option Return)}
    (callsHook : call.hook? = some (phase, middleware))
    (passes : proceeds reply)
    (goesOn : CallsInOrder phase proceeds transported rest later) :
    CallsInOrder phase proceeds transported (middleware :: rest) ((call, reply) :: later) := by
  obtain ⟨hookCalls, transportCalls, rfl, cut, whenAll, whenNotAll⟩ := goesOn
  refine ⟨(call, reply) :: hookCalls, transportCalls, rfl, .proceed callsHook passes cut, ?_, ?_⟩
  · intro all
    exact whenAll ((allProceed_cons ..).mp all).2
  · intro notAll
    exact whenNotAll fun all => notAll ((allProceed_cons ..).mpr ⟨passes, all⟩)

theorem stop
    {middleware : String}
    {rest : List String}
    {call : Call}
    {reply : Option Return}
    (callsHook : call.hook? = some (phase, middleware))
    (stops : ¬ proceeds reply) :
    CallsInOrder phase proceeds transported (middleware :: rest) [(call, reply)] := by
  refine ⟨[(call, reply)], [], rfl, .stop callsHook stops, ?_, fun _ => rfl⟩
  intro all
  exact (stops ((allProceed_cons ..).mp all).1).elim

/-- Without a call of the transport there are the calls of the hooks alone. -/
theorem isCut
    {middlewares : List String}
    {calls : List (Call × Option Return)}
    (inOrder : CallsInOrder phase proceeds none middlewares calls) :
    IsCut phase proceeds middlewares calls := by
  obtain ⟨hookCalls, transportCalls, rfl, cut, whenAll, whenNotAll⟩ := inOrder
  have noTransport : transportCalls = [] := by
    by_cases all : AllProceed proceeds middlewares hookCalls
    · exact List.map_eq_nil_iff.mp (whenAll all)
    · exact whenNotAll all
  simpa [noTransport] using cut

end CallsInOrder

/-- A call of the transport tells for which request it is made. -/
theorem request_eq_of_callTransport_eq
    (state : σ)
    {first second : Transport σ ν}
    {request other : Request}
    (same :
      Downloader.callTransport first request = Downloader.callTransport second other) :
    request = other := by
  injection same with sameWork
  have sameSignals := congrArg Prod.fst (congrFun sameWork state)
  simpa [Burst.signal] using sameSignals

/-- In conclusion a chain makes no call but that of the transport. -/
theorem Conclusion.callsIn_eq
    (state : σ)
    {transported : Option Request}
    (concludes : chain.ConcludesBy transported)
    {visited : List String}
    {carried : κ}
    {signals : List (Signal ν)}
    {standing : Standing σ (Signal ν) (Except Failure Outcome)}
    (conclusion : chain.Conclusion visited carried signals standing) :
    (callsIn signals).map (·.1) = (transported.map Call.transport).toList := by
  have unlike :
      ∀ {transport : Transport σ ν} {request result},
        Downloader.callTransport transport request ≠ .done result := by
    intro transport request result same
    cases same
  cases transported with
  | none =>
      obtain ⟨result, stated⟩ := concludes carried
      cases conclusion with
      | stated concluded left => rfl
      | transported concluded answer left => exact (unlike (concluded.symm.trans stated)).elim
      | panicked concluded message => exact (unlike (concluded.symm.trans stated)).elim
      | suspended concluded abandon closes => exact (unlike (concluded.symm.trans stated)).elim
  | some request =>
      obtain ⟨transport, called⟩ := concludes carried
      cases conclusion with
      | stated concluded left => exact (unlike (called.symm.trans concluded)).elim
      | transported concluded answer left =>
          cases request_eq_of_callTransport_eq state (called.symm.trans concluded)
          rfl
      | panicked concluded message =>
          cases request_eq_of_callTransport_eq state (called.symm.trans concluded)
          rfl
      | suspended concluded abandon closes =>
          cases request_eq_of_callTransport_eq state (called.symm.trans concluded)
          rfl

/-- No return goes from what was before a run of a chain to the run. -/
theorem Course.replyTo_eq
    {visited : List String}
    {carried : κ}
    {entries : List (Entry σ ν ι)}
    {signals : List (Signal ν)}
    {standing : Standing σ (Signal ν) (Except Failure Outcome)}
    (course : chain.Course visited carried entries signals standing) :
    replyTo signals = none := by
  cases course with
  | conclude conclusion => cases conclusion <;> rfl
  | proceed verdict later => rfl
  | settle verdict left => rfl
  | fail verdict left => rfl
  | panic message => rfl
  | suspend abandon closes => rfl

/-- From each hook on, a run of a chain makes its calls in order. -/
theorem Course.callsInOrder
    (state : σ)
    (wellFormed : chain.WellFormed)
    {proceeds : Option Return → Prop}
    (proceedsOn : chain.ProceedsOn proceeds)
    {transported : Option Request}
    (concludes : chain.ConcludesBy transported)
    {visited : List String}
    {carried : κ}
    {entries : List (Entry σ ν ι)}
    {signals : List (Signal ν)}
    {standing : Standing σ (Signal ν) (Except Failure Outcome)}
    (course : chain.Course visited carried entries signals standing) :
    CallsInOrder chain.phase proceeds transported
      (entries.map (·.middleware))
      (callsIn signals) := by
  have callsHook :
      ∀ (entry : Entry σ ν ι) (carried : κ),
        (chain.callOf entry carried).hook? = some (chain.phase, entry.middleware) := by
    intro entry carried
    exact wellFormed.announces ..
  induction course with
  | conclude conclusion =>
      have none : AllProceed proceeds [] [] :=
        ⟨rfl, List.forall_mem_nil _⟩
      exact
        ⟨[], _, rfl, .all,
          fun _ => conclusion.callsIn_eq state concludes,
          fun notAll => (notAll none).elim⟩
  | proceed verdict later inductionHypothesis =>
      rw [callsIn_answered]
      exact .proceed (callsHook _ _) (proceedsOn.passes verdict) inductionHypothesis
  | settle verdict left =>
      rw [callsIn_answered]
      exact .stop (callsHook _ _) (proceedsOn.stops verdict (by simp))
  | fail verdict left =>
      rw [callsIn_answered]
      exact .stop (callsHook _ _) (proceedsOn.stops verdict (by simp))
  | panic message =>
      exact .stop (callsHook _ _) proceedsOn.needsReturn
  | suspend abandon closes =>
      exact .stop (callsHook _ _) proceedsOn.needsReturn

end Chain

end Middleware
