import Middleware.Proofs.Chain.Closing

namespace Middleware

/-!
# The report of a run of a chain

Whatever way a run of a chain is left, all that is said of the run in its report,
apart from the middlewares that were visited, is determined by where the run stands:
whether it has come to a result, and to which, or was left by a panic or by a drop.
-/

variable {σ ν ι κ : Type}

/-- Whether a report is that of a chain that has come to an outcome. -/
def ChainReport.IsSuccess (report : ChainReport) : Prop :=
  report.failure = none ∧ report.cancelled = false ∧ report.panicked = false

/-- The report that an event hands over, if it is that of a run of a chain. -/
def Event.chain? : Event → Option ChainReport
  | .method _ => none
  | .chain report => some report

/-- The reports of runs of chains among signals. -/
def chainReportsIn (signals : List (Signal ν)) : List ChainReport :=
  (eventsIn signals).filterMap Event.chain?

@[simp] theorem chainReportsIn_append
    (first second : List (Signal ν)) :
    chainReportsIn (first ++ second) = chainReportsIn first ++ chainReportsIn second := by
  simp [chainReportsIn]

@[simp] theorem chainReportsIn_outline
    (signals : List (Signal ν)) :
    chainReportsIn (outline signals) = chainReportsIn signals := by
  simp [chainReportsIn]

theorem mem_chainReportsIn
    {report : ChainReport}
    {signals : List (Signal ν)} :
    report ∈ chainReportsIn signals ↔ .chain report ∈ eventsIn signals := by
  rw [chainReportsIn, List.mem_filterMap]
  constructor
  · rintro ⟨event, member, isReport⟩
    cases event with
    | method _ => cases isReport
    | chain _ =>
        cases isReport
        exact member
  · intro member
    exact ⟨.chain report, member, rfl⟩

namespace Chain

variable {chain : Chain σ ν ι κ}

/-- The report of a run that is left where it stands. -/
def reportAt
    (chain : Chain σ ν ι κ)
    (visited : List String) :
    Standing σ (Signal ν) (Except Failure Outcome) →
    ChainReport
  | .finished result _ =>
      .finished chain.phase (chain.finalSubject result) visited (failure? result)
  | .panicked _ => .interrupted chain.phase chain.subject visited .panicked
  | .suspended _ => .interrupted chain.phase chain.subject visited .cancelled

@[simp] theorem phase_reportAt
    (chain : Chain σ ν ι κ)
    (visited : List String)
    (standing : Standing σ (Signal ν) (Except Failure Outcome)) :
    (chain.reportAt visited standing).phase = chain.phase := by
  cases standing <;> rfl

/-- A hook call that comes back reports no run of a chain. -/
theorem chainReportsIn_answered
    (entry : Entry σ ν ι)
    (carried : κ)
    (answer : Answer)
    (rest : List (Signal ν)) :
    chainReportsIn (chain.answered entry carried answer ++ rest) = chainReportsIn rest :=
  rfl

/-- A run is reported at most once, and by where it stands. -/
theorem Course.chainReportsIn_sublist
    {visited : List String}
    {carried : κ}
    {entries : List (Entry σ ν ι)}
    {signals : List (Signal ν)}
    {standing : Standing σ (Signal ν) (Except Failure Outcome)}
    (course : chain.Course visited carried entries signals standing)
    (dropped : Option σ) :
    ∃ visitedThen,
      (chainReportsIn (signals ++ outline (standing.closing dropped))).Sublist
        [chain.reportAt visitedThen standing] := by
  induction course with
  | conclude conclusion =>
      cases conclusion with
      | stated concluded left => exact ⟨_, List.Sublist.refl _⟩
      | transported concluded answer left => exact ⟨_, List.Sublist.refl _⟩
      | panicked concluded message => exact ⟨_, List.Sublist.refl _⟩
      | suspended concluded abandon closes =>
          cases dropped with
          | none => exact ⟨[], List.nil_sublist _⟩
          | some state =>
              rw [Standing.closing, closes]
              exact ⟨_, List.Sublist.refl _⟩
  | proceed verdict later inductionHypothesis =>
      rw [List.append_assoc, chainReportsIn_answered]
      exact inductionHypothesis
  | settle verdict left => exact ⟨_, List.Sublist.refl _⟩
  | fail verdict left => exact ⟨_, List.Sublist.refl _⟩
  | panic message => exact ⟨_, List.Sublist.refl _⟩
  | suspend abandon closes =>
      cases dropped with
      | none => exact ⟨[], List.nil_sublist _⟩
      | some state =>
          rw [Standing.closing, closes]
          exact ⟨_, List.Sublist.refl _⟩

/-- What is said of a run in its report is said by where the run stands. -/
theorem Course.exists_eq_reportAt
    {visited : List String}
    {carried : κ}
    {entries : List (Entry σ ν ι)}
    {signals : List (Signal ν)}
    {standing : Standing σ (Signal ν) (Except Failure Outcome)}
    (course : chain.Course visited carried entries signals standing)
    (dropped : Option σ) :
    ∀ report ∈ chainReportsIn (signals ++ outline (standing.closing dropped)),
      ∃ visitedThen, report = chain.reportAt visitedThen standing := by
  intro report reported
  obtain ⟨visitedThen, atMost⟩ := course.chainReportsIn_sublist dropped
  exact ⟨visitedThen, List.mem_singleton.mp (atMost.subset reported)⟩

end Chain

end Middleware
