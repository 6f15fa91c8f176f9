import Middleware.Proofs.Chain.Calls
import Middleware.Proofs.Chain.Closing

namespace Middleware

/-!
# Passages and endings

A run of a chain passes some of its hooks, which let it proceed one after
another, and then it ends: at a hook that settles it, fails, panics or is
suspended, or in its conclusion when it has passed them all. What holds of all
hooks that are passed is shown once, and what is left to say of a run is said of
its ending.
-/

variable {σ ν ι κ : Type}

/-- An event that reports neither a drop nor a panic. -/
def Event.IsRegular : Event → Prop
  | .method report => report.cancelled = false ∧ report.panicked = false
  | .chain report => report.cancelled = false ∧ report.panicked = false

/-- Where all calls have come back, what follows does not change what they come back with. -/
theorem AllBack.callsIn_append
    {first : List (Signal ν)}
    (allBack : AllBack first)
    (second : List (Signal ν)) :
    callsIn (first ++ second) = callsIn first ++ callsIn second := by
  have replied :
      ∀ rest : List (Signal ν),
        (replyTo rest).isSome → replyTo (rest ++ second) = replyTo rest := by
    intro rest
    induction rest with
    | nil =>
        intro returned
        cases returned
    | cons signal rest inductionHypothesis =>
        intro returned
        cases signal with
        | returned value => rfl
        | call call => cases returned
        | event event => exact inductionHypothesis returned
        | note note => exact inductionHypothesis returned
        | log line => exact inductionHypothesis returned
  induction first with
  | nil =>
      rfl
  | cons signal rest inductionHypothesis =>
      cases signal with
      | call call =>
          have bothBack := List.forall_mem_cons.mp allBack
          have sameRest := inductionHypothesis bothBack.2
          simp only [List.cons_append, callsIn]
          rw [replied rest bothBack.1, sameRest]
      | returned value => exact inductionHypothesis allBack
      | event event => exact inductionHypothesis allBack
      | note note => exact inductionHypothesis allBack
      | log line => exact inductionHypothesis allBack

theorem AllBack.append
    {first second : List (Signal ν)}
    (firstBack : AllBack first)
    (secondBack : AllBack second) :
    AllBack (first ++ second) := by
  intro call member
  rw [firstBack.callsIn_append, List.mem_append] at member
  rcases member with inFirst | inSecond
  · exact firstBack call inFirst
  · exact secondBack call inSecond

/-- Signals are orderly if all calls have come back and no event reports a drop or a panic. -/
structure IsOrderly (signals : List (Signal ν)) : Prop where
  allBack : AllBack signals
  regular : ∀ event ∈ eventsIn signals, event.IsRegular

theorem IsOrderly.nil : IsOrderly ([] : List (Signal ν)) where
  allBack := List.forall_mem_nil _
  regular := List.forall_mem_nil _

theorem IsOrderly.append
    {first second : List (Signal ν)}
    (firstOrderly : IsOrderly first)
    (secondOrderly : IsOrderly second) :
    IsOrderly (first ++ second) := by
  constructor
  · exact firstOrderly.allBack.append secondOrderly.allBack
  · intro event member
    rw [eventsIn_append, List.mem_append] at member
    rcases member with inFirst | inSecond
    · exact firstOrderly.regular event inFirst
    · exact secondOrderly.regular event inSecond

namespace Chain

/--
What hooks show that are called one after another and all let the chain proceed,
from what it carries before them to what it carries after them.
-/
inductive Passage (chain : Chain σ ν ι κ) :
    κ →
    List (Entry σ ν ι) →
    List (Signal ν) →
    κ →
    Prop where
  | nil (carried : κ) :
      Passage chain carried [] [] carried
  | cons
      {carried next final : κ}
      {entry : Entry σ ν ι}
      {rest : List (Entry σ ν ι)}
      {answer : Answer}
      {signals : List (Signal ν)}
      (verdict : chain.verdict entry.middleware answer = .ok (.proceed next))
      (later : Passage chain next rest signals final) :
      Passage chain carried (entry :: rest)
        (chain.answered entry carried answer ++ signals)
        final

/-- What a run shows from the hook on that it does not pass, or from its conclusion on. -/
inductive Ending
    (chain : Chain σ ν ι κ)
    (visited : List String)
    (carried : κ) :
    List (Entry σ ν ι) →
    List (Signal ν) →
    Standing σ (Signal ν) (Except Failure Outcome) →
    Prop where
  | conclude
      {signals : List (Signal ν)}
      {standing : Standing σ (Signal ν) (Except Failure Outcome)}
      (conclusion : Conclusion chain visited carried signals standing) :
      Ending chain visited carried [] signals standing
  | settle
      {entry : Entry σ ν ι}
      {rest : List (Entry σ ν ι)}
      {answer : Answer}
      {outcome : Outcome}
      (verdict : chain.verdict entry.middleware answer = .ok (.settle outcome))
      (left : List σ) :
      Ending chain visited carried (entry :: rest)
        (chain.answered entry carried answer ++
          [.log (chain.settledLine entry.middleware outcome),
            .event (chain.finishedRun (visited ++ [entry.middleware]) (.ok outcome))])
        (.finished (.ok outcome) left)
  | fail
      {entry : Entry σ ν ι}
      {rest : List (Entry σ ν ι)}
      {answer : Answer}
      {failure : Failure}
      (verdict : chain.verdict entry.middleware answer = .error failure)
      (left : List σ) :
      Ending chain visited carried (entry :: rest)
        (chain.answered entry carried answer ++
          [.event (chain.finishedRun (visited ++ [entry.middleware]) (.error failure))])
        (.finished (.error failure) left)
  | panic
      {entry : Entry σ ν ι}
      {rest : List (Entry σ ν ι)}
      (message : String) :
      Ending chain visited carried (entry :: rest)
        [.call (chain.callOf entry carried),
          .event (chain.interruptedCall entry.middleware .panicked),
          .event (chain.interruptedRun (visited ++ [entry.middleware]) .panicked)]
        (.panicked message)
  | suspend
      {entry : Entry σ ν ι}
      {rest : List (Entry σ ν ι)}
      (abandon : Burst σ (Signal ν))
      (closes :
        ∀ state,
          outline (abandon state).1 =
            [.event (chain.interruptedCall entry.middleware .cancelled),
              .event (chain.interruptedRun (visited ++ [entry.middleware]) .cancelled)]) :
      Ending chain visited carried (entry :: rest)
        [.call (chain.callOf entry carried)]
        (.suspended abandon)

variable {chain : Chain σ ν ι κ}

/-- Every run passes some of its hooks and then ends. -/
theorem Course.split
    {visited : List String}
    {carried : κ}
    {entries : List (Entry σ ν ι)}
    {signals : List (Signal ν)}
    {standing : Standing σ (Signal ν) (Except Failure Outcome)}
    (course : chain.Course visited carried entries signals standing) :
    ∃ passed rest front back final,
      entries = passed ++ rest ∧
        signals = front ++ back ∧
        chain.Passage carried passed front final ∧
        chain.Ending (visited ++ passed.map (·.middleware)) final rest back standing := by
  have atOnce :
      ∀ {visited : List String} {carried : κ} {entries : List (Entry σ ν ι)}
        {signals : List (Signal ν)}
        {standing : Standing σ (Signal ν) (Except Failure Outcome)},
        chain.Ending visited carried entries signals standing →
          ∃ passed rest front back final,
            entries = passed ++ rest ∧
              signals = front ++ back ∧
              chain.Passage carried passed front final ∧
              chain.Ending (visited ++ passed.map (·.middleware)) final rest back standing := by
    intro visited carried entries signals standing ending
    refine ⟨[], entries, [], signals, carried, rfl, rfl, .nil carried, ?_⟩
    rwa [List.map_nil, List.append_nil]
  induction course with
  | conclude conclusion => exact atOnce (.conclude conclusion)
  | settle verdict left => exact atOnce (.settle verdict left)
  | fail verdict left => exact atOnce (.fail verdict left)
  | panic message => exact atOnce (.panic message)
  | suspend abandon closes => exact atOnce (.suspend abandon closes)
  | @proceed visited carried next entry _ answer _ _ verdict later inductionHypothesis =>
      obtain ⟨passed, rest, front, back, final, rfl, rfl, passage, ending⟩ := inductionHypothesis
      refine
        ⟨entry :: passed, rest, chain.answered entry carried answer ++ front, back, final,
          rfl, by rw [List.append_assoc], .cons verdict passage, ?_⟩
      simpa using ending

namespace Passage

variable {carried final : κ}
variable {passed : List (Entry σ ν ι)}
variable {signals : List (Signal ν)}

/-- The hooks that are passed are reported without failure, and as having finished. -/
theorem eventsIn_eq (passage : chain.Passage carried passed signals final) :
    eventsIn signals =
      passed.map fun entry => .method (.finished chain.phase entry.middleware none) := by
  induction passage with
  | nil carried =>
      rfl
  | cons verdict later inductionHypothesis =>
      rw [eventsIn_answered, inductionHypothesis, verdict]
      rfl

theorem isOrderly (passage : chain.Passage carried passed signals final) :
    IsOrderly signals := by
  constructor
  · induction passage with
    | nil carried =>
        exact List.forall_mem_nil _
    | cons verdict later inductionHypothesis =>
        rw [AllBack, callsIn_answered, List.forall_mem_cons]
        exact ⟨rfl, inductionHypothesis⟩
  · intro event member
    rw [passage.eventsIn_eq] at member
    obtain ⟨entry, _, rfl⟩ := List.mem_map.mp member
    exact ⟨rfl, rfl⟩

/--
Where a chain carries nothing and one answer alone lets it proceed, all hooks that
are passed get the same input and come back with this answer.
-/
theorem callsIn_eq
    {chain : Chain σ ν ι Unit}
    {value : Return}
    (proceedsOn : chain.ProceedsOn (· = some value))
    {carried final : Unit}
    (passage : chain.Passage carried passed signals final) :
    callsIn signals = passed.map fun entry => (chain.callOf entry (), some value) := by
  induction passage with
  | nil carried =>
      rfl
  | cons verdict later inductionHypothesis =>
      rw [callsIn_answered, inductionHypothesis, proceedsOn.passes verdict]
      rfl

end Passage

/-- A run that has finished is orderly. -/
theorem Course.isOrderly
    {visited : List String}
    {carried : κ}
    {entries : List (Entry σ ν ι)}
    {signals : List (Signal ν)}
    {result : Except Failure Outcome}
    {left : List σ}
    (course : chain.Course visited carried entries signals (.finished result left)) :
    IsOrderly signals := by
  constructor
  · exact course.allBack rfl
  · obtain ⟨passed, rest, front, back, final, rfl, rfl, passage, ending⟩ := course.split
    have frontRegular := passage.isOrderly.regular
    have backRegular : ∀ event ∈ eventsIn back, event.IsRegular := by
      cases ending with
      | conclude conclusion =>
          cases conclusion <;>
            simp [Event.IsRegular, finishedRun, ChainReport.finished]
      | settle verdict left =>
          rw [eventsIn_answered]
          simp [Event.IsRegular, MethodReport.finished, finishedRun, ChainReport.finished]
      | fail verdict left =>
          rw [eventsIn_answered]
          simp [Event.IsRegular, MethodReport.finished, finishedRun, ChainReport.finished]
    intro event member
    rw [eventsIn_append, List.mem_append] at member
    rcases member with inFront | inBack
    · exact frontRegular event inFront
    · exact backRegular event inBack

end Chain

end Middleware
