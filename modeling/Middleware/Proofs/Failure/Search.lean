import Middleware.Proofs.Failure.Rethrow

namespace Middleware

/-!
# Looking for an error in a failure

An error leads on from one element to the next until the chain ends: a wrapping
error to its inner error, a system fault with an inner error to what that leads on
to, and a failure to a shared handle of what it wraps. To look for an error of a
class is to follow this chain from the error that a hook or the transport has
raised, and to stop at the first element of the class. Handles are of no class.
-/

namespace Source

/-- The cause that an element of a source chain is, or that it shares. -/
def cause : Source → Cause
  | .direct cause => cause
  | .shared cause => cause

/-- The cause that an element is, if it is of a class; a handle is of none. -/
def ofClass?
    (wanted : CauseClass) :
    Source →
    Option Cause
  | .direct cause => if cause.isOfClass wanted then some cause else none
  | .shared _ => none

end Source

mutual

/-- The element that a cause leads on to, if it leads on. -/
def Cause.next? : Cause → Option Source
  | .text _ => none
  | .timeout => none
  | .wrapped _ inner => some (.direct inner)
  | .system fault => fault.next?
  | .nested failure => failure.next?

/-- The element that a system fault leads on to: the one that its inner error leads on to. -/
def SystemFault.next? : SystemFault → Option Source
  | .plain _ => none
  | .custom _ inner => inner.next?

/-- The element that a failure leads on to: a handle of what it wraps. -/
def Failure.next? : Failure → Option Source
  | .replyMismatch _ _ _ _ => none
  | .invalidState _ => none
  | .hook _ _ source => some (.shared source)
  | .transport source => some (.shared source)
  | .configuration _ => none
  | .runtime source => some (.shared (.system source))

end

mutual

/-- Whether a cause is a failure, or has one in it at any depth. -/
def Cause.holdsFailure : Cause → Bool
  | .text _ => false
  | .timeout => false
  | .wrapped _ inner => inner.holdsFailure
  | .system fault => fault.holdsFailure
  | .nested _ => true

/-- Whether a system fault has a failure in it at any depth. -/
def SystemFault.holdsFailure : SystemFault → Bool
  | .plain _ => false
  | .custom _ inner => inner.holdsFailure

end

namespace Source

/-- The elements that are met when a chain is followed from an element to its end. -/
inductive LeadsThrough : Source → List Source → Prop where
  | ends
      {source : Source}
      (last : source.cause.next? = none) :
      LeadsThrough source [source]
  | continues
      {source below : Source}
      {later : List Source}
      (next : source.cause.next? = some below)
      (rest : LeadsThrough below later) :
      LeadsThrough source (source :: later)

/-- There is one way only to follow a chain. -/
theorem LeadsThrough.unique
    {source : Source}
    {chain other : List Source}
    (follows : source.LeadsThrough chain)
    (followsOther : source.LeadsThrough other) :
    chain = other := by
  induction follows generalizing other with
  | ends last =>
      cases followsOther with
      | ends _ => rfl
      | continues next _ => cases last.symm.trans next
  | continues next _ inductionHypothesis =>
      cases followsOther with
      | ends last => cases last.symm.trans next
      | continues nextOther rest =>
          cases next.symm.trans nextOther
          rw [inductionHypothesis rest]

/-- An element and all elements below it, if there is one. -/
def withSources : Option Source → List Source
  | none => []
  | some source => source :: source.cause.sources

end Source

mutual

/-- The elements below a cause are the one that it leads on to, and those below that. -/
theorem Cause.sources_eq_withSources
    (cause : Cause) :
    cause.sources = Source.withSources cause.next? := by
  match cause with
  | .text _ => rfl
  | .timeout => rfl
  | .wrapped _ _ => rfl
  | .system fault => exact fault.sources_eq_withSources
  | .nested failure => exact failure.sources_eq_withSources

theorem SystemFault.sources_eq_withSources
    (fault : SystemFault) :
    fault.sources = Source.withSources fault.next? := by
  match fault with
  | .plain _ => rfl
  | .custom _ inner => exact inner.sources_eq_withSources

theorem Failure.sources_eq_withSources
    (failure : Failure) :
    failure.sources = Source.withSources failure.next? := by
  cases failure <;> rfl

end

/-- The chain from an element is the element and its sources; in particular it has an end. -/
theorem Source.leadsThrough_iff
    {source : Source}
    {chain : List Source} :
    source.LeadsThrough chain ↔ chain = source :: source.cause.sources := by
  have follows : source.LeadsThrough (source :: source.cause.sources) := by
    -- The sources of the next element are the rest of the list, which is what shrinks.
    generalize below : source.cause.sources = later
    rw [Cause.sources_eq_withSources] at below
    induction later generalizing source with
    | nil =>
        cases next : source.cause.next? with
        | none => exact .ends next
        | some first => simp [next, withSources] at below
    | cons head rest inductionHypothesis =>
        cases next : source.cause.next? with
        | none => simp [next, withSources] at below
        | some first =>
            rw [next] at below
            obtain ⟨rfl, sameRest⟩ := List.cons.inj below
            rw [Cause.sources_eq_withSources] at sameRest
            exact .continues next (inductionHypothesis sameRest)
  constructor
  · exact fun other => other.unique follows
  · rintro rfl
    exact follows

/-- To look for a cause is to look at the cause itself, and then at its sources. -/
theorem Cause.find?_eq_findSome?
    {cause : Cause}
    {wanted : CauseClass}
    (below : cause.findBelow? wanted = cause.sources.findSome? (Source.ofClass? wanted)) :
    cause.find? wanted =
      (.direct cause :: cause.sources).findSome? (Source.ofClass? wanted) := by
  cases ofClass : cause.isOfClass wanted with
  | true => simp [Source.ofClass?, ofClass, find?_of_isOfClass ofClass]
  | false => simp [Source.ofClass?, ofClass, find?_of_not_isOfClass ofClass, below]

mutual

/-- What is found below a cause is the first element of the class among its sources. -/
theorem Cause.findBelow?_eq_findSome?
    (cause : Cause)
    (wanted : CauseClass) :
    cause.findBelow? wanted = cause.sources.findSome? (Source.ofClass? wanted) := by
  match cause with
  | .text _ => rfl
  | .timeout => rfl
  | .wrapped text inner =>
      exact Cause.find?_eq_findSome? (inner.findBelow?_eq_findSome? wanted)
  | .system fault => exact fault.findBelow?_eq_findSome? wanted
  | .nested failure => exact failure.findBelow?_eq_findSome? wanted

theorem SystemFault.findBelow?_eq_findSome?
    (fault : SystemFault)
    (wanted : CauseClass) :
    fault.findBelow? wanted = fault.sources.findSome? (Source.ofClass? wanted) := by
  match fault with
  | .plain _ => rfl
  | .custom _ inner => exact inner.findBelow?_eq_findSome? wanted

theorem Failure.findBelow?_eq_findSome?
    (failure : Failure)
    (wanted : CauseClass) :
    failure.findBelow? wanted = failure.sources.findSome? (Source.ofClass? wanted) := by
  match failure with
  | .replyMismatch _ _ _ _ => rfl
  | .invalidState _ => rfl
  | .hook _ _ source => exact source.findBelow?_eq_findSome? wanted
  | .transport source => exact source.findBelow?_eq_findSome? wanted
  | .configuration _ => rfl
  | .runtime source => exact source.findBelow?_eq_findSome? wanted

end

/-- A cause that no failure is in is not a failure. -/
theorem Cause.isOfClass_nested_eq_false
    {cause : Cause}
    (free : cause.holdsFailure = false) :
    cause.isOfClass .nested = false := by
  cases cause <;> first | rfl | cases free

mutual

/-- Below a cause that no failure is in, there are no handles and no failures. -/
theorem Cause.exists_direct_of_mem_sources
    {cause : Cause}
    (free : cause.holdsFailure = false) :
    ∀ element ∈ cause.sources,
      ∃ below, element = .direct below ∧ below.isOfClass .nested = false := by
  match cause with
  | .text _ => exact List.forall_mem_nil _
  | .timeout => exact List.forall_mem_nil _
  | .wrapped _ inner =>
      have innerFree : inner.holdsFailure = false := free
      refine List.forall_mem_cons.mpr ⟨?_, Cause.exists_direct_of_mem_sources innerFree⟩
      exact ⟨inner, rfl, Cause.isOfClass_nested_eq_false innerFree⟩
  | .system fault => exact SystemFault.exists_direct_of_mem_sources free
  | .nested _ => cases free

theorem SystemFault.exists_direct_of_mem_sources
    {fault : SystemFault}
    (free : fault.holdsFailure = false) :
    ∀ element ∈ fault.sources,
      ∃ below, element = .direct below ∧ below.isOfClass .nested = false := by
  match fault with
  | .plain _ => exact List.forall_mem_nil _
  | .custom _ inner => exact Cause.exists_direct_of_mem_sources free

end

/--
A cause is the outermost one of a class in a chain, behind the elements given: it is
of the class, and none of the elements before it is.
-/
structure Source.IsOutermost
    (wanted : CauseClass)
    (chain outer : List Source)
    (found : Cause) :
    Prop where
  stands : ∃ deeper, chain = outer ++ .direct found :: deeper
  ofClass : found.isOfClass wanted = true
  noneBefore : ∀ before, .direct before ∈ outer → before.isOfClass wanted = false

/-- A cause shows as one of a class exactly where it is an element itself and of the class. -/
theorem Source.ofClass?_eq_some_iff
    {wanted : CauseClass}
    {source : Source}
    {found : Cause} :
    source.ofClass? wanted = some found ↔
      source = .direct found ∧ found.isOfClass wanted = true := by
  cases source with
  | direct cause =>
      simp only [ofClass?, Option.ite_none_right_eq_some, Option.some.injEq, Source.direct.injEq]
      constructor
      · rintro ⟨ofClass, rfl⟩
        exact ⟨rfl, ofClass⟩
      · rintro ⟨rfl, ofClass⟩
        exact ⟨ofClass, rfl⟩
  | shared cause => simp [ofClass?]

theorem Source.ofClass?_eq_none_iff
    {wanted : CauseClass}
    {source : Source} :
    source.ofClass? wanted = none ↔
      ∀ cause, source = .direct cause → cause.isOfClass wanted = false := by
  cases source <;> simp [ofClass?]

theorem Source.findSome?_ofClass?_eq_some_iff
    {wanted : CauseClass}
    {chain : List Source}
    {found : Cause} :
    chain.findSome? (Source.ofClass? wanted) = some found ↔
      ∃ outer, Source.IsOutermost wanted chain outer found := by
  rw [List.findSome?_eq_some_iff]
  constructor
  · rintro ⟨outer, element, deeper, shape, isFound, before⟩
    obtain ⟨rfl, ofClass⟩ := ofClass?_eq_some_iff.mp isFound
    refine ⟨outer, ⟨deeper, shape⟩, ofClass, ?_⟩
    intro cause member
    exact ofClass?_eq_none_iff.mp (before _ member) cause rfl
  · rintro ⟨outer, ⟨deeper, shape⟩, ofClass, noneBefore⟩
    refine ⟨outer, .direct found, deeper, shape, ofClass?_eq_some_iff.mpr ⟨rfl, ofClass⟩, ?_⟩
    intro element member
    refine ofClass?_eq_none_iff.mpr ?_
    rintro cause rfl
    exact noneBefore cause member

namespace Failure

variable {failure : Failure} {raised : Cause}

/-- A failure that wraps an error leads on to a handle of it. -/
theorem next?_of_raised? (raises : failure.raised? = some raised) :
    failure.next? = some (.shared raised) := by
  cases failure <;> cases raises <;> rfl

/-- What a failure finds is the first of the class among the error that it wraps and its sources. -/
theorem find?_eq_findSome?_of_raised?
    (raises : failure.raised? = some raised)
    (wanted : CauseClass) :
    failure.find? wanted =
      (.direct raised :: raised.sources).findSome? (Source.ofClass? wanted) := by
  have finds := find?_eq_bind failure wanted
  rw [raises] at finds
  exact finds.trans (Cause.find?_eq_findSome? (raised.findBelow?_eq_findSome? wanted))

/--
A failure finds the outermost element of a class in the chain of the error that it
wraps. It displays the chain of a handle of this error, which has the same texts in
the same order, so the text of what is found stands there in the same place. If no
failure is in the error, its chain has neither handles nor failures.
-/
structure FollowsChain
    (failure : Failure)
    (raised : Cause)
    (chain displayed : List Source) :
    Prop where
  leads : ∀ other, (Source.direct raised).LeadsThrough other ↔ other = chain
  finds :
    ∀ wanted found,
      failure.find? wanted = some found ↔
        ∃ outer, Source.IsOutermost wanted chain outer found
  leadsOn : failure.next? = some (.shared raised)
  leadsDisplayed : ∀ other, (Source.shared raised).LeadsThrough other ↔ other = displayed
  displays : failure.sources = displayed
  sameTexts : displayed.map Source.message = chain.map Source.message
  textFound :
    ∀ wanted outer found,
      Source.IsOutermost wanted chain outer found →
        (displayed.map Source.message)[outer.length]? = some found.message
  allDirect :
    raised.holdsFailure = false →
      ∀ element ∈ chain,
        ∃ cause, element = .direct cause ∧ cause.isOfClass .nested = false

theorem followsChain (raises : failure.raised? = some raised) :
    failure.FollowsChain raised
      (.direct raised :: raised.sources)
      (.shared raised :: raised.sources) where
  leads _ := Source.leadsThrough_iff
  finds wanted found := by
    rw [find?_eq_findSome?_of_raised? raises]
    exact Source.findSome?_ofClass?_eq_some_iff
  leadsOn := next?_of_raised? raises
  leadsDisplayed _ := Source.leadsThrough_iff
  displays := by
    rw [failure.sources_eq_withSources, next?_of_raised? raises]
    rfl
  sameTexts := rfl
  textFound := by
    rintro wanted outer found ⟨⟨deeper, shape⟩, _, _⟩
    change ((Source.direct raised :: raised.sources).map Source.message)[outer.length]? = _
    rw [shape]
    simp [Source.message]
  allDirect := by
    intro free
    refine List.forall_mem_cons.mpr ⟨?_, Cause.exists_direct_of_mem_sources free⟩
    exact ⟨raised, rfl, Cause.isOfClass_nested_eq_false free⟩

/--
A failure that wraps an error of a hook or of the transport follows the chain of this
error, which has an end; every other failure finds nothing.
-/
theorem find?_follows_chain (failure : Failure) :
    (failure.raised? = none → ∀ wanted, failure.find? wanted = none) ∧
      ∀ raised,
        failure.raised? = some raised →
          ∃ chain displayed, failure.FollowsChain raised chain displayed := by
  constructor
  · intro wrapsNothing wanted
    rw [find?_eq_bind, wrapsNothing]
    rfl
  · intro raised raises
    exact ⟨_, _, followsChain raises⟩

/--
The transport raises an error that wraps a system fault, whose inner error wraps a
timeout. A hook raises the failure again. The outer of the two wrapping errors is
behind a handle, and the fault leads past the inner one: neither is found.
-/
theorem find?_follows_chain_past_wrapped :
    let fault : SystemFault := .custom .connectionReset (.wrapped "tls" .timeout)
    let raised : Cause := .nested (.transport (.wrapped "proxy" (.system fault)))
    let failure : Failure := .hook "Retry" .exception raised
    let outer : List Source :=
      [.direct raised, .shared (.wrapped "proxy" (.system fault)), .direct (.system fault)]
    failure.raised? = some raised ∧
      (Failure.runtime fault).raised? = none ∧
      (Failure.runtime fault).find? .timeout = none ∧
      (Source.direct raised).LeadsThrough (outer ++ [.direct .timeout]) ∧
      failure.find? .timeout = some .timeout ∧
      failure.find? .wrapped = none ∧
      (failure.sources.map Source.message)[outer.length]? = some "timed out" := by
  intro fault raised failure outer
  obtain ⟨chain, displayed, follows⟩ := (find?_follows_chain failure).2 raised rfl
  have leads : (Source.direct raised).LeadsThrough (outer ++ [.direct .timeout]) :=
    Source.leadsThrough_iff.mpr rfl
  obtain rfl := (follows.leads _).mp leads
  have outermost :
      Source.IsOutermost .timeout (outer ++ [.direct .timeout]) outer .timeout := by
    refine ⟨⟨[], rfl⟩, rfl, ?_⟩
    simp [outer, raised, Cause.isOfClass]
  refine
    ⟨rfl, rfl, (find?_follows_chain (.runtime fault)).1 rfl .timeout, leads,
      (follows.finds _ _).mpr ⟨outer, outermost⟩, rfl, ?_⟩
  rw [follows.displays]
  exact follows.textFound _ outer _ outermost

end Failure

end Middleware
