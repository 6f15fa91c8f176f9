import Middleware.Failure.Source

namespace Middleware

/-!
# Failures that are raised again

A hook or a transport may raise a failure that it was handed, which wraps this
failure into another one. What such a failure finds is what the first one finds
below the error that it wraps: that error is behind a shared handle and is passed
over, though everything that it wraps is still found. Raising the failure once
more hides nothing else.
-/

/-- A cause that is of a class is the first of this class. -/
theorem Cause.find?_of_isOfClass
    {cause : Cause}
    {wanted : CauseClass}
    (ofClass : cause.isOfClass wanted = true) :
    cause.find? wanted = some cause := by
  cases cause <;> cases wanted <;> first | rfl | cases ofClass

/-- Behind a cause that is not of a class the search goes on. -/
theorem Cause.find?_of_not_isOfClass
    {cause : Cause}
    {wanted : CauseClass}
    (notOfClass : cause.isOfClass wanted = false) :
    cause.find? wanted = cause.findBelow? wanted := by
  cases cause <;> cases wanted <;> first | rfl | cases notOfClass

namespace Failure

variable {failure later : Failure}

/-- The error that a hook or the transport has raised, as the failure wraps it. -/
def raised? : Failure → Option Cause
  | .hook _ _ source => some source
  | .transport source => some source
  | .replyMismatch _ _ _ _ | .invalidState _ | .configuration _ | .runtime _ => none

/-- A hook or the transport has raised the failure again, once or more often. -/
inductive IsRethrownAs (failure : Failure) : Failure → Prop where
  | once
      {later : Failure}
      (raises : later.raised? = some (.nested failure)) :
      IsRethrownAs failure later
  | again
      {between later : Failure}
      (before : IsRethrownAs failure between)
      (raises : later.raised? = some (.nested between)) :
      IsRethrownAs failure later

/--
What a later failure finds as against an earlier one, for every class but that of
failures: what the earlier one finds below the error that it wraps. If this error is
of the class, the earlier failure finds it, and the later one does not; otherwise
both find the same.
-/
def HidesRaised (failure later : Failure) : Prop :=
  ∀ wanted : CauseClass,
    wanted ≠ .nested →
      later.find? wanted = failure.findBelow? wanted ∧
        ∀ raised,
          failure.raised? = some raised →
            (raised.isOfClass wanted = true →
                failure.find? wanted = some raised ∧
                  later.find? wanted = raised.findBelow? wanted) ∧
              (raised.isOfClass wanted = false →
                later.find? wanted = failure.find? wanted)

/-- A failure finds what the error finds that it wraps. -/
theorem find?_eq_bind
    (failure : Failure)
    (wanted : CauseClass) :
    failure.find? wanted = failure.raised?.bind fun raised => raised.find? wanted := by
  cases failure <;> rfl

theorem findBelow?_of_raised?
    {raised : Cause}
    (raises : failure.raised? = some raised)
    (wanted : CauseClass) :
    failure.findBelow? wanted = raised.findBelow? wanted := by
  cases failure <;> cases raises <;> rfl

theorem find?_of_raised?_nested
    (raises : later.raised? = some (.nested failure))
    {wanted : CauseClass}
    (notNested : wanted ≠ .nested) :
    later.find? wanted = failure.findBelow? wanted := by
  rw [find?_eq_bind, raises]
  exact if_neg notNested

/-- Below the error that it wraps, a failure finds the same as before it was raised again. -/
theorem IsRethrownAs.findBelow?_eq
    (rethrown : failure.IsRethrownAs later)
    (wanted : CauseClass) :
    later.findBelow? wanted = failure.findBelow? wanted := by
  induction rethrown with
  | once raises => exact findBelow?_of_raised? raises wanted
  | again before raises inductionHypothesis =>
      exact (findBelow?_of_raised? raises wanted).trans inductionHypothesis

/-- What a failure finds that was raised again is what was below the error that it wrapped. -/
theorem IsRethrownAs.find?_eq
    (rethrown : failure.IsRethrownAs later)
    {wanted : CauseClass}
    (notNested : wanted ≠ .nested) :
    later.find? wanted = failure.findBelow? wanted := by
  cases rethrown with
  | once raises => exact find?_of_raised?_nested raises notNested
  | again before raises =>
      rw [find?_of_raised?_nested raises notNested, before.findBelow?_eq]

/-- However often a failure is raised again, the error that it wraps is hidden, and nothing else. -/
theorem IsRethrownAs.hidesRaised (rethrown : failure.IsRethrownAs later) :
    failure.HidesRaised later := by
  intro wanted notNested
  have below := rethrown.find?_eq notNested
  refine ⟨below, ?_⟩
  intro raised raises
  have finds : failure.find? wanted = raised.find? wanted := by
    rw [find?_eq_bind, raises]
    rfl
  rw [findBelow?_of_raised? raises] at below
  constructor
  · intro ofClass
    exact ⟨finds.trans (Cause.find?_of_isOfClass ofClass), below⟩
  · intro notOfClass
    rw [below, finds, Cause.find?_of_not_isOfClass notOfClass]

end Failure

end Middleware
