import Middleware.Toml.Scanner

namespace Middleware.Toml

/-!
# What scanners read

A scanner yields values of a kind if all that it ever reads, from whatever text, are
values of that kind. Each way to put scanners together passes this on.
-/

namespace Scanner

variable {α β : Type}
variable {holds : α → Prop}
variable {holdsThen : β → Prop}

/-- Whatever a scanner reads has a property. -/
def Yields
    (scanner : Scanner α)
    (holds : α → Prop) :
    Prop :=
  ∀ input value rest, scanner input = some (value, rest) → holds value

/-- Of what a scanner reads nothing need be known. -/
theorem yields_true (scanner : Scanner α) : scanner.Yields fun _ => True :=
  fun _ _ _ _ => trivial

theorem yields_pure
    {value : α}
    (valueHolds : holds value) :
    (pure value : Scanner α).Yields holds := by
  intro input read rest reads
  cases reads
  exact valueHolds

theorem yields_failure : (failure : Scanner α).Yields holds := by
  intro input read rest reads
  cases reads

namespace Yields

variable {scanner : Scanner α}

theorem mono
    {weaker : α → Prop}
    (yields : scanner.Yields holds)
    (implies : ∀ value, holds value → weaker value) :
    scanner.Yields weaker :=
  fun input value rest reads => implies value (yields input value rest reads)

theorem bind
    (yields : scanner.Yields holds)
    {next : α → Scanner β}
    (yieldsThen : ∀ value, holds value → (next value).Yields holdsThen) :
    (scanner >>= next).Yields holdsThen := by
  intro input value rest reads
  obtain ⟨⟨first, left⟩, readsFirst, readsThen⟩ := Option.bind_eq_some_iff.mp reads
  exact yieldsThen first (yields _ _ _ readsFirst) _ _ _ readsThen

theorem map
    {apply : α → β}
    (yields : scanner.Yields fun value => holdsThen (apply value)) :
    (apply <$> scanner).Yields holdsThen := by
  intro input value rest reads
  obtain ⟨⟨first, left⟩, readsFirst, same⟩ := Option.bind_eq_some_iff.mp reads
  cases same
  exact yields _ _ _ readsFirst

theorem orElse
    {other : Scanner α}
    (yields : scanner.Yields holds)
    (otherYields : other.Yields holds) :
    (scanner <|> other).Yields holds := by
  intro input value rest reads
  change (scanner input).orElse (fun _ => other input) = some (value, rest) at reads
  cases readsFirst : scanner input with
  | some read =>
      rw [readsFirst] at reads
      exact yields input value rest (readsFirst.trans reads)
  | none =>
      rw [readsFirst] at reads
      exact otherYields input value rest reads

/-- After a scanner whose reading is dropped. -/
theorem after
    {other : Scanner β}
    (yields : scanner.Yields holds) :
    (other *> scanner).Yields holds :=
  bind other.yields_true fun _ _ => yields

/-- Before a scanner whose reading is dropped. -/
theorem before
    {other : Scanner β}
    (yields : scanner.Yields holds) :
    (scanner <* other).Yields holds :=
  bind yields fun _ valueHolds => bind other.yields_true fun _ _ => yields_pure valueHolds

theorem attempt (yields : scanner.Yields holds) :
    scanner.attempt.Yields fun read => ∀ value ∈ read, holds value := by
  refine orElse (map (yields.mono ?_)) (yields_pure ?_)
  · rintro value valueHolds _ ⟨⟩
    exact valueHolds
  · intro value absent
    cases absent

theorem repeatFrom
    (yields : scanner.Yields holds)
    (input : List Char) :
    ∀ value ∈ (repeatFrom scanner input).1, holds value := by
  fun_induction Scanner.repeatFrom scanner input with
  | case1 input refused => exact List.forall_mem_nil _
  | case2 input value rest reads shorter values left repeated inductionHypothesis =>
      rw [repeated] at inductionHypothesis
      exact List.forall_mem_cons.mpr ⟨yields _ _ _ reads, inductionHypothesis⟩
  | case3 input value rest reads notShorter => exact List.forall_mem_nil _

theorem many (yields : scanner.Yields holds) :
    (many scanner).Yields fun values => ∀ value ∈ values, holds value := by
  intro input values rest reads
  have same := Option.some.inj reads
  have each := yields.repeatFrom input
  rw [same] at each
  exact each

theorem separated
    {separator : Scanner β}
    (yields : scanner.Yields holds) :
    (separated scanner separator).Yields fun values => ∀ value ∈ values, holds value :=
  bind yields fun _ firstHolds =>
    bind yields.after.many fun _ restHolds =>
      yields_pure (List.forall_mem_cons.mpr ⟨firstHolds, restHolds⟩)

/-- A test that is passed holds of what is read. -/
theorem passing
    (scanner : Scanner α)
    (test : α → Bool) :
    (passing scanner test).Yields fun value => test value := by
  refine bind scanner.yields_true fun value _ => ?_
  by_cases passes : test value
  · rw [if_pos passes]
    exact yields_pure passes
  · rw [if_neg passes]
    exact yields_failure

end Yields

end Scanner

end Middleware.Toml
