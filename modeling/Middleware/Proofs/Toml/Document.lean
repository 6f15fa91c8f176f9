import Middleware.Proofs.Toml.WellFormed

namespace Middleware.Toml

/-!
# Every document that is read is well formed

What is read of a text, from single values up to the whole document, has each key once
in each of its tables, and integers that fit in 64 bits with sign.
-/

open Scanner

/-- What each of some steps keeps, all of them keep one after another. -/
theorem holds_of_foldlM_eq_some
    {α β : Type}
    {holds : β → Prop}
    {step : β → α → Option β}
    {steps : List α}
    (keeps :
      ∀ read ∈ steps, ∀ before, holds before → ∀ after, step before read = some after → holds after)
    {start built : β}
    (startHolds : holds start)
    (builds : steps.foldlM step start = some built) :
    holds built := by
  induction steps generalizing start with
  | nil =>
      cases builds
      exact startHolds
  | cons read rest inductionHypothesis =>
      obtain ⟨keepsFirst, keepsRest⟩ := List.forall_mem_cons.mp keeps
      rw [List.foldlM_cons] at builds
      obtain ⟨middle, steps, buildsRest⟩ := Option.bind_eq_some_iff.mp builds
      exact inductionHypothesis keepsRest (keepsFirst start startHolds middle steps) buildsRest

theorem yields_truth : truth.Yields Value.WellFormed :=
  .orElse
    (.bind (yields_true _) fun _ _ => yields_pure (.boolean true))
    (.bind (yields_true _) fun _ _ => yields_pure (.boolean false))

theorem yields_moment : moment.Yields Value.WellFormed :=
  .bind (yields_true _) fun _ _ => yields_pure (.moment _)

theorem yields_float : float.Yields Value.WellFormed :=
  .bind (yields_true _) fun _ _ => yields_pure (.float _)

/-- Integers that do not fit are refused. -/
theorem yields_integer : integer.Yields Value.WellFormed :=
  .map ((Yields.passing _ fits).mono fun _ fitting => .integer fitting)

theorem yields_scalar : scalar.Yields Value.WellFormed := by
  have texts : (Value.text <$> text).Yields Value.WellFormed :=
    .map ((yields_true text).mono fun value _ => .text value)
  exact
    texts.orElse (yields_truth.orElse (yields_moment.orElse (yields_float.orElse yields_integer)))

section Parts

variable {element : Scanner Value}

theorem yields_array (elements : element.Yields Value.WellFormed) :
    (array element).Yields Value.WellFormed := by
  have listed :
      (do let read ← separated (spread *> element <* spread) (char ',')
          let _ ← attempt (char ',')
          return read : Scanner (List Value)).Yields fun values =>
        ∀ value ∈ values, value.WellFormed :=
    .bind elements.after.before.separated fun _ each =>
      .bind (yields_true _) fun _ _ => yields_pure each
  refine .bind (yields_true _) fun _ _ => .bind listed.attempt fun read each => ?_
  refine .bind (yields_true _) fun _ _ => .bind (yields_true _) fun _ _ => yields_pure ?_
  cases read with
  | none => exact .array (List.forall_mem_nil _)
  | some values => exact .array (each values rfl)

theorem yields_assignment (values : element.Yields Value.WellFormed) :
    (assignment element).Yields fun read => read.2.WellFormed :=
  .bind (yields_true _) fun _ _ => .bind (yields_true _) fun _ _ =>
    .bind (yields_true _) fun _ _ => .bind values fun _ wellFormed => yields_pure wellFormed

theorem yields_inlineTable (values : element.Yields Value.WellFormed) :
    (inlineTable element).Yields Value.WellFormed := by
  have listed :
      (separated (assignment element <* blanks) (char ',')).Yields fun values =>
        ∀ read ∈ values, read.2.WellFormed :=
    (yields_assignment values).before.separated
  refine .bind (yields_true _) fun _ _ => .bind listed.attempt fun read each => ?_
  refine .bind (yields_true _) fun _ _ => .bind (yields_true _) fun _ _ => ?_
  dsimp only
  split
  · rename_i table builds
    refine yields_pure (Section.WellFormed.toEntries ?_)
    refine holds_of_foldlM_eq_some ?_ (Section.WellFormed.empty false false) builds
    intro assigned member
    cases read with
    | none => cases member
    | some read => exact Section.keepsWellFormed_assign _ _ (each read rfl assigned member)
  · exact yields_failure

end Parts

/-- At whatever depth values may nest, those that are read are well formed. -/
theorem yields_value (depth : Nat) : (value depth).Yields Value.WellFormed := by
  induction depth with
  | zero => exact yields_scalar
  | succ depth inductionHypothesis =>
      exact
        (yields_array inductionHypothesis).orElse
          ((yields_inlineTable inductionHypothesis).orElse yields_scalar)

/-- A statement whose value, if it has one, is well formed. -/
def Statement.WellFormed : Statement → Prop
  | .assignment _ value => value.WellFormed
  | .tableHeader _ | .seriesHeader _ => True

theorem yields_line :
    line.Yields fun read => ∀ statement ∈ read, statement.WellFormed := by
  have seriesHeaders : seriesHeader.Yields Statement.WellFormed :=
    .bind (yields_true _) fun _ _ => .bind (yields_true _) fun _ _ =>
      .bind (yields_true _) fun _ _ => yields_pure trivial
  have tableHeaders : tableHeader.Yields Statement.WellFormed :=
    .bind (yields_true _) fun _ _ => .bind (yields_true _) fun _ _ =>
      .bind (yields_true _) fun _ _ => yields_pure trivial
  have assignments : assignmentStatement.Yields Statement.WellFormed :=
    .bind (yields_assignment (yields_value nestingLimit)) fun _ wellFormed => yields_pure wellFormed
  have nothing : ∀ statement ∈ (none : Option Statement), statement.WellFormed := by
    intro statement absent
    cases absent
  refine .orElse ?statement (.orElse ?comment ?blank)
  case statement =>
    have statements := seriesHeaders.orElse (tableHeaders.orElse assignments)
    refine .bind statements fun statement wellFormed => ?_
    refine .bind (yields_true _) fun _ _ => yields_pure ?_
    rintro _ ⟨⟩
    exact wellFormed
  case comment =>
    exact .bind (yields_true _) fun _ _ => .bind (yields_true _) fun _ _ => yields_pure nothing
  case blank =>
    exact .bind (yields_true _) fun _ _ => yields_pure nothing

theorem yields_statements :
    statements.Yields fun read => ∀ statement ∈ read, statement.WellFormed := by
  refine .bind (yields_true _) fun _ _ => .bind (yields_true _) fun _ _ => ?_
  refine .bind yields_line.before.many fun lines each => ?_
  refine .bind (yields_true _) fun _ _ => yields_pure fun statement member => ?_
  obtain ⟨read, inLines, isRead⟩ := List.mem_filterMap.mp member
  exact each read inLines statement isRead

/-- A statement that is obeyed leaves the tables well formed. -/
theorem Draft.wellFormed_obey
    {statement : Statement}
    (statementWellFormed : statement.WellFormed)
    (draft : Draft)
    (wellFormed : draft.root.WellFormed)
    (obeyed : Draft)
    (obeys : draft.obey statement = some obeyed) :
    obeyed.root.WellFormed := by
  cases statement with
  | assignment target value =>
      obtain ⟨root, edits, same⟩ := Option.bind_eq_some_iff.mp obeys
      cases same
      have keeps := Section.keepsWellFormed_assign target.path target.last statementWellFormed
      exact Section.WellFormed.editAt keeps false draft.current _ wellFormed root edits
  | tableHeader target =>
      obtain ⟨root, edits, same⟩ := Option.bind_eq_some_iff.mp obeys
      cases same
      exact Section.keepsWellFormed_openTable _ _ _ wellFormed root edits
  | seriesHeader target =>
      obtain ⟨root, edits, same⟩ := Option.bind_eq_some_iff.mp obeys
      cases same
      exact Section.keepsWellFormed_extendSeries _ _ _ wellFormed root edits

/-- The document that a text writes is well formed. -/
theorem wellFormed_of_parse?_eq_some
    {text : String}
    {document : Document}
    (parses : parse? text = some document) :
    (Value.table document).WellFormed := by
  obtain ⟨⟨read, rest⟩, reads, obeys⟩ := Option.bind_eq_some_iff.mp parses
  obtain ⟨draft, builds, same⟩ := Option.bind_eq_some_iff.mp obeys
  cases same
  have statements := yields_statements _ _ _ reads
  have blank : Draft.blank.root.WellFormed := .empty false false
  have wellFormed : draft.root.WellFormed :=
    holds_of_foldlM_eq_some
      (fun statement member => Draft.wellFormed_obey (statements statement member)) blank builds
  exact wellFormed.toEntries

theorem givesWellFormed_parse? : GivesWellFormed parse? :=
  fun _ _ => wellFormed_of_parse?_eq_some

end Middleware.Toml
