import Middleware.Settings

namespace Middleware

/-!
# The order of active middlewares

The active middlewares of settings are those whose directive in force gives an
order. They are listed strictly ascending, by order and then by name, and each of
them once.
-/

/-- Whether one placement comes strictly before another: by order, then by name. -/
def Placement.IsBefore (earlier later : Placement) : Prop :=
  earlier.order < later.order ∨
    earlier.order = later.order ∧ earlier.name < later.name

namespace Placement

theorem precedes_iff {left right : Placement} :
    left.precedes right ↔
      left.order < right.order ∨ left.order = right.order ∧ left.name ≤ right.name := by
  simp [precedes]

theorem precedes_trans
    (first middle last : Placement)
    (before : first.precedes middle)
    (after : middle.precedes last) :
    first.precedes last := by
  rw [precedes_iff] at before after ⊢
  rcases before with less | ⟨same, names⟩ <;> rcases after with lessThen | ⟨sameThen, namesThen⟩
  · exact .inl (Int.lt_trans less lessThen)
  · exact .inl (sameThen ▸ less)
  · exact .inl (same ▸ lessThen)
  · exact .inr ⟨same.trans sameThen, String.le_trans names namesThen⟩

theorem precedes_total (left right : Placement) :
    left.precedes right || right.precedes left := by
  rw [Bool.or_eq_true, precedes_iff, precedes_iff]
  rcases Int.lt_trichotomy left.order right.order with less | same | greater
  · exact .inl (.inl less)
  · rcases String.le_total left.name right.name with names | names
    · exact .inl (.inr ⟨same, names⟩)
    · exact .inr (.inr ⟨same.symm, names⟩)
  · exact .inr (.inl greater)

/-- Of placements of different names, one that precedes the other comes strictly before it. -/
theorem isBefore_of_precedes
    {earlier later : Placement}
    (precedes : earlier.precedes later)
    (different : earlier.name ≠ later.name) :
    earlier.IsBefore later := by
  rcases precedes_iff.mp precedes with less | ⟨same, names⟩
  · exact .inl less
  · have notAfter : ¬ later.name < earlier.name := String.not_lt.mpr names
    by_cases before : earlier.name < later.name
    · exact .inr ⟨same, before⟩
    · exact (different (Dictionary.eq_of_not_lt before notAfter)).elim

end Placement

namespace Settings

/-- The directive in force for a name: that of the user table, or else that of the base table. -/
def directive?
    (settings : Settings)
    (name : String) :
    Option Directive :=
  (settings.user.get? name).or (settings.base.get? name)

theorem get?_effective
    (settings : Settings)
    (name : String) :
    settings.effective.get? name = settings.directive? name :=
  Dictionary.get?_overlay settings.user settings.base name

/-- The placement that a directive for a name stands for, if it gives an order. -/
def placement? : String × Directive → Option Placement
  | (name, .order order) => some ⟨order, name⟩
  | (_, .switch _) => none

theorem placement?_eq_some_iff
    {entry : String × Directive}
    {placement : Placement} :
    placement? entry = some placement ↔ entry = (placement.name, .order placement.order) := by
  rcases entry with ⟨name, directive⟩
  cases directive with
  | order order =>
      rw [placement?, Option.some.injEq, Placement.mk.injEq]
      simp [and_comm]
  | switch on => simp [placement?]

/-- Directives that are all accepted stand for the placements of those that give an order. -/
theorem eq_filterMap_of_placements_eq_ok
    {entries : List (String × Directive)}
    {placed : List Placement}
    (accepted : placements entries = .ok placed) :
    placed = entries.filterMap placement? := by
  induction entries generalizing placed with
  | nil =>
      exact (Except.ok.inj accepted).symm
  | cons entry rest inductionHypothesis =>
      rcases entry with ⟨name, directive⟩
      cases directive with
      | switch on =>
          cases on with
          | true => cases accepted
          | false => exact inductionHypothesis accepted
      | order order =>
          cases later : placements rest with
          | error failure =>
              rw [placements, later] at accepted
              cases accepted
          | ok laterPlaced =>
              rw [placements, later] at accepted
              obtain rfl := Except.ok.inj accepted
              rw [inductionHypothesis later]
              rfl

/-- Placements are those of the active names, in the order in which these are listed. -/
structure Lists
    (settings : Settings)
    (placed : List Placement) :
    Prop where
  active :
    ∀ placement,
      placement ∈ placed ↔
        settings.directive? placement.name = some (.order placement.order)
  ascending : placed.Pairwise Placement.IsBefore

/-- Active names are listed by ascending order, and by name where orders are equal. -/
theorem exists_lists_of_activeNames_eq_ok
    {settings : Settings}
    {names : List String}
    (listed : settings.activeNames = .ok names) :
    ∃ placed, settings.Lists placed ∧ names = placed.map (·.name) := by
  cases accepted : placements settings.effective.entries with
  | error failure =>
      rw [activeNames, accepted] at listed
      cases listed
  | ok found =>
      rw [activeNames, accepted] at listed
      obtain rfl := eq_filterMap_of_placements_eq_ok accepted
      refine ⟨_, ⟨?active, ?ascending⟩, (Except.ok.inj listed).symm⟩
      case active =>
        intro placement
        rw [List.mem_mergeSort, List.mem_filterMap, ← get?_effective,
          ← Dictionary.mem_entries_iff]
        simp only [placement?_eq_some_iff, exists_eq_right]
      case ascending =>
        have sorted :=
          List.pairwise_mergeSort Placement.precedes_trans Placement.precedes_total
            (settings.effective.entries.filterMap placement?)
        have distinct :
            (settings.effective.entries.filterMap placement?).Pairwise
              fun earlier later => earlier.name ≠ later.name := by
          refine settings.effective.ascending.filterMap placement? ?_
          intro earlier later before first placesFirst second placesSecond same
          rw [placement?_eq_some_iff.mp placesFirst, placement?_eq_some_iff.mp placesSecond, same]
            at before
          exact String.lt_irrefl _ before
        have distinctThen :=
          (List.mergeSort_perm _ Placement.precedes).symm.pairwise distinct fun different =>
            different.symm
        exact sorted.imp₂ (fun _ _ => Placement.isBefore_of_precedes) distinctThen

end Settings

end Middleware
