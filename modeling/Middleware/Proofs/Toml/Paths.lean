import Middleware.Proofs.Toml.WellFormed
import Middleware.Toml.Document

namespace Middleware.Toml

/-!
# Where headers and dotted keys lead

A header begins a table, and a dotted key puts a value into one. Either way each key on
the path to this table has a table or a series of tables under it, from then on and in the
document that is read. So nothing that such a path leads through or to is a single value.
-/

/--
A path of keys leads through tables to a table, or to a series of tables, where it may
go on in any of these.
-/
inductive Item.Nests : Item → List String → Prop where
  | table
      (implied dotted : Bool)
      (entries : List (String × Item)) :
      Nests (.table implied dotted entries) []
  | within
      {implied dotted : Bool}
      {entries : List (String × Item)}
      {key : String}
      {item : Item}
      {rest : List String}
      (found : lookup? key entries = some item)
      (nests : item.Nests rest) :
      Nests (.table implied dotted entries) (key :: rest)
  | series
      (tables : List (List (String × Item)))
      (path : List String) :
      Nests (.series tables) path

namespace Item.Nests

variable {item : Item}
variable {path : List String}

theorem of_isPrefix
    (nests : item.Nests path)
    {shorter : List String}
    (isPrefix : shorter <+: path) :
    item.Nests shorter := by
  induction nests generalizing shorter with
  | table implied dotted entries =>
      obtain rfl := List.prefix_nil.mp isPrefix
      exact .table implied dotted entries
  | within found _ inductionHypothesis =>
      cases shorter with
      | nil => exact .table _ _ _
      | cons key rest =>
          obtain ⟨rfl, restIsPrefix⟩ := List.cons_prefix_cons.mp isPrefix
          exact .within found (inductionHypothesis restIsPrefix)
  | series tables path => exact .series tables shorter

/-- What a path leads to becomes a table or an array. -/
theorem toValue_eq
    (nests : item.Nests path) :
    (∃ entries, item.toValue = .table entries) ∨ ∃ elements, item.toValue = .array elements := by
  cases nests with
  | table implied dotted entries => exact .inl ⟨_, by rw [toValue]⟩
  | within found nests => exact .inl ⟨_, by rw [toValue]⟩
  | series tables path => exact .inr ⟨_, by rw [toValue]⟩

end Item.Nests

/-- A put item is found under its key, and under every other key what was there before. -/
theorem lookup?_putItem
    (key other : String)
    (item : Item)
    (entries : List (String × Item)) :
    lookup? other (putItem key item entries) =
      if key = other then some item else lookup? other entries := by
  induction entries with
  | nil => by_cases same : key = other <;> simp [putItem, lookup?, same]
  | cons entry rest inductionHypothesis =>
      rw [putItem]
      by_cases here : entry.1 = key
      · rw [if_pos (beq_iff_eq.mpr here)]
        by_cases same : key = other <;> simp [lookup?, here, same]
      · rw [if_neg (by simpa using here)]
        by_cases first : entry.1 = other
        · have differs : key ≠ other := fun same => here (first.trans same.symm)
          simp [lookup?, first, differs]
        · simpa [lookup?, first] using inductionHypothesis

namespace Section

/-- A path that leads through the tables of a section. -/
def Nests
    (table : Section)
    (path : List String) :
    Prop :=
  (Item.table table.implied table.dotted table.entries).Nests path

/-- Wherever an edit succeeds, the paths that lead through tables still do. -/
def KeepsNesting (edit : Section → Option Section) : Prop :=
  ∀ table edited : Section,
    edit table = some edited → ∀ path, table.Nests path → edited.Nests path

variable {parent : Section}
variable {key : String}
variable {item : Item}

theorem nests_put_self
    {rest : List String}
    (nests : item.Nests rest) :
    (parent.put key item).Nests (key :: rest) := by
  refine .within ?_ nests
  rw [put, lookup?_putItem, if_pos rfl]

/-- An item in which the same paths lead on may take the place of another one. -/
theorem Nests.put
    {path : List String}
    (nests : parent.Nests path)
    (goesOn :
      ∀ earlier,
        lookup? key parent.entries = some earlier →
          ∀ rest, earlier.Nests rest → item.Nests rest) :
    (parent.put key item).Nests path := by
  cases nests with
  | table implied dotted entries => exact .table _ _ _
  | @within _ _ _ other earlier rest found nestsRest =>
      by_cases same : key = other
      · subst same
        exact nests_put_self (goesOn earlier found rest nestsRest)
      · refine .within ?_ nestsRest
        rw [Section.put, lookup?_putItem, if_neg same]
        exact found

section EditAt

variable {edit : Section → Option Section}

theorem KeepsNesting.editAt
    (keeps : KeepsNesting edit)
    (byDottedKey : Bool)
    (path : List String) :
    KeepsNesting fun table => table.editAt byDottedKey edit path := by
  induction path with
  | nil => exact keeps
  | cons key rest inductionHypothesis =>
      intro parent edited edits path nests
      simp only [Section.editAt] at edits
      split at edits
      case h_1 missing =>
        obtain ⟨child, _, same⟩ := Option.bind_eq_some_iff.mp edits
        cases same
        refine nests.put fun earlier found => ?_
        rw [missing] at found
        cases found
      case h_2 implied dotted entries present =>
        split at edits
        · cases edits
        · obtain ⟨child, editsChild, same⟩ := Option.bind_eq_some_iff.mp edits
          cases same
          refine nests.put fun earlier found rest nestsRest => ?_
          obtain rfl := Option.some.inj (present.symm.trans found)
          exact inductionHypothesis _ child editsChild rest nestsRest
      case h_3 newest older present =>
        obtain ⟨child, _, same⟩ := Option.bind_eq_some_iff.mp edits
        cases same
        exact nests.put fun _ _ rest _ => .series _ rest
      case h_4 => cases edits
      case h_5 => cases edits

/-- A path leads through tables to where an edit is made. -/
theorem nests_editAt
    {tail : List String}
    (reaches : ∀ table edited : Section, edit table = some edited → edited.Nests tail)
    (byDottedKey : Bool)
    (path : List String)
    {edited : Section}
    (edits : parent.editAt byDottedKey edit path = some edited) :
    edited.Nests (path ++ tail) := by
  induction path generalizing parent edited with
  | nil => exact reaches parent edited edits
  | cons key rest inductionHypothesis =>
      simp only [Section.editAt] at edits
      split at edits
      case h_1 =>
        obtain ⟨child, editsChild, same⟩ := Option.bind_eq_some_iff.mp edits
        cases same
        exact nests_put_self (inductionHypothesis editsChild)
      case h_2 implied dotted entries present =>
        split at edits
        · cases edits
        · obtain ⟨child, editsChild, same⟩ := Option.bind_eq_some_iff.mp edits
          cases same
          exact nests_put_self (inductionHypothesis editsChild)
      case h_3 newest older present =>
        obtain ⟨child, _, same⟩ := Option.bind_eq_some_iff.mp edits
        cases same
        exact nests_put_self (.series _ _)
      case h_4 => cases edits
      case h_5 => cases edits

end EditAt

variable {table edited : Section}

theorem keepsNesting_assign
    (path : List String)
    (key : String)
    (value : Value) :
    KeepsNesting fun table => table.assign path key value := by
  refine .editAt ?_ true path
  intro parent edited edits path nests
  dsimp only at edits
  split at edits
  · cases edits
  · rename_i free
    cases edits
    refine nests.put fun earlier found => ?_
    simp [found] at free

theorem keepsNesting_openTable
    (path : List String)
    (key : String) :
    KeepsNesting fun table => table.openTable path key := by
  refine .editAt ?_ false path
  intro parent edited edits path nests
  dsimp only at edits
  split at edits
  · rename_i missing
    cases edits
    refine nests.put fun earlier found => ?_
    rw [missing] at found
    cases found
  · rename_i entries present
    cases edits
    refine nests.put fun earlier found rest nestsRest => ?_
    obtain rfl := Option.some.inj (present.symm.trans found)
    cases nestsRest with
    | table => exact .table _ _ _
    | within found nests => exact .within found nests
  · cases edits

theorem keepsNesting_extendSeries
    (path : List String)
    (key : String) :
    KeepsNesting fun table => table.extendSeries path key := by
  refine .editAt ?_ false path
  intro parent edited edits path nests
  dsimp only at edits
  split at edits
  · cases edits
    exact nests.put fun _ _ rest _ => .series _ rest
  · cases edits
    exact nests.put fun _ _ rest _ => .series _ rest
  · cases edits

theorem nests_assign
    {path : List String}
    {key : String}
    {value : Value}
    (edits : table.assign path key value = some edited) :
    edited.Nests path := by
  have nests := nests_editAt (fun _ _ _ => .table _ _ _) true path edits
  rwa [List.append_nil] at nests

theorem nests_openTable
    {path : List String}
    {key : String}
    (edits : table.openTable path key = some edited) :
    edited.Nests (path ++ [key]) := by
  refine nests_editAt ?_ false path edits
  intro parent opened opens
  split at opens
  · cases opens
    exact nests_put_self (.table _ _ _)
  · cases opens
    exact nests_put_self (.table _ _ _)
  · cases opens

theorem nests_extendSeries
    {path : List String}
    {key : String}
    (edits : table.extendSeries path key = some edited) :
    edited.Nests (path ++ [key]) := by
  refine nests_editAt ?_ false path edits
  intro parent longer lengthens
  split at lengthens
  · cases lengthens
    exact nests_put_self (.series _ _)
  · cases lengthens
    exact nests_put_self (.series _ _)
  · cases lengthens

end Section

namespace Statement

/-- The path to the table that a statement begins or puts a value into. -/
def tablePath (current : List String) : Statement → List String
  | .assignment target _ => current ++ target.path
  | .tableHeader target | .seriesHeader target => target.path ++ [target.last]

/-- The path to the table that assignments go to after a statement. -/
def currentAfter (current : List String) : Statement → List String
  | .assignment _ _ => current
  | .tableHeader target | .seriesHeader target => target.path ++ [target.last]

end Statement

/-- The paths to the tables that statements begin or put values into, one after another. -/
def tablePaths (current : List String) : List Statement → List (List String)
  | [] => []
  | statement :: later =>
      statement.tablePath current :: tablePaths (statement.currentAfter current) later

/-- Where a statement leads, there are tables, and earlier ones stay. -/
theorem Draft.nests_obey
    {draft obeyed : Draft}
    {statement : Statement}
    (obeys : draft.obey statement = some obeyed) :
    obeyed.current = statement.currentAfter draft.current ∧
      obeyed.root.Nests (statement.tablePath draft.current) ∧
      ∀ path, draft.root.Nests path → obeyed.root.Nests path := by
  cases statement with
  | assignment target value =>
      obtain ⟨root, edits, same⟩ := Option.bind_eq_some_iff.mp obeys
      cases same
      refine ⟨rfl, ?_, ?_⟩
      · exact Section.nests_editAt (fun _ _ => Section.nests_assign) false draft.current edits
      · have keeps := Section.keepsNesting_assign target.path target.last value
        exact keeps.editAt false draft.current _ root edits
  | tableHeader target =>
      obtain ⟨root, edits, same⟩ := Option.bind_eq_some_iff.mp obeys
      cases same
      refine ⟨rfl, Section.nests_openTable edits, ?_⟩
      exact Section.keepsNesting_openTable target.path target.last _ root edits
  | seriesHeader target =>
      obtain ⟨root, edits, same⟩ := Option.bind_eq_some_iff.mp obeys
      cases same
      refine ⟨rfl, Section.nests_extendSeries edits, ?_⟩
      exact Section.keepsNesting_extendSeries target.path target.last _ root edits

/-- Wherever statements that are obeyed lead, there are tables in the end. -/
theorem Draft.nests_of_foldlM_obey
    {read : List Statement}
    {draft built : Draft}
    (builds : read.foldlM obey draft = some built) :
    (∀ path, draft.root.Nests path → built.root.Nests path) ∧
      ∀ path ∈ tablePaths draft.current read, built.root.Nests path := by
  induction read generalizing draft with
  | nil =>
      cases builds
      exact ⟨fun _ => id, List.forall_mem_nil _⟩
  | cons statement later inductionHypothesis =>
      rw [List.foldlM_cons] at builds
      obtain ⟨obeyed, obeys, buildsLater⟩ := Option.bind_eq_some_iff.mp builds
      obtain ⟨kept, reached⟩ := inductionHypothesis buildsLater
      obtain ⟨sameCurrent, nests, keptHere⟩ := nests_obey obeys
      rw [sameCurrent] at reached
      exact
        ⟨fun path nested => kept path (keptHere path nested),
          List.forall_mem_cons.mpr ⟨kept _ nests, reached⟩⟩

/-- A path of two keys leads to a table or a series within a table, or through a series. -/
theorem Section.Nests.exists_mem_toEntries
    {root : Section}
    {key name : String}
    (nests : root.Nests [key, name]) :
    ∃ value,
      (key, value) ∈ root.toEntries ∧
        ∀ entries,
          value = .table entries →
            ∃ inner,
              (name, inner) ∈ entries ∧
                ((∃ entries, inner = .table entries) ∨ ∃ elements, inner = .array elements) := by
  have present :
      ∀ {key : String} {item : Item} {entries : List (String × Item)},
        lookup? key entries = some item → (key, item.toValue) ∈ entriesToValues entries := by
    intro key item entries found
    rw [entriesToValues_eq_map]
    exact List.mem_map.mpr ⟨(key, item), mem_of_lookup?_eq_some found, rfl⟩
  cases nests with
  | @within _ _ _ _ item _ found nestsName =>
      refine ⟨item.toValue, present found, ?_⟩
      intro entries isTable
      cases nestsName with
      | @within _ _ _ _ inner _ foundName nestsInner =>
          rw [Item.toValue] at isTable
          cases isTable
          exact ⟨inner.toValue, present foundName, nestsInner.toValue_eq⟩
      | series tables _ =>
          rw [Item.toValue] at isTable
          cases isTable

end Middleware.Toml
