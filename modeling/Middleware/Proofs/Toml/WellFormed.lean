import Middleware.Proofs.Toml.Reading
import Middleware.Toml.Document

namespace Middleware.Toml

/-!
# Documents have each key once

However the tables of a document are written, by headers, by dotted keys or on one line,
each of them has a key at most once, and all integers fit in 64 bits with sign.
-/

/-- Entries none of which has the key of another. -/
def HaveDistinctKeys
    {α : Type}
    (entries : List (String × α)) :
    Prop :=
  (entries.map (·.1)).Nodup

/-- Entries with distinct keys are looked up by their keys. -/
theorem HaveDistinctKeys.lookup?_eq_some_iff
    {α : Type}
    {entries : List (String × α)}
    (distinct : HaveDistinctKeys entries)
    {key : String}
    {value : α} :
    lookup? key entries = some value ↔ (key, value) ∈ entries := by
  induction entries with
  | nil => simp [lookup?]
  | cons entry rest inductionHypothesis =>
      obtain ⟨other, given⟩ := entry
      obtain ⟨notInRest, restDistinct⟩ := List.nodup_cons.mp distinct
      have inRest := inductionHypothesis restDistinct
      by_cases same : other = key
      · subst same
        have absent : (other, value) ∉ rest := fun member =>
          notInRest (List.mem_map.mpr ⟨(other, value), member, rfl⟩)
        simp [lookup?, absent, eq_comm]
      · have otherwise : key ≠ other := Ne.symm same
        simpa [lookup?, same, otherwise] using inRest

theorem lookup?_eq_none_iff
    {α : Type}
    {entries : List (String × α)}
    {key : String} :
    lookup? key entries = none ↔ ∀ value, (key, value) ∉ entries := by
  rw [lookup?, Option.map_eq_none_iff, List.find?_eq_none]
  constructor
  · intro absent value member
    exact absent (key, value) member (beq_self_eq_true key)
  · rintro absent ⟨other, value⟩ member same
    obtain rfl : other = key := eq_of_beq same
    exact absent value member

theorem mem_of_lookup?_eq_some
    {α : Type}
    {entries : List (String × α)}
    {key : String}
    {value : α}
    (found : lookup? key entries = some value) :
    (key, value) ∈ entries := by
  obtain ⟨⟨other, given⟩, search, rfl⟩ := Option.map_eq_some_iff.mp found
  obtain rfl : other = key := by simpa using List.find?_some search
  exact List.mem_of_find?_eq_some search

/-- A value whose tables have each key once and whose integers fit in 64 bits. -/
inductive Value.WellFormed : Value → Prop where
  | integer
      {value : Int}
      (fitting : fits value) :
      WellFormed (.integer value)
  | boolean (value : Bool) :
      WellFormed (.boolean value)
  | float (written : String) :
      WellFormed (.float written)
  | text (value : String) :
      WellFormed (.text value)
  | moment (written : String) :
      WellFormed (.moment written)
  | array
      {elements : List Value}
      (wellFormed : ∀ element ∈ elements, WellFormed element) :
      WellFormed (.array elements)
  | table
      {entries : List (String × Value)}
      (distinct : HaveDistinctKeys entries)
      (wellFormed : ∀ entry ∈ entries, WellFormed entry.2) :
      WellFormed (.table entries)

/-- The same for what stands under a key while a document is read. -/
inductive Item.WellFormed : Item → Prop where
  | value
      {value : Value}
      (wellFormed : value.WellFormed) :
      WellFormed (.value value)
  | table
      {implied dotted : Bool}
      {entries : List (String × Item)}
      (distinct : HaveDistinctKeys entries)
      (wellFormed : ∀ entry ∈ entries, WellFormed entry.2) :
      WellFormed (.table implied dotted entries)
  | series
      {tables : List (List (String × Item))}
      (distinct : ∀ entries ∈ tables, HaveDistinctKeys entries)
      (wellFormed : ∀ entries ∈ tables, ∀ entry ∈ entries, WellFormed entry.2) :
      WellFormed (.series tables)

/-- Parsers that give no documents but well-formed ones. -/
def GivesWellFormed (parser : String → Option Document) : Prop :=
  ∀ text document, parser text = some document → (Value.table document).WellFormed

theorem entriesToValues_eq_map (entries : List (String × Item)) :
    entriesToValues entries = entries.map fun entry => (entry.1, entry.2.toValue) := by
  induction entries with
  | nil => rw [entriesToValues, List.map_nil]
  | cons entry rest inductionHypothesis =>
      rw [entriesToValues, inductionHypothesis, List.map_cons]

theorem tablesToValues_eq_map (tables : List (List (String × Item))) :
    tablesToValues tables = tables.map fun entries => .table (entriesToValues entries) := by
  induction tables with
  | nil => rw [tablesToValues, List.map_nil]
  | cons entries rest inductionHypothesis =>
      rw [tablesToValues, inductionHypothesis, List.map_cons]

theorem HaveDistinctKeys.entriesToValues
    {entries : List (String × Item)}
    (distinct : HaveDistinctKeys entries) :
    HaveDistinctKeys (entriesToValues entries) := by
  rw [entriesToValues_eq_map, HaveDistinctKeys, List.map_map]
  exact distinct

/-- What a well-formed item becomes is well formed. -/
theorem Item.WellFormed.toValue
    {item : Item}
    (wellFormed : item.WellFormed) :
    item.toValue.WellFormed := by
  have ofEntries :
      ∀ {entries : List (String × Item)},
        HaveDistinctKeys entries →
          (∀ entry ∈ entries, entry.2.toValue.WellFormed) →
            (Value.table (entriesToValues entries)).WellFormed := by
    intro entries distinct each
    refine .table distinct.entriesToValues ?_
    rw [entriesToValues_eq_map]
    intro entry member
    obtain ⟨before, inEntries, rfl⟩ := List.mem_map.mp member
    exact each before inEntries
  induction wellFormed with
  | value wellFormed =>
      rw [Item.toValue]
      exact wellFormed
  | table distinct _ inductionHypothesis =>
      rw [Item.toValue]
      exact ofEntries distinct inductionHypothesis
  | series distinct _ inductionHypothesis =>
      rw [Item.toValue, tablesToValues_eq_map]
      refine .array fun element member => ?_
      obtain ⟨entries, inTables, rfl⟩ := List.mem_map.mp (List.mem_reverse.mp member)
      exact ofEntries (distinct entries inTables) (inductionHypothesis entries inTables)

theorem mem_putItem
    {key : String}
    {item : Item}
    {entries : List (String × Item)}
    {entry : String × Item}
    (member : entry ∈ putItem key item entries) :
    entry = (key, item) ∨ entry ∈ entries := by
  induction entries with
  | nil => exact .inl (List.mem_singleton.mp member)
  | cons first rest inductionHypothesis =>
      rw [putItem] at member
      split at member
      · exact (List.mem_cons.mp member).imp_right (List.mem_cons_of_mem _)
      · rcases List.mem_cons.mp member with rfl | deeper
        · exact .inr List.mem_cons_self
        · exact (inductionHypothesis deeper).imp_right (List.mem_cons_of_mem _)

/-- An item that is put under a key takes the place of the one that is there. -/
theorem HaveDistinctKeys.putItem
    {entries : List (String × Item)}
    (distinct : HaveDistinctKeys entries)
    (key : String)
    (item : Item) :
    HaveDistinctKeys (putItem key item entries) := by
  induction entries with
  | nil => exact List.nodup_cons.mpr ⟨List.not_mem_nil, List.nodup_nil⟩
  | cons first rest inductionHypothesis =>
      obtain ⟨notInRest, restDistinct⟩ := List.nodup_cons.mp distinct
      rw [Toml.putItem]
      by_cases same : first.1 = key
      · subst same
        rw [if_pos (beq_self_eq_true _)]
        exact distinct
      · rw [if_neg (by simpa using same)]
        refine List.nodup_cons.mpr ⟨?_, inductionHypothesis restDistinct⟩
        intro member
        obtain ⟨entry, inPut, sameKey⟩ := List.mem_map.mp member
        rcases mem_putItem inPut with rfl | inRest
        · exact same sameKey.symm
        · exact notInRest (sameKey ▸ List.mem_map_of_mem inRest)

namespace Section

/-- A section with each key once, and with well-formed items under them. -/
structure WellFormed (table : Section) : Prop where
  distinct : HaveDistinctKeys table.entries
  items : ∀ entry ∈ table.entries, entry.2.WellFormed

/-- Wherever an edit succeeds in a well-formed section, it leaves a well-formed one. -/
def KeepsWellFormed (edit : Section → Option Section) : Prop :=
  ∀ table : Section, table.WellFormed → ∀ edited, edit table = some edited → edited.WellFormed

namespace WellFormed

variable {table : Section}

theorem empty (implied dotted : Bool) : (Section.mk implied dotted []).WellFormed where
  distinct := List.nodup_nil
  items := List.forall_mem_nil _

theorem toItem (wellFormed : table.WellFormed) :
    (Item.table table.implied table.dotted table.entries).WellFormed :=
  .table wellFormed.distinct wellFormed.items

theorem put
    (wellFormed : table.WellFormed)
    (key : String)
    {item : Item}
    (itemWellFormed : item.WellFormed) :
    (table.put key item).WellFormed where
  distinct := wellFormed.distinct.putItem key item
  items := by
    intro entry member
    rcases mem_putItem member with rfl | present
    · exact itemWellFormed
    · exact wellFormed.items entry present

theorem lookup
    (wellFormed : table.WellFormed)
    {key : String}
    {item : Item}
    (found : lookup? key table.entries = some item) :
    item.WellFormed :=
  wellFormed.items _ (mem_of_lookup?_eq_some found)

/-- An edit deep in a section keeps the section well formed if it does where it is made. -/
theorem editAt
    {edit : Section → Option Section}
    (keeps : KeepsWellFormed edit)
    (byDottedKey : Bool)
    (path : List String) :
    KeepsWellFormed fun table => table.editAt byDottedKey edit path := by
  induction path with
  | nil => exact keeps
  | cons key rest inductionHypothesis =>
      have putsBack :
          ∀ {parent child : Section} {edited : Section},
            parent.WellFormed →
              child.WellFormed →
                ((child.editAt byDottedKey edit rest).bind fun child =>
                    some (parent.put key (.table child.implied child.dotted child.entries))) =
                  some edited →
                edited.WellFormed := by
        intro parent child edited parentWellFormed childWellFormed edits
        obtain ⟨childEdited, editsChild, same⟩ := Option.bind_eq_some_iff.mp edits
        cases same
        have childKeeps := inductionHypothesis child childWellFormed childEdited editsChild
        exact parentWellFormed.put key childKeeps.toItem
      intro parent wellFormed edited edits
      simp only [Section.editAt] at edits
      split at edits
      case h_1 => exact putsBack wellFormed (.empty true byDottedKey) edits
      case h_2 implied dotted entries found =>
        split at edits
        · cases edits
        · cases wellFormed.lookup found with
          | table distinct items => exact putsBack wellFormed ⟨distinct, items⟩ edits
      case h_3 newest older found =>
        obtain ⟨childEdited, editsChild, same⟩ := Option.bind_eq_some_iff.mp edits
        cases same
        cases wellFormed.lookup found with
        | series distinct items =>
            have newestWellFormed : (Section.mk false false newest).WellFormed :=
              ⟨distinct newest List.mem_cons_self, items newest List.mem_cons_self⟩
            have childKeeps := inductionHypothesis _ newestWellFormed childEdited editsChild
            refine wellFormed.put key (.series ?_ ?_)
            · exact List.forall_mem_cons.mpr
                ⟨childKeeps.distinct, (List.forall_mem_cons.mp distinct).2⟩
            · exact List.forall_mem_cons.mpr
                ⟨childKeeps.items, (List.forall_mem_cons.mp items).2⟩
      case h_4 => cases edits
      case h_5 => cases edits

end WellFormed

/-- A dotted key is given its value in a table that has no such key. -/
theorem keepsWellFormed_assign
    (path : List String)
    (key : String)
    {value : Value}
    (wellFormed : value.WellFormed) :
    KeepsWellFormed fun table => table.assign path key value := by
  refine .editAt ?_ true path
  intro parent parentWellFormed edited edits
  dsimp only at edits
  split at edits
  · cases edits
  · cases edits
    exact parentWellFormed.put key (.value wellFormed)

theorem keepsWellFormed_openTable
    (path : List String)
    (key : String) :
    KeepsWellFormed fun table => table.openTable path key := by
  refine .editAt ?_ false path
  intro parent wellFormed edited edits
  dsimp only at edits
  split at edits
  · cases edits
    exact wellFormed.put key (WellFormed.empty false false).toItem
  · rename_i found
    cases edits
    cases wellFormed.lookup found with
    | table distinct items => exact wellFormed.put key (.table distinct items)
  · cases edits

theorem keepsWellFormed_extendSeries
    (path : List String)
    (key : String) :
    KeepsWellFormed fun table => table.extendSeries path key := by
  have emptyTable : HaveDistinctKeys ([] : List (String × Item)) := List.nodup_nil
  refine .editAt ?_ false path
  intro parent wellFormed edited edits
  dsimp only at edits
  split at edits
  · cases edits
    refine wellFormed.put key (.series ?_ ?_)
    · exact List.forall_mem_singleton.mpr emptyTable
    · exact List.forall_mem_singleton.mpr (List.forall_mem_nil _)
  · rename_i found
    cases edits
    cases wellFormed.lookup found with
    | series distinct items =>
        refine wellFormed.put key (.series ?_ ?_)
        · exact List.forall_mem_cons.mpr ⟨emptyTable, distinct⟩
        · exact List.forall_mem_cons.mpr ⟨List.forall_mem_nil _, items⟩
  · cases edits

/-- What a section has come to is well formed. -/
theorem WellFormed.toEntries
    {table : Section}
    (wellFormed : table.WellFormed) :
    (Value.table table.toEntries).WellFormed := by
  have became := wellFormed.toItem.toValue
  rw [Item.toValue] at became
  exact became

end Section

end Middleware.Toml
