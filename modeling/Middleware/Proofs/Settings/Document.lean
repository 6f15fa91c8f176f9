import Mathlib
import Middleware.Proofs.Settings.Overlay
import Middleware.Proofs.Toml.Document
import Middleware.Proofs.Toml.Paths
import Middleware.Settings.Source

namespace Middleware

/-!
# Settings in documents

A text writes settings exactly if it is a document in which each of the two tables, where
it is present, is a table of directives. The settings have these directives and no others,
so other keys and the order of keys do not count. A single value of another kind in either
table refuses the whole text, whether or not its directive would be in force, and so does
a header or a dotted key that makes a table within one.

How texts are parsed does not matter to this: it holds by every parser that gives no
documents but well-formed ones (`Settings.readsTables_of_givesWellFormed`). Only what is
said of headers and dotted keys is about `Toml.parse?`.
-/

/-- The value by which a document states a directive. -/
def Directive.toValue : Directive → Toml.Value
  | .order number => .integer number
  | .switch on => .boolean on

namespace Toml

/-- Entries whose values all state directives. -/
def StateDirectives (entries : List (String × Value)) : Prop :=
  ∀ entry ∈ entries, ∃ directive : Directive, entry.2 = directive.toValue

/-- A table in which every value states a directive. -/
def Value.IsDirectiveTable (value : Value) : Prop :=
  ∃ entries, value = .table entries ∧ StateDirectives entries

/-- Values that differ at most in the order in which keys stand, in tables at any depth. -/
inductive Value.SameUpToOrder : Value → Value → Prop where
  | same (value : Value) :
      SameUpToOrder value value
  | trans
      {first middle last : Value}
      (before : SameUpToOrder first middle)
      (after : SameUpToOrder middle last) :
      SameUpToOrder first last
  | reordered
      {entries others : List (String × Value)}
      (perm : entries.Perm others) :
      SameUpToOrder (.table entries) (.table others)
  | entry
      {key : String}
      {value other : Value}
      {before after : List (String × Value)}
      (within : SameUpToOrder value other) :
      SameUpToOrder
        (.table (before ++ (key, value) :: after))
        (.table (before ++ (key, other) :: after))
  | element
      {value other : Value}
      {before after : List Value}
      (within : SameUpToOrder value other) :
      SameUpToOrder
        (.array (before ++ value :: after))
        (.array (before ++ other :: after))

/-- Two documents have the same under a key, up to the order of keys, or both have nothing. -/
structure AgreeUnder
    (key : String)
    (document other : Document) :
    Prop where
  forth :
    ∀ value, (key, value) ∈ document → ∃ same, (key, same) ∈ other ∧ value.SameUpToOrder same
  back :
    ∀ value, (key, value) ∈ other → ∃ same, (key, same) ∈ document ∧ value.SameUpToOrder same

end Toml

/-- The keys of the two tables of settings. -/
def tableKeys : List String :=
  [baseTableKey, userTableKey]

/--
The directives that a document has under a key: none if the key is absent, and otherwise
those that the entries of its table state, all of which state one.
-/
inductive DirectivesUnder
    (document : Toml.Document)
    (key : String) :
    Dictionary Directive → Prop where
  | absent
      (missing : ∀ value, (key, value) ∉ document) :
      DirectivesUnder document key .empty
  | table
      {entries : List (String × Toml.Value)}
      {directives : Dictionary Directive}
      (present : (key, .table entries) ∈ document)
      (accepted : Toml.StateDirectives entries)
      (listed :
        ∀ name directive,
          directives.get? name = some directive ↔ (name, directive.toValue) ∈ entries) :
      DirectivesUnder document key directives

/-- Settings whose two tables are those of a document. -/
structure Settings.WrittenIn
    (settings : Settings)
    (document : Toml.Document) :
    Prop where
  base : DirectivesUnder document baseTableKey settings.base
  user : DirectivesUnder document userTableKey settings.user

namespace Directive

theorem ofValue?_eq_some_iff
    {value : Toml.Value}
    {directive : Directive} :
    ofValue? value = some directive ↔ value = directive.toValue := by
  cases value <;> cases directive <;> simp [ofValue?, toValue]

theorem toValue_inj {first second : Directive} :
    first.toValue = second.toValue ↔ first = second := by
  cases first <;> cases second <;> simp [toValue]

theorem toValue_ne_table
    (directive : Directive)
    {entries : List (String × Toml.Value)} :
    directive.toValue ≠ .table entries := by
  cases directive <;> simp [toValue]

theorem toValue_ne_array
    (directive : Directive)
    {elements : List Toml.Value} :
    directive.toValue ≠ .array elements := by
  cases directive <;> simp [toValue]

end Directive

/-- Entries are accepted exactly if each of them states the directive that is taken from it. -/
theorem directivesOfEntries?_eq_some_iff
    {entries : List (String × Toml.Value)}
    {pairs : List (String × Directive)} :
    directivesOfEntries? entries = some pairs ↔
      entries = pairs.map fun pair => (pair.1, pair.2.toValue) := by
  induction entries generalizing pairs with
  | nil => cases pairs <;> simp [directivesOfEntries?]
  | cons entry rest inductionHypothesis =>
      obtain ⟨name, value⟩ := entry
      rw [directivesOfEntries?]
      constructor
      · intro read
        obtain ⟨directive, reads, readRest⟩ := Option.bind_eq_some_iff.mp read
        obtain ⟨later, readsLater, same⟩ := Option.bind_eq_some_iff.mp readRest
        cases same
        rw [List.map_cons, ← Directive.ofValue?_eq_some_iff.mp reads,
          ← inductionHypothesis.mp readsLater]
      · intro states
        cases pairs with
        | nil => cases states
        | cons pair later =>
            obtain ⟨sameEntry, sameRest⟩ := List.cons.inj states
            obtain ⟨rfl, statesValue⟩ := Prod.mk.inj sameEntry
            rw [Directive.ofValue?_eq_some_iff.mpr statesValue, inductionHypothesis.mpr sameRest]
            rfl

theorem exists_directivesOfEntries?_eq_some
    {entries : List (String × Toml.Value)}
    (accepted : Toml.StateDirectives entries) :
    ∃ pairs, directivesOfEntries? entries = some pairs := by
  induction entries with
  | nil => exact ⟨[], rfl⟩
  | cons entry rest inductionHypothesis =>
      obtain ⟨⟨directive, states⟩, acceptedRest⟩ := List.forall_mem_cons.mp accepted
      obtain ⟨later, readsLater⟩ := inductionHypothesis acceptedRest
      refine ⟨(entry.1, directive) :: later, directivesOfEntries?_eq_some_iff.mpr ?_⟩
      rw [List.map_cons, ← directivesOfEntries?_eq_some_iff.mp readsLater, ← states]

/-- A look-up among collected pairs of distinct names finds the pair of the name. -/
theorem Dictionary.get?_ofList_eq_some_iff
    {α : Type}
    {pairs : List (String × α)}
    (distinct : Toml.HaveDistinctKeys pairs)
    {name : String}
    {value : α} :
    (ofList pairs).get? name = some value ↔ (name, value) ∈ pairs := by
  have reversed : Toml.HaveDistinctKeys pairs.reverse := by
    rw [Toml.HaveDistinctKeys, List.map_reverse]
    exact List.pairwise_reverse.mpr (List.Pairwise.imp Ne.symm distinct)
  rw [← List.mem_reverse, ← reversed.lookup?_eq_some_iff, get?_ofList]
  rfl

/-- What is taken from a table are the directives that its entries state. -/
theorem get?_ofList_of_directivesOfEntries?
    {entries : List (String × Toml.Value)}
    (distinct : Toml.HaveDistinctKeys entries)
    {pairs : List (String × Directive)}
    (reads : directivesOfEntries? entries = some pairs)
    (name : String)
    (directive : Directive) :
    (Dictionary.ofList pairs).get? name = some directive ↔
      (name, directive.toValue) ∈ entries := by
  obtain rfl := directivesOfEntries?_eq_some_iff.mp reads
  have pairsDistinct : Toml.HaveDistinctKeys pairs := by
    rw [Toml.HaveDistinctKeys, List.map_map] at distinct
    exact distinct
  rw [Dictionary.get?_ofList_eq_some_iff pairsDistinct, List.mem_map]
  constructor
  · intro member
    exact ⟨(name, directive), member, rfl⟩
  · rintro ⟨⟨other, stated⟩, member, same⟩
    obtain ⟨rfl, sameValue⟩ := Prod.mk.inj same
    obtain rfl := Directive.toValue_inj.mp sameValue
    exact member

section Document

variable {document : Toml.Document}
variable {key : String}

/-- A well-formed table of entries that is accepted gives its directives. -/
theorem directivesUnder_of_directivesOfEntries?
    (wellFormed : (Toml.Value.table document).WellFormed)
    {entries : List (String × Toml.Value)}
    (present : (key, .table entries) ∈ document)
    {pairs : List (String × Directive)}
    (reads : directivesOfEntries? entries = some pairs) :
    DirectivesUnder document key (.ofList pairs) := by
  have entriesWellFormed : (Toml.Value.table entries).WellFormed := by
    cases wellFormed with
    | table distinct wellFormed => exact wellFormed _ present
  refine .table present ?accepted ?listed
  case accepted =>
    rw [directivesOfEntries?_eq_some_iff.mp reads]
    intro entry member
    obtain ⟨pair, _, rfl⟩ := List.mem_map.mp member
    exact ⟨pair.2, rfl⟩
  case listed =>
    cases entriesWellFormed with
    | table distinct wellFormed => exact get?_ofList_of_directivesOfEntries? distinct reads

/-- A document has at most one collection of directives under a key. -/
theorem DirectivesUnder.unique
    (wellFormed : (Toml.Value.table document).WellFormed)
    {directives others : Dictionary Directive}
    (under : DirectivesUnder document key directives)
    (othersUnder : DirectivesUnder document key others) :
    directives = others := by
  cases under with
  | absent missing =>
      cases othersUnder with
      | absent missingToo => rfl
      | table present accepted listed => exact (missing _ present).elim
  | table present accepted listed =>
      cases othersUnder with
      | absent missing => exact (missing _ present).elim
      | @table otherEntries _ otherPresent otherAccepted otherListed =>
          cases wellFormed with
          | table distinct _ =>
              have found := distinct.lookup?_eq_some_iff.mpr present
              have otherFound := distinct.lookup?_eq_some_iff.mpr otherPresent
              obtain ⟨rfl⟩ := Option.some.inj (found.symm.trans otherFound)
              refine Dictionary.ext_get? fun name => Option.ext fun directive => ?_
              rw [listed, otherListed]

/-- The table of a key is decoded exactly to the directives that the document has there. -/
theorem directiveTable?_eq_some_iff
    (wellFormed : (Toml.Value.table document).WellFormed)
    {directives : Dictionary Directive} :
    directiveTable? document key = some directives ↔ DirectivesUnder document key directives := by
  have decodes :
      ∀ {decoded : Dictionary Directive},
        directiveTable? document key = some decoded → DirectivesUnder document key decoded := by
    intro decoded read
    rw [directiveTable?] at read
    split at read
    · rename_i missing
      cases read
      exact .absent (Toml.lookup?_eq_none_iff.mp missing)
    · rename_i entries found
      obtain ⟨pairs, reads, rfl⟩ := Option.map_eq_some_iff.mp read
      exact
        directivesUnder_of_directivesOfEntries? wellFormed (Toml.mem_of_lookup?_eq_some found)
          reads
    · cases read
  refine ⟨decodes, fun under => ?_⟩
  have decodable : ∃ decoded, directiveTable? document key = some decoded := by
    cases under with
    | absent missing =>
        exact ⟨.empty, by rw [directiveTable?, Toml.lookup?_eq_none_iff.mpr missing]⟩
    | table present accepted listed =>
        obtain ⟨pairs, reads⟩ := exists_directivesOfEntries?_eq_some accepted
        cases wellFormed with
        | table distinct _ =>
            refine ⟨.ofList pairs, ?_⟩
            rw [directiveTable?, distinct.lookup?_eq_some_iff.mpr present]
            exact congrArg (Option.map Dictionary.ofList) reads
  obtain ⟨decoded, read⟩ := decodable
  rw [read, under.unique wellFormed (decodes read)]

/-- There are directives under a key exactly if what stands there is a table of directives. -/
theorem exists_directivesUnder_iff
    (wellFormed : (Toml.Value.table document).WellFormed) :
    (∃ directives, DirectivesUnder document key directives) ↔
      ∀ value, (key, value) ∈ document → value.IsDirectiveTable := by
  constructor
  · rintro ⟨directives, under⟩ value present
    cases under with
    | absent missing => exact (missing value present).elim
    | @table entries _ tablePresent accepted _ =>
        cases wellFormed with
        | table distinct _ =>
            have found := distinct.lookup?_eq_some_iff.mpr present
            have tableFound := distinct.lookup?_eq_some_iff.mpr tablePresent
            obtain rfl := Option.some.inj (found.symm.trans tableFound)
            exact ⟨entries, rfl, accepted⟩
  · intro tables
    cases found : Toml.lookup? key document with
    | none => exact ⟨.empty, .absent (Toml.lookup?_eq_none_iff.mp found)⟩
    | some value =>
        have present := Toml.mem_of_lookup?_eq_some found
        obtain ⟨entries, rfl, accepted⟩ := tables value present
        obtain ⟨pairs, reads⟩ := exists_directivesOfEntries?_eq_some accepted
        exact ⟨_, directivesUnder_of_directivesOfEntries? wellFormed present reads⟩

/-- Orders that are read fit in 64 bits with sign. -/
theorem DirectivesUnder.fits
    (wellFormed : (Toml.Value.table document).WellFormed)
    {directives : Dictionary Directive}
    (under : DirectivesUnder document key directives)
    {name : String}
    {order : Int}
    (gives : directives.get? name = some (.order order)) :
    Toml.fits order := by
  cases under with
  | absent missing => cases gives
  | table present accepted listed =>
      have stated := (listed name (.order order)).mp gives
      cases wellFormed with
      | table _ values =>
          cases values _ present with
          | table _ entriesWellFormed =>
              cases entriesWellFormed _ stated with
              | integer fitting => exact fitting

end Document

namespace Toml

/-- Entries that state the same directives, where what is accepted in one is in the other. -/
structure StateAlike (entries others : List (String × Value)) : Prop where
  accepted : StateDirectives entries → StateDirectives others
  listed :
    ∀ name (directive : Directive),
      (name, directive.toValue) ∈ entries ↔ (name, directive.toValue) ∈ others

namespace StateAlike

variable {entries middle others : List (String × Value)}

theorem refl : StateAlike entries entries :=
  ⟨id, fun _ _ => .rfl⟩

theorem trans
    (alike : StateAlike entries middle)
    (alikeThen : StateAlike middle others) :
    StateAlike entries others where
  accepted := alikeThen.accepted ∘ alike.accepted
  listed name directive := (alike.listed name directive).trans (alikeThen.listed name directive)

theorem of_perm (perm : entries.Perm others) : StateAlike entries others where
  accepted accepted entry member := accepted entry (perm.mem_iff.mpr member)
  listed _ _ := perm.mem_iff

/-- One value may be replaced by another that states the same. -/
theorem of_sameStated
    {key : String}
    {value other : Value}
    {before after : List (String × Value)}
    (sameStated : ∀ directive : Directive, value = directive.toValue ↔ other = directive.toValue) :
    StateAlike (before ++ (key, value) :: after) (before ++ (key, other) :: after) where
  accepted := by
    simp only [StateDirectives, List.forall_mem_append, List.forall_mem_cons, sameStated]
    exact id
  listed name directive := by
    have sameStatedHere := sameStated directive
    simp only [List.mem_append, List.mem_cons, Prod.mk.injEq, eq_comm (b := value),
      eq_comm (b := other), sameStatedHere]

end StateAlike

/-- The order of keys within values does not change which directives they state. -/
theorem Value.SameUpToOrder.statesAlike
    {value other : Value}
    (sameUpToOrder : value.SameUpToOrder other) :
    (∀ directive : Directive, value = directive.toValue ↔ other = directive.toValue) ∧
      ∀ entries,
        value = .table entries → ∃ others, other = .table others ∧ StateAlike entries others := by
  have noTable : ∀ {entries} (directive : Directive), Value.table entries ≠ directive.toValue :=
    fun directive => directive.toValue_ne_table.symm
  have noArray : ∀ {elements} (directive : Directive), Value.array elements ≠ directive.toValue :=
    fun directive => directive.toValue_ne_array.symm
  induction sameUpToOrder with
  | same value => exact ⟨fun _ => .rfl, fun entries isTable => ⟨entries, isTable, .refl⟩⟩
  | trans _ _ before after =>
      refine ⟨fun directive => (before.1 directive).trans (after.1 directive), ?_⟩
      intro entries isTable
      obtain ⟨middle, middleIsTable, alike⟩ := before.2 entries isTable
      obtain ⟨others, otherIsTable, alikeThen⟩ := after.2 middle middleIsTable
      exact ⟨others, otherIsTable, alike.trans alikeThen⟩
  | reordered perm =>
      refine ⟨fun _ => iff_of_false (noTable _) (noTable _), ?_⟩
      rintro _ ⟨⟩
      exact ⟨_, rfl, .of_perm perm⟩
  | entry _ within =>
      refine ⟨fun _ => iff_of_false (noTable _) (noTable _), ?_⟩
      rintro _ ⟨⟩
      exact ⟨_, rfl, .of_sameStated within.1⟩
  | element _ _ =>
      refine ⟨fun _ => iff_of_false (noArray _) (noArray _), ?_⟩
      rintro _ ⟨⟩

theorem AgreeUnder.symm
    {key : String}
    {document other : Document}
    (agree : AgreeUnder key document other) :
    AgreeUnder key other document :=
  ⟨agree.back, agree.forth⟩

end Toml

/-- Documents that agree under a key have the same directives there. -/
theorem DirectivesUnder.of_agreeUnder
    {document other : Toml.Document}
    {key : String}
    (agree : Toml.AgreeUnder key document other)
    {directives : Dictionary Directive}
    (under : DirectivesUnder document key directives) :
    DirectivesUnder other key directives := by
  cases under with
  | absent missing =>
      refine .absent fun value present => ?_
      obtain ⟨same, samePresent, _⟩ := agree.back value present
      exact missing same samePresent
  | table present accepted listed =>
      obtain ⟨same, samePresent, sameUpToOrder⟩ := agree.forth _ present
      obtain ⟨others, rfl, alike⟩ := sameUpToOrder.statesAlike.2 _ rfl
      refine .table samePresent (alike.accepted accepted) fun name directive => ?_
      rw [listed, alike.listed]

namespace Settings

section Documents

variable {document otherDocument : Toml.Document}
variable {settings : Settings}

/-- A document is decoded exactly to the settings written in it. -/
theorem ofDocument?_eq_some_iff
    (wellFormed : (Toml.Value.table document).WellFormed) :
    ofDocument? document = some settings ↔ settings.WrittenIn document := by
  constructor
  · intro decodes
    obtain ⟨base, decodesBase, decodesRest⟩ := Option.bind_eq_some_iff.mp decodes
    obtain ⟨user, decodesUser, same⟩ := Option.bind_eq_some_iff.mp decodesRest
    obtain rfl := Option.some.inj same
    exact
      ⟨(directiveTable?_eq_some_iff wellFormed).mp decodesBase,
        (directiveTable?_eq_some_iff wellFormed).mp decodesUser⟩
  · rintro ⟨base, user⟩
    rw [ofDocument?, (directiveTable?_eq_some_iff wellFormed).mpr base,
      (directiveTable?_eq_some_iff wellFormed).mpr user]
    rfl

/-- Settings are written in a document exactly if both tables, where present, are of directives. -/
theorem exists_writtenIn_iff
    (wellFormed : (Toml.Value.table document).WellFormed) :
    (∃ settings : Settings, settings.WrittenIn document) ↔
      ∀ key ∈ tableKeys, ∀ value, (key, value) ∈ document → value.IsDirectiveTable := by
  rw [tableKeys, List.forall_mem_cons, List.forall_mem_singleton,
    ← exists_directivesUnder_iff wellFormed, ← exists_directivesUnder_iff wellFormed]
  constructor
  · rintro ⟨settings, written⟩
    exact ⟨⟨settings.base, written.base⟩, ⟨settings.user, written.user⟩⟩
  · rintro ⟨⟨base, baseUnder⟩, ⟨user, userUnder⟩⟩
    exact ⟨⟨base, user⟩, ⟨baseUnder, userUnder⟩⟩

/-- Documents that agree on the two tables have the same settings written in them. -/
theorem WrittenIn.of_agreeUnder
    (agree : ∀ key ∈ tableKeys, Toml.AgreeUnder key document otherDocument)
    (written : settings.WrittenIn document) :
    settings.WrittenIn otherDocument :=
  ⟨written.base.of_agreeUnder (agree _ (by simp [tableKeys])),
    written.user.of_agreeUnder (agree _ (by simp [tableKeys]))⟩

end Documents

section Parsers

variable {parser : String → Option Toml.Document}
variable {text other : String}
variable {document otherDocument : Toml.Document}
variable {settings : Settings}

/-- A text that gives no settings is reported as a malformed document. -/
theorem ofTextBy_eq_error
    (refused : ∀ settings, ofTextBy parser text ≠ .ok settings) :
    ofTextBy parser text = .error (.configuration .malformedDocument) := by
  cases gives : (parser text).bind ofDocument? with
  | some settings =>
      have accepted : ofTextBy parser text = .ok settings := by rw [ofTextBy, gives]
      exact (refused settings accepted).elim
  | none => rw [ofTextBy, gives]

variable (wellFormed : Toml.GivesWellFormed parser)
include wellFormed

/-- A text gives exactly the settings written in its document. -/
theorem ofTextBy_eq_ok_iff :
    ofTextBy parser text = .ok settings ↔
      ∃ document, parser text = some document ∧ settings.WrittenIn document := by
  have decodes :
      ofTextBy parser text = .ok settings ↔ (parser text).bind ofDocument? = some settings := by
    rw [ofTextBy]
    split
    · rename_i found reads
      rw [reads, Option.some.injEq, Except.ok.injEq]
    · rename_i refuses
      simp [refuses]
  rw [decodes, Option.bind_eq_some_iff]
  refine exists_congr fun document => and_congr_right fun parses => ?_
  exact ofDocument?_eq_some_iff (wellFormed text document parses)

/-- A text gives settings exactly if its tables of settings have nothing but directives. -/
theorem exists_ofTextBy_eq_ok_iff :
    (∃ settings, ofTextBy parser text = .ok settings) ↔
      ∃ document,
        parser text = some document ∧
          ∀ key ∈ tableKeys, ∀ value, (key, value) ∈ document → value.IsDirectiveTable := by
  simp only [ofTextBy_eq_ok_iff wellFormed]
  rw [exists_comm]
  refine exists_congr fun document => ?_
  rw [exists_and_left]
  exact and_congr_right fun parses => exists_writtenIn_iff (wellFormed text document parses)

/-- One value in a table of settings that states no directive refuses the whole text. -/
theorem ofTextBy_eq_error_of_entry
    (parses : parser text = some document)
    {key : String}
    (isTable : key ∈ tableKeys)
    {entries : List (String × Toml.Value)}
    (present : (key, .table entries) ∈ document)
    {name : String}
    {value : Toml.Value}
    (member : (name, value) ∈ entries)
    (noDirective : ∀ directive : Directive, value ≠ directive.toValue) :
    ofTextBy parser text = .error (.configuration .malformedDocument) := by
  apply ofTextBy_eq_error
  intro settings gives
  obtain ⟨found, parsesToo, tables⟩ :=
    (exists_ofTextBy_eq_ok_iff wellFormed).mp ⟨settings, gives⟩
  obtain rfl := Option.some.inj (parses.symm.trans parsesToo)
  obtain ⟨_, ⟨⟩, accepted⟩ := tables key isTable _ present
  obtain ⟨directive, states⟩ := accepted _ member
  exact noDirective directive states

/-- Texts whose documents agree on the two tables come to the same. -/
theorem ofTextBy_eq_of_agreeUnder
    (parses : parser text = some document)
    (parsesOther : parser other = some otherDocument)
    (agree : ∀ key ∈ tableKeys, Toml.AgreeUnder key document otherDocument) :
    ofTextBy parser other = ofTextBy parser text := by
  have same :
      ∀ settings, ofTextBy parser text = .ok settings ↔ ofTextBy parser other = .ok settings := by
    intro settings
    simp only [ofTextBy_eq_ok_iff wellFormed, parses, parsesOther, Option.some.injEq,
      exists_eq_left']
    exact ⟨.of_agreeUnder agree, .of_agreeUnder fun key isTable => (agree key isTable).symm⟩
  by_cases accepted : ∃ settings, ofTextBy parser text = .ok settings
  · obtain ⟨settings, gives⟩ := accepted
    rw [gives, (same settings).mp gives]
  · have refused := not_exists.mp accepted
    rw [ofTextBy_eq_error refused]
    apply ofTextBy_eq_error
    intro settings gives
    exact refused settings ((same settings).mpr gives)

/-- Orders of settings that a text gives fit in 64 bits with sign. -/
theorem fits_of_ofTextBy_eq_ok
    (gives : ofTextBy parser text = .ok settings) :
    ∀ table ∈ [settings.base, settings.user], ∀ name order,
      table.get? name = some (.order order) → Toml.fits order := by
  obtain ⟨document, parses, base, user⟩ := (ofTextBy_eq_ok_iff wellFormed).mp gives
  have documentWellFormed := wellFormed text document parses
  rw [List.forall_mem_cons, List.forall_mem_singleton]
  exact ⟨fun _ _ => base.fits documentWellFormed, fun _ _ => user.fits documentWellFormed⟩

end Parsers

/--
What texts come to by a parser. They give the settings written in their documents, if these
have only directives in the two tables; other keys and the order of keys do not count.
Every other text is reported as malformed, and one value of another kind is enough.
-/
structure ReadsTables (parser : String → Option Toml.Document) : Prop where
  written :
    ∀ text settings,
      ofTextBy parser text = .ok settings ↔
        ∃ document, parser text = some document ∧ settings.WrittenIn document
  accepted :
    ∀ text,
      (∃ settings, ofTextBy parser text = .ok settings) ↔
        ∃ document,
          parser text = some document ∧
            ∀ key ∈ tableKeys, ∀ value, (key, value) ∈ document → value.IsDirectiveTable
  reported :
    ∀ text,
      (∀ settings, ofTextBy parser text ≠ .ok settings) →
        ofTextBy parser text = .error (.configuration .malformedDocument)
  refusedByEntry :
    ∀ text document,
      parser text = some document →
        ∀ key ∈ tableKeys, ∀ entries, (key, .table entries) ∈ document →
          ∀ name value, (name, value) ∈ entries →
            (∀ directive : Directive, value ≠ directive.toValue) →
              ofTextBy parser text = .error (.configuration .malformedDocument)
  sameTables :
    ∀ text other document otherDocument,
      parser text = some document →
        parser other = some otherDocument →
          (∀ key ∈ tableKeys, Toml.AgreeUnder key document otherDocument) →
            ofTextBy parser other = ofTextBy parser text
  ordersFit :
    ∀ text settings,
      ofTextBy parser text = .ok settings →
        ∀ table ∈ [settings.base, settings.user], ∀ name order,
          table.get? name = some (.order order) → Toml.fits order

/-- By whatever parser: all that counts is that the documents it gives are well formed. -/
theorem readsTables_of_givesWellFormed
    {parser : String → Option Toml.Document}
    (wellFormed : Toml.GivesWellFormed parser) :
    ReadsTables parser where
  written _ _ := ofTextBy_eq_ok_iff wellFormed
  accepted _ := exists_ofTextBy_eq_ok_iff wellFormed
  reported _ := ofTextBy_eq_error
  refusedByEntry _ _ parses _ isTable _ present _ _ :=
    ofTextBy_eq_error_of_entry wellFormed parses isTable present
  sameTables _ _ _ _ := ofTextBy_eq_of_agreeUnder wellFormed
  ordersFit _ _ := fits_of_ofTextBy_eq_ok wellFormed

/-- A header or a dotted key that leads into a table of settings, past a name, refuses the text. -/
theorem ofText_eq_error_of_tablePath
    {text : String}
    {read : List Toml.Statement}
    {rest : List Char}
    (reads : Toml.statements text.toList = some (read, rest))
    {path : List String}
    (leads : path ∈ Toml.tablePaths [] read)
    {key name : String}
    (isTable : key ∈ tableKeys)
    (goesPast : [key, name] <+: path) :
    ofText text = .error (.configuration .malformedDocument) := by
  apply ofTextBy_eq_error
  intro settings gives
  obtain ⟨document, parses, tables⟩ :=
    (exists_ofTextBy_eq_ok_iff Toml.givesWellFormed_parse?).mp ⟨settings, gives⟩
  obtain ⟨⟨_, _⟩, readsToo, obeys⟩ := Option.bind_eq_some_iff.mp parses
  obtain ⟨rfl, rfl⟩ := Option.some.inj (reads.symm.trans readsToo)
  obtain ⟨draft, builds, same⟩ := Option.bind_eq_some_iff.mp obeys
  obtain rfl := Option.some.inj same
  have nests : draft.root.Nests path := (Toml.Draft.nests_of_foldlM_obey builds).2 path leads
  have nestsName : draft.root.Nests [key, name] := nests.of_isPrefix goesPast
  obtain ⟨value, present, nested⟩ := nestsName.exists_mem_toEntries
  obtain ⟨entries, rfl, accepted⟩ := tables key isTable value present
  obtain ⟨inner, member, isNested⟩ := nested entries rfl
  obtain ⟨directive, states⟩ := accepted _ member
  rcases isNested with ⟨_, isTable⟩ | ⟨_, isArray⟩
  · exact directive.toValue_ne_table (states.symm.trans isTable)
  · exact directive.toValue_ne_array (states.symm.trans isArray)

/-- Only a middleware in force that is merely switched on refuses settings. -/
theorem exists_switch_of_activeNames_eq_error
    {settings : Settings}
    {failure : Failure}
    (refused : settings.activeNames = .error failure) :
    ∃ name,
      settings.directive? name = some (.switch true) ∧
        failure = .configuration (.missingOrder name) := by
  have resolves := settings.resolves_activeNames
  rw [refused] at resolves
  cases resolves with
  | refused enabled first reported shown => exact ⟨_, enabled, reported⟩

/--
A text gives settings exactly if it is a document in which each of the two tables, where it
is present, has only integers and truth values. They are the settings written there, so
other keys and the order of keys do not count. Every other text is reported as malformed:
one value of another kind in either table is enough, and so is one header or dotted key
that leads to a table within. Settings that are given have orders of 64 bits, and they can
only be refused later for a middleware in force that is merely switched on.
-/
theorem ofText_reads_two_tables (text : String) :
    (∀ settings,
      ofText text = .ok settings ↔
        ∃ document, Toml.parse? text = some document ∧ settings.WrittenIn document) ∧
      ((∃ settings, ofText text = .ok settings) ↔
        ∃ document,
          Toml.parse? text = some document ∧
            ∀ key ∈ tableKeys, ∀ value, (key, value) ∈ document → value.IsDirectiveTable) ∧
      ((∀ settings, ofText text ≠ .ok settings) →
        ofText text = .error (.configuration .malformedDocument)) ∧
      (∀ document,
        Toml.parse? text = some document →
          (∀ key ∈ tableKeys, ∀ entries, (key, .table entries) ∈ document →
            ∀ name value, (name, value) ∈ entries →
              (∀ directive : Directive, value ≠ directive.toValue) →
                ofText text = .error (.configuration .malformedDocument)) ∧
            ∀ other otherDocument,
              Toml.parse? other = some otherDocument →
                (∀ key ∈ tableKeys, Toml.AgreeUnder key document otherDocument) →
                  ofText other = ofText text) ∧
      (∀ read rest,
        Toml.statements text.toList = some (read, rest) →
          ∀ path ∈ Toml.tablePaths [] read, ∀ key ∈ tableKeys, ∀ name,
            [key, name] <+: path → ofText text = .error (.configuration .malformedDocument)) ∧
      ∀ settings,
        ofText text = .ok settings →
          (∀ table ∈ [settings.base, settings.user], ∀ name order,
            table.get? name = some (.order order) → Toml.fits order) ∧
            ∀ failure,
              settings.activeNames = .error failure →
                ∃ name,
                  settings.directive? name = some (.switch true) ∧
                    failure = .configuration (.missingOrder name) := by
  have readsTables := readsTables_of_givesWellFormed Toml.givesWellFormed_parse?
  refine
    ⟨readsTables.written text, readsTables.accepted text, readsTables.reported text, ?documents,
      ?paths, ?accepted⟩
  case documents =>
    intro document parses
    refine ⟨readsTables.refusedByEntry text document parses, ?_⟩
    intro other otherDocument
    exact readsTables.sameTables text other document otherDocument parses
  case paths =>
    intro read rest reads path leads key isTable name
    exact ofText_eq_error_of_tablePath reads leads isTable
  case accepted =>
    intro settings gives
    refine ⟨readsTables.ordersFit text settings gives, ?_⟩
    intro failure
    exact exists_switch_of_activeNames_eq_error

end Settings

namespace Sample

/-- A text with a user table of an order and a switch. -/
def listing : String :=
  "[downloader_middlewares]\nAuth = 100\nRetry = false\n"

/-- A text that writes the same table with dotted keys, in another order, after another key. -/
def relisting : String :=
  "rate = 1.5\ndownloader_middlewares.Retry = false\ndownloader_middlewares.\"Auth\" = 0x64\n"

/-- A text whose base table has a nested table, for a middleware that the user table disables. -/
def nesting : String :=
  "[downloader_middlewares_base]\nAuth.order = 1\n[downloader_middlewares]\nAuth = false\n"

/-- A text with a header for a table within the user table. -/
def heading : String :=
  "[downloader_middlewares.Auth]\norder = 1\n"

theorem parse?_listing :
    Toml.parse? listing =
      some
        [("downloader_middlewares",
          .table [("Auth", .integer 100), ("Retry", .boolean false)])] := by
  cbv

theorem parse?_relisting :
    Toml.parse? relisting =
      some
        [("rate", .float "1.5"),
          ("downloader_middlewares",
            .table [("Retry", .boolean false), ("Auth", .integer 100)])] := by
  have reads :
      Toml.statements relisting.toList =
        some
          ([.assignment ⟨[], "rate"⟩ (.float "1.5"),
            .assignment ⟨["downloader_middlewares"], "Retry"⟩ (.boolean false),
            .assignment ⟨["downloader_middlewares"], "Auth"⟩ (.integer 100)],
          []) := by
    cbv
  rw [Toml.parse?, reads]
  rfl

theorem parse?_nesting :
    Toml.parse? nesting =
      some
        [("downloader_middlewares_base", .table [("Auth", .table [("order", .integer 1)])]),
          ("downloader_middlewares", .table [("Auth", .boolean false)])] := by
  have reads :
      Toml.statements nesting.toList =
        some
          ([.tableHeader ⟨[], "downloader_middlewares_base"⟩,
            .assignment ⟨["Auth"], "order"⟩ (.integer 1),
            .tableHeader ⟨[], "downloader_middlewares"⟩,
            .assignment ⟨[], "Auth"⟩ (.boolean false)],
          []) := by
    cbv
  rw [Toml.parse?, reads]
  rfl

theorem statements_heading :
    Toml.statements heading.toList =
      some
        ([.tableHeader ⟨["downloader_middlewares"], "Auth"⟩,
          .assignment ⟨[], "order"⟩ (.integer 1)],
        []) := by
  cbv

end Sample

/--
An order in another notation, dotted keys, another order of them and a key that means nothing
to settings leave the settings as they are. A nested table in the base table refuses the text,
even if the user table disables its middleware, and so does a header for one.
-/
theorem Settings.ofText_reads_two_tables_reordered :
    ofText Sample.listing = .ok ⟨.empty, .ofList [("Auth", .order 100), ("Retry", .switch false)]⟩ ∧
      ofText Sample.relisting = ofText Sample.listing ∧
      ofText Sample.nesting = .error (.configuration .malformedDocument) ∧
      ofText Sample.heading = .error (.configuration .malformedDocument) := by
  obtain ⟨gives, _, _, documents, _⟩ := ofText_reads_two_tables Sample.listing
  obtain ⟨_, _, _, nestingDocuments, _⟩ := ofText_reads_two_tables Sample.nesting
  obtain ⟨_, _, _, _, headingPaths, _⟩ := ofText_reads_two_tables Sample.heading
  refine ⟨(gives _).mpr ⟨_, Sample.parse?_listing, ?written⟩, ?unchanged, ?refused, ?headed⟩
  case written =>
    have wellFormed := Toml.wellFormed_of_parse?_eq_some Sample.parse?_listing
    exact (ofDocument?_eq_some_iff wellFormed).mp rfl
  case unchanged =>
    refine (documents _ Sample.parse?_listing).2 _ _ Sample.parse?_relisting ?_
    rw [tableKeys, List.forall_mem_cons, List.forall_mem_singleton]
    refine ⟨?baseTable, ?userTable⟩
    case baseTable => constructor <;> simp [baseTableKey]
    case userTable =>
      constructor
      all_goals
        intro value member
        obtain rfl : value = _ := by simpa [userTableKey] using member
        exact ⟨_, by simp [userTableKey], .reordered (.swap _ _ [])⟩
  case refused =>
    refine
      (nestingDocuments _ Sample.parse?_nesting).1 baseTableKey List.mem_cons_self _
        List.mem_cons_self "Auth" _ List.mem_cons_self ?_
    exact fun directive => directive.toValue_ne_table.symm
  case headed =>
    refine
      headingPaths _ _ Sample.statements_heading ["downloader_middlewares", "Auth"]
        List.mem_cons_self userTableKey ?_ "Auth" List.prefix_rfl
    exact List.mem_cons_of_mem _ List.mem_cons_self

end Middleware
