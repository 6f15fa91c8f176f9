namespace Middleware

/-!
# Dictionaries keyed by name

A dictionary is an association list in strictly ascending name order, so two
dictionaries with the same content are equal values and listing one is listing
it in name order. Names are ordered by code point.

`get?_insert` and `get?_overlay` say what the two ways to change a dictionary
do to its look-ups; `ext_get?` says that look-ups determine a dictionary.
-/

/-- A finite map from names to values, listed in strictly ascending name order. -/
structure Dictionary (α : Type) where
  entries : List (String × α)
  ascending :
    entries.Pairwise fun earlier later => earlier.1 < later.1
deriving DecidableEq

namespace Dictionary

variable {α : Type}

/-- The dictionary without entries. -/
def empty : Dictionary α :=
  ⟨[], .nil⟩

instance : Inhabited (Dictionary α) :=
  ⟨empty⟩

/-- Look a name up in an association list. -/
def find?
    (name : String) :
    List (String × α) →
    Option α
  | [] => none
  | entry :: rest =>
      if entry.1 = name then some entry.2 else find? name rest

/-- Put a value under a name, at the name's place in ascending order. -/
def place
    (name : String)
    (value : α) :
    List (String × α) →
    List (String × α)
  | [] => [(name, value)]
  | entry :: rest =>
      if name < entry.1 then
        (name, value) :: entry :: rest
      else if entry.1 < name then
        entry :: place name value rest
      else
        (name, value) :: rest

/-- Neither of two names precedes the other only if they are equal. -/
theorem eq_of_not_lt
    {left right : String}
    (notBefore : ¬ left < right)
    (notAfter : ¬ right < left) :
    left = right :=
  String.le_antisymm (String.not_lt.1 notAfter) (String.not_lt.1 notBefore)

/-- The entries after a placement are the placed one and old ones. -/
theorem mem_place
    {name : String}
    {value : α}
    {entry : String × α}
    {entries : List (String × α)}
    (member : entry ∈ place name value entries) :
    entry = (name, value) ∨ entry ∈ entries := by
  induction entries with
  | nil => simpa [place] using member
  | cons head rest inductionHypothesis =>
      unfold place at member
      split at member
      · simpa using member
      · split at member
        · rcases List.mem_cons.1 member with rfl | deeper
          · exact .inr List.mem_cons_self
          · rcases inductionHypothesis deeper with found | found
            · exact .inl found
            · exact .inr (List.mem_cons_of_mem _ found)
        · rcases List.mem_cons.1 member with rfl | deeper
          · exact .inl rfl
          · exact .inr (List.mem_cons_of_mem _ deeper)

/-- Placement keeps names strictly ascending. -/
theorem pairwise_place
    (name : String)
    (value : α)
    {entries : List (String × α)}
    (ascending : entries.Pairwise fun earlier later => earlier.1 < later.1) :
    (place name value entries).Pairwise
      fun earlier later => earlier.1 < later.1 := by
  induction entries with
  | nil => simp [place]
  | cons head rest inductionHypothesis =>
      obtain ⟨headFirst, restAscending⟩ := List.pairwise_cons.1 ascending
      unfold place
      split
      · rename_i before
        refine List.pairwise_cons.2 ⟨?_, ascending⟩
        intro entry member
        rcases List.mem_cons.1 member with rfl | deeper
        · exact before
        · exact String.lt_trans before (headFirst entry deeper)
      · rename_i notBefore
        split
        · rename_i after
          refine List.pairwise_cons.2 ⟨?_, inductionHypothesis restAscending⟩
          intro entry member
          rcases mem_place member with rfl | deeper
          · exact after
          · exact headFirst entry deeper
        · rename_i notAfter
          refine List.pairwise_cons.2 ⟨?_, restAscending⟩
          intro entry member
          exact eq_of_not_lt notBefore notAfter ▸ headFirst entry member

/-- A look-up after a placement. -/
theorem find?_place
    (name other : String)
    (value : α)
    {entries : List (String × α)}
    (ascending : entries.Pairwise fun earlier later => earlier.1 < later.1) :
    find? other (place name value entries) =
      if name = other then some value else find? other entries := by
  induction entries with
  | nil => rfl
  | cons head rest inductionHypothesis =>
      obtain ⟨-, restAscending⟩ := List.pairwise_cons.1 ascending
      unfold place
      split
      · rfl
      · rename_i notBefore
        split
        · rename_i after
          by_cases same : head.1 = other
          · have different : name ≠ other := by
              rintro rfl
              exact String.lt_irrefl _ (same ▸ after)
            simp [find?, same, different]
          · simp [find?, same, inductionHypothesis restAscending]
        · rename_i notAfter
          have same := eq_of_not_lt notBefore notAfter
          by_cases found : name = other
          · simp [find?, found]
          · simp [find?, found, ← same]

/-- The value under a name. -/
def get?
    (dictionary : Dictionary α)
    (name : String) :
    Option α :=
  find? name dictionary.entries

/-- Put a value under a name, in place of an earlier one. -/
def insert
    (dictionary : Dictionary α)
    (name : String)
    (value : α) :
    Dictionary α :=
  ⟨place name value dictionary.entries,
    pairwise_place name value dictionary.ascending⟩

/-- Collect pairs in order; of two pairs with one name the later is kept. -/
def ofList
    (pairs : List (String × α)) :
    Dictionary α :=
  pairs.foldl (fun dictionary pair => dictionary.insert pair.1 pair.2) empty

/-- Lay one dictionary over another: its entries win. -/
def overlay
    (upper lower : Dictionary α) :
    Dictionary α :=
  upper.entries.foldl
    (fun dictionary entry => dictionary.insert entry.1 entry.2)
    lower

@[simp] theorem get?_empty
    (name : String) :
    (empty : Dictionary α).get? name = none :=
  rfl

/-- An insertion changes the look-up of the inserted name only. -/
theorem get?_insert
    (dictionary : Dictionary α)
    (name other : String)
    (value : α) :
    (dictionary.insert name value).get? other =
      if name = other then some value else dictionary.get? other :=
  find?_place name other value dictionary.ascending

/-- A name smaller than every listed name is not found. -/
theorem find?_eq_none_of_lt
    {name : String}
    {entries : List (String × α)}
    (above : ∀ entry ∈ entries, name < entry.1) :
    find? name entries = none := by
  induction entries with
  | nil => rfl
  | cons head rest inductionHypothesis =>
      have different : head.1 ≠ name := by
        intro same
        exact String.lt_irrefl _ (same ▸ above head List.mem_cons_self)
      simp only [find?, different, if_false]
      exact inductionHypothesis fun entry member =>
        above entry (List.mem_cons_of_mem _ member)

/-- In strictly ascending entries a listed pair is what its name looks up. -/
theorem find?_eq_some_iff
    {name : String}
    {value : α}
    {entries : List (String × α)}
    (ascending : entries.Pairwise fun earlier later => earlier.1 < later.1) :
    find? name entries = some value ↔ (name, value) ∈ entries := by
  induction entries with
  | nil => simp [find?]
  | cons head rest inductionHypothesis =>
      obtain ⟨headFirst, restAscending⟩ := List.pairwise_cons.1 ascending
      by_cases same : head.1 = name
      · subst same
        have absent : (head.1, value) ∉ rest := fun member =>
          String.lt_irrefl _ (headFirst (head.1, value) member)
        obtain ⟨headName, headValue⟩ := head
        simp only [find?, if_true, Option.some.injEq, List.mem_cons, Prod.mk.injEq,
          true_and, absent, or_false]
        exact eq_comm
      · have differs : (name, value) ≠ head := by
          rintro rfl
          exact same rfl
        simp [find?, same, differs, inductionHypothesis restAscending]

/-- Folding entries in gives each listed name its listed value. -/
theorem get?_foldl_insert
    {entries : List (String × α)}
    (ascending : entries.Pairwise fun earlier later => earlier.1 < later.1)
    (lower : Dictionary α)
    (name : String) :
    (entries.foldl
        (fun dictionary entry => dictionary.insert entry.1 entry.2)
        lower).get? name =
      (find? name entries).or (lower.get? name) := by
  induction entries generalizing lower with
  | nil => simp [find?]
  | cons head rest inductionHypothesis =>
      obtain ⟨headFirst, restAscending⟩ := List.pairwise_cons.1 ascending
      rw [List.foldl_cons, inductionHypothesis restAscending, get?_insert]
      by_cases same : head.1 = name
      · subst same
        simp [find?, find?_eq_none_of_lt headFirst]
      · simp [find?, same]

/-- A look-up in an overlay asks the upper dictionary first. -/
theorem get?_overlay
    (upper lower : Dictionary α)
    (name : String) :
    (upper.overlay lower).get? name =
      (upper.get? name).or (lower.get? name) :=
  get?_foldl_insert upper.ascending lower name

/-- Inserting pairs one after another gives each of their names its last value. -/
theorem get?_foldl_insert_pairs
    (pairs : List (String × α))
    (lower : Dictionary α)
    (name : String) :
    (pairs.foldl (fun dictionary pair => dictionary.insert pair.1 pair.2) lower).get? name =
      ((pairs.reverse.find? fun pair => pair.1 = name).map (·.2)).or (lower.get? name) := by
  induction pairs generalizing lower with
  | nil => rfl
  | cons head rest inductionHypothesis =>
      rw [List.foldl_cons, inductionHypothesis, get?_insert, List.reverse_cons, List.find?_append]
      cases rest.reverse.find? fun pair => pair.1 = name with
      | some pair => rfl
      | none => by_cases same : head.1 = name <;> simp [same]

/-- A look-up among collected pairs finds the last pair of the name. -/
theorem get?_ofList
    (pairs : List (String × α))
    (name : String) :
    (ofList pairs).get? name = (pairs.reverse.find? fun pair => pair.1 = name).map (·.2) := by
  rw [ofList, get?_foldl_insert_pairs, get?_empty, Option.or_none]

/-- A pair is listed exactly if its name looks it up. -/
theorem mem_entries_iff
    (dictionary : Dictionary α)
    {name : String}
    {value : α} :
    (name, value) ∈ dictionary.entries ↔ dictionary.get? name = some value :=
  (find?_eq_some_iff dictionary.ascending).symm

/-- Strictly ascending lists with the same members are equal. -/
theorem eq_of_mem_iff
    {left right : List (String × α)}
    (leftAscending : left.Pairwise fun earlier later => earlier.1 < later.1)
    (rightAscending : right.Pairwise fun earlier later => earlier.1 < later.1)
    (sameMembers : ∀ entry, entry ∈ left ↔ entry ∈ right) :
    left = right := by
  induction left generalizing right with
  | nil =>
      cases right with
      | nil => rfl
      | cons head rest => exact absurd ((sameMembers head).2 List.mem_cons_self) (by simp)
  | cons leftHead leftRest inductionHypothesis =>
      cases right with
      | nil => exact absurd ((sameMembers leftHead).1 List.mem_cons_self) (by simp)
      | cons rightHead rightRest =>
          obtain ⟨leftFirst, leftRestAscending⟩ := List.pairwise_cons.1 leftAscending
          obtain ⟨rightFirst, rightRestAscending⟩ := List.pairwise_cons.1 rightAscending
          have sameHead : leftHead = rightHead := by
            have leftMember := (sameMembers leftHead).1 List.mem_cons_self
            have rightMember := (sameMembers rightHead).2 List.mem_cons_self
            rcases List.mem_cons.1 leftMember with same | inRight
            · exact same
            · rcases List.mem_cons.1 rightMember with same | inLeft
              · exact same.symm
              · exact absurd (rightFirst _ inRight) (String.lt_asymm (leftFirst _ inLeft))
          subst sameHead
          refine congrArg _ (inductionHypothesis leftRestAscending rightRestAscending ?_)
          intro entry
          constructor
          · intro member
            have transferred := (sameMembers entry).1 (List.mem_cons_of_mem _ member)
            rcases List.mem_cons.1 transferred with rfl | found
            · exact absurd (leftFirst _ member) (String.lt_irrefl _)
            · exact found
          · intro member
            have transferred := (sameMembers entry).2 (List.mem_cons_of_mem _ member)
            rcases List.mem_cons.1 transferred with rfl | found
            · exact absurd (rightFirst _ member) (String.lt_irrefl _)
            · exact found

/-- Two dictionaries with the same look-ups are equal. -/
theorem ext_get?
    {left right : Dictionary α}
    (sameLookups : ∀ name, left.get? name = right.get? name) :
    left = right := by
  obtain ⟨leftEntries, leftAscending⟩ := left
  obtain ⟨rightEntries, rightAscending⟩ := right
  have sameEntries : leftEntries = rightEntries := by
    refine eq_of_mem_iff leftAscending rightAscending ?_
    rintro ⟨name, value⟩
    rw [← find?_eq_some_iff leftAscending, ← find?_eq_some_iff rightAscending]
    have sameFound : find? name leftEntries = find? name rightEntries :=
      sameLookups name
    rw [sameFound]
  subst sameEntries
  rfl

end Dictionary

end Middleware
