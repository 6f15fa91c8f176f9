import Mathlib.Data.List.Forall2
import Middleware.Message.Headers

namespace Middleware

/-!
# Looking headers up

A look-up finds the first field whose name is the one wanted, up to the case of ASCII
letters and of no others. So it takes names for the same that differ in such cases only,
and a field that is added later does not change what it finds.
-/

namespace Headers

/-- Two characters that are the same, or the two cases of one ASCII letter. -/
inductive SameLetter : Char → Char → Prop where
  | same (c : Char) :
      SameLetter c c
  | lowered
      {upper lower : Char}
      (capital : upper.isUpper)
      (apart : lower.toNat = upper.toNat + 32) :
      SameLetter upper lower
  | raised
      {lower upper : Char}
      (capital : upper.isUpper)
      (apart : lower.toNat = upper.toNat + 32) :
      SameLetter lower upper

/-- Two names of the same characters, up to the case of ASCII letters. -/
def SameUpToCase (left right : String) : Prop :=
  List.Forall₂ SameLetter left.toList right.toList

theorem isUpper_iff {c : Char} : c.isUpper ↔ 65 ≤ c.toNat ∧ c.toNat ≤ 90 := by
  change decide (c.val ≥ 'A'.val ∧ c.val ≤ 'Z'.val) = true ↔ _
  rw [decide_eq_true_eq, ge_iff_le, UInt32.le_iff_toNat_le, UInt32.le_iff_toNat_le]
  exact Iff.rfl

/-- Folding moves the capital ASCII letters, and no other character. -/
theorem toNat_toLower (c : Char) :
    c.toLower.toNat = if c.isUpper then c.toNat + 32 else c.toNat := by
  by_cases capital : c.isUpper
  · have bounds := isUpper_iff.mp capital
    have isCapital : c.val ≥ 'A'.val ∧ c.val ≤ 'Z'.val := of_decide_eq_true capital
    have folded : c.toLower.val = c.val + 32 := congrArg Char.val (dif_pos isCapital)
    have small : c.val.toNat + 32 < 2 ^ 32 := by
      have := bounds.2
      change c.val.toNat ≤ 90 at this
      omega
    rw [if_pos capital, ← Char.toNat_val, ← Char.toNat_val, folded, UInt32.toNat_add]
    exact Nat.mod_eq_of_lt small
  · have notCapital : ¬ (c.val ≥ 'A'.val ∧ c.val ≤ 'Z'.val) := by
      intro isCapital
      exact capital (decide_eq_true isCapital)
    have kept : c.toLower = c := dif_neg notCapital
    rw [kept, if_neg capital]

/-- Characters that are folded to one are the same, or the two cases of one letter. -/
theorem toLower_eq_toLower_iff {left right : Char} :
    left.toLower = right.toLower ↔ SameLetter left right := by
  rw [← Char.toNat_inj, toNat_toLower, toNat_toLower]
  constructor
  · intro sameFolded
    by_cases leftCapital : left.isUpper <;> by_cases rightCapital : right.isUpper
    · rw [if_pos leftCapital, if_pos rightCapital] at sameFolded
      obtain rfl : left = right := Char.toNat_inj.mp (by omega)
      exact .same left
    · rw [if_pos leftCapital, if_neg rightCapital] at sameFolded
      exact .lowered leftCapital sameFolded.symm
    · rw [if_neg leftCapital, if_pos rightCapital] at sameFolded
      exact .raised rightCapital sameFolded
    · rw [if_neg leftCapital, if_neg rightCapital] at sameFolded
      obtain rfl := Char.toNat_inj.mp sameFolded
      exact .same left
  · have notCapital :
        ∀ {upper lower : Char},
          upper.isUpper → lower.toNat = upper.toNat + 32 → ¬ lower.isUpper := by
      intro upper lower capital apart
      rw [isUpper_iff] at capital ⊢
      omega
    intro sameLetter
    cases sameLetter with
    | same => rfl
    | lowered capital apart =>
        rw [if_pos capital, if_neg (notCapital capital apart), apart]
    | raised capital apart =>
        rw [if_pos capital, if_neg (notCapital capital apart), apart]

/-- Names are taken for the same exactly up to the case of ASCII letters. -/
theorem sameName_iff {left right : String} :
    sameName left right ↔ SameUpToCase left right := by
  rw [sameName, beq_iff_eq, folded, folded, SameUpToCase, ← List.forall₂_eq_eq_eq,
    List.forall₂_map_left_iff, List.forall₂_map_right_iff]
  simp only [toLower_eq_toLower_iff]

/-- What the first field with a name has for its value, up to the case of ASCII letters. -/
inductive Finds
    (fields : List (String × String))
    (name : String) :
    Option String → Prop where
  | first
      {before after : List (String × String)}
      {given value : String}
      (fields_eq : fields = before ++ (given, value) :: after)
      (matching : SameUpToCase given name)
      (noneBefore : ∀ field ∈ before, ¬ SameUpToCase field.1 name) :
      Finds fields name (some value)
  | absent
      (noneAtAll : ∀ field ∈ fields, ¬ SameUpToCase field.1 name) :
      Finds fields name none

/-- A look-up finds what stands in the first field with the name. -/
theorem get?_eq_iff_finds
    (headers : Headers)
    (name : String)
    (found : Option String) :
    headers.get? name = found ↔ Finds headers.fields name found := by
  constructor
  · rintro rfl
    rw [get?]
    cases search : headers.fields.find? fun field => sameName field.1 name with
    | none =>
        refine .absent fun field member => ?_
        rw [← sameName_iff]
        exact List.find?_eq_none.mp search field member
    | some field =>
        obtain ⟨matching, before, after, split, noneBefore⟩ :=
          List.find?_eq_some_iff_append.mp search
        refine .first split (sameName_iff.mp matching) fun earlier member => ?_
        rw [← sameName_iff]
        simpa using noneBefore earlier member
  · intro finds
    cases finds with
    | @first before after given value split matching noneBefore =>
        have search :
            (headers.fields.find? fun field => sameName field.1 name) = some (given, value) := by
          refine List.find?_eq_some_iff_append.mpr
            ⟨sameName_iff.mpr matching, before, after, split, ?_⟩
          intro earlier member
          have differs := noneBefore earlier member
          rw [← sameName_iff] at differs
          simpa using differs
        rw [get?, search]
        rfl
    | absent noneAtAll =>
        have search : (headers.fields.find? fun field => sameName field.1 name) = none := by
          refine List.find?_eq_none.mpr fun field member => ?_
          rw [sameName_iff]
          exact noneAtAll field member
        rw [get?, search]
        rfl

/-- Names that are the same up to the case of ASCII letters find the same. -/
theorem get?_eq_of_sameUpToCase
    (headers : Headers)
    {name variant : String}
    (sameUpToCase : SameUpToCase name variant) :
    headers.get? variant = headers.get? name := by
  have sameFolded : folded name = folded variant := by
    simpa [sameName] using sameName_iff.mpr sameUpToCase
  simp only [get?, sameName, sameFolded]

/-- Fields after one with the name do not change what is found. -/
theorem get?_eq_of_isSome
    {headers extended : Headers}
    {later : List (String × String)}
    (longer : extended.fields = headers.fields ++ later)
    {name : String}
    (found : (headers.get? name).isSome) :
    extended.get? name = headers.get? name := by
  rw [get?, Option.isSome_map] at found
  rw [get?, longer, List.find?_append, Option.or_of_isSome found]
  rfl

end Headers

end Middleware
