import Mathlib.Algebra.Group.Nat.Defs

namespace Middleware

/-!
# The order of texts by their bytes

Texts are ordered by code point. In UTF-8 this is the order of their bytes: of two
different characters the one with the smaller code point has the smaller bytes,
whatever follows either of them.
-/

namespace Text

/-- The bytes of a text in UTF-8. -/
def bytes (text : String) : List UInt8 :=
  text.toUTF8.data.toList

/-- The bytes of a text are those of its characters, one after another. -/
theorem bytes_eq_flatMap (text : String) :
    bytes text = text.toList.flatMap String.utf8EncodeChar := by
  have encoded : text.toUTF8 = text.toList.utf8Encode := String.utf8Encode_toList.symm
  rw [bytes, encoded, List.utf8Encode, List.toList_data_toByteArray]

/-- The bytes behind a leading byte, which write the last digits of a code point in base 64. -/
def following : Nat → Nat → List UInt8
  | 0, _ => []
  | count + 1, point => .ofNat (point / 64 ^ count % 64 + 128) :: following count point

/-- Numbers are compared by their high parts and then, if these are the same, by their low parts. -/
theorem div_lt_or_mod_lt
    {left right : Nat}
    (less : left < right)
    (base : Nat) :
    left / base < right / base ∨ left / base = right / base ∧ left % base < right % base := by
  have high : left / base ≤ right / base := Nat.div_le_div_right (Nat.le_of_lt less)
  rcases Nat.lt_or_eq_of_le high with lessHigh | sameHigh
  · exact .inl lessHigh
  · refine .inr ⟨sameHigh, ?_⟩
    rw [← Nat.div_add_mod left base, ← Nat.div_add_mod right base, sameHigh] at less
    exact Nat.lt_of_add_lt_add_left less

/-- Bytes are compared one by one, as the numbers that they are made of if these fit. -/
theorem ofNat_cons_lt
    {left right : Nat}
    {leftRest rightRest : List UInt8}
    (fits : right < 256)
    (less : left < right ∨ left = right ∧ leftRest < rightRest) :
    UInt8.ofNat left :: leftRest < UInt8.ofNat right :: rightRest := by
  rw [List.cons_lt_cons_iff, UInt8.lt_iff_toNat_lt, UInt8.toNat_ofNat', UInt8.toNat_ofNat',
    Nat.mod_eq_of_lt fits]
  rcases less with lessFirst | ⟨rfl, lessRest⟩
  · rw [Nat.mod_eq_of_lt (Nat.lt_trans lessFirst fits)]
    exact .inl lessFirst
  · exact .inr ⟨rfl, lessRest⟩

/-- Of two numbers the last digits of the smaller one come first, if they are the smaller ones. -/
theorem following_append_lt
    (count : Nat)
    {left right : Nat}
    (less : left % 64 ^ count < right % 64 ^ count)
    (leftRest rightRest : List UInt8) :
    following count left ++ leftRest < following count right ++ rightRest := by
  induction count with
  | zero => omega
  | succ count inductionHypothesis =>
      have digits := div_lt_or_mod_lt less (64 ^ count)
      simp only [Nat.pow_succ, Nat.mod_mul_right_div_self, Nat.mod_mul_right_mod] at digits
      refine ofNat_cons_lt (by omega) ?_
      rcases digits with first | ⟨sameFirst, later⟩
      · exact .inl (Nat.add_lt_add_right first 128)
      · exact .inr ⟨by rw [sameFirst], inductionHypothesis later⟩

/-- A code point is written by a leading byte, which tells how many bytes follow it. -/
inductive IsWritten (point : Nat) : List UInt8 → Prop where
  | alone (below : point < 0x80) :
      IsWritten point (.ofNat point :: following 0 point)
  | followed
      (above : 0x80 ≤ point)
      (below : point < 0x800) :
      IsWritten point (.ofNat (point / 64 ^ 1 + 0xc0) :: following 1 point)
  | followedByTwo
      (above : 0x800 ≤ point)
      (below : point < 0x10000) :
      IsWritten point (.ofNat (point / 64 ^ 2 + 0xe0) :: following 2 point)
  | followedByThree
      (above : 0x10000 ≤ point)
      (below : point < 0x110000) :
      IsWritten point (.ofNat (point / 64 ^ 3 + 0xf0) :: following 3 point)

theorem isWritten_utf8EncodeChar (character : Char) :
    IsWritten character.val.toNat (String.utf8EncodeChar character) := by
  have bounded : character.val.toNat < 0x110000 := by
    rcases character.valid with low | ⟨_, high⟩
    · exact Nat.lt_trans low (by decide)
    · exact high
  unfold String.utf8EncodeChar
  simp only
  generalize character.val.toNat = point at bounded ⊢
  split
  · exact .alone (by omega)
  · split
    · rw [Nat.mod_eq_of_lt (show point / 64 < 0x20 by omega)]
      have written : IsWritten point _ := .followed (by omega) (by omega)
      simpa [following] using written
    · split
      · rw [Nat.mod_eq_of_lt (show point / 4096 < 0x10 by omega)]
        have written : IsWritten point _ := .followedByTwo (by omega) (by omega)
        simpa [following] using written
      · rw [Nat.mod_eq_of_lt (show point / 262144 < 0x08 by omega)]
        have written : IsWritten point _ := .followedByThree (by omega) bounded
        simpa [following] using written

/-- The bytes of a smaller code point come before those of a greater one. -/
theorem IsWritten.append_lt
    {left right : Nat}
    {leftBytes rightBytes : List UInt8}
    (leftWritten : IsWritten left leftBytes)
    (rightWritten : IsWritten right rightBytes)
    (less : left < right)
    (leftRest rightRest : List UInt8) :
    leftBytes ++ leftRest < rightBytes ++ rightRest := by
  -- As many bytes follow on both sides: the digits decide, from the first one on.
  have sameLength :
      ∀ count offset,
        right / 64 ^ count + offset < 256 →
          (.ofNat (left / 64 ^ count + offset) :: following count left) ++ leftRest <
            (.ofNat (right / 64 ^ count + offset) :: following count right) ++ rightRest := by
    intro count offset fits
    refine ofNat_cons_lt fits ?_
    rcases div_lt_or_mod_lt less (64 ^ count) with high | ⟨sameHigh, low⟩
    · exact .inl (Nat.add_lt_add_right high offset)
    · exact .inr ⟨by rw [sameHigh], following_append_lt count low leftRest rightRest⟩
  cases leftWritten with
  | alone leftBelow =>
      cases rightWritten with
      | alone rightBelow => exact ofNat_cons_lt (by omega) (.inl less)
      | followed above below => exact ofNat_cons_lt (by omega) (.inl (by omega))
      | followedByTwo above below => exact ofNat_cons_lt (by omega) (.inl (by omega))
      | followedByThree above below => exact ofNat_cons_lt (by omega) (.inl (by omega))
  | followed leftAbove leftBelow =>
      cases rightWritten with
      | alone below => omega
      | followed above below => exact sameLength 1 _ (by omega)
      | followedByTwo above below => exact ofNat_cons_lt (by omega) (.inl (by omega))
      | followedByThree above below => exact ofNat_cons_lt (by omega) (.inl (by omega))
  | followedByTwo leftAbove leftBelow =>
      cases rightWritten with
      | alone below => omega
      | followed above below => omega
      | followedByTwo above below => exact sameLength 2 _ (by omega)
      | followedByThree above below => exact ofNat_cons_lt (by omega) (.inl (by omega))
  | followedByThree leftAbove leftBelow =>
      cases rightWritten with
      | alone below => omega
      | followed above below => omega
      | followedByTwo above below => omega
      | followedByThree above below => exact sameLength 3 _ (by omega)

/-- Bytes of smaller texts come first. -/
theorem flatMap_utf8EncodeChar_lt
    {left right : List Char}
    (less : left < right) :
    left.flatMap String.utf8EncodeChar < right.flatMap String.utf8EncodeChar := by
  induction less with
  | @nil head rest =>
      cases shown : String.utf8EncodeChar head with
      | nil => exact (String.utf8EncodeChar_ne_nil shown).elim
      | cons first later => simp [shown]
  | rel less =>
      simp only [List.flatMap_cons]
      exact
        (isWritten_utf8EncodeChar _).append_lt (isWritten_utf8EncodeChar _) less _ _
  | cons later inductionHypothesis =>
      simp only [List.flatMap_cons]
      exact List.append_left_lt inductionHypothesis

/-- The order of texts is that of their bytes. -/
theorem bytes_lt_bytes_iff {left right : String} :
    bytes left < bytes right ↔ left < right := by
  have forward : ∀ {left right : String}, left < right → bytes left < bytes right := by
    intro left right less
    rw [bytes_eq_flatMap, bytes_eq_flatMap]
    exact flatMap_utf8EncodeChar_lt less
  refine ⟨?backward, forward⟩
  case backward =>
    intro less
    by_cases before : left < right
    · exact before
    · exfalso
      by_cases after : right < left
      · exact List.lt_asymm less (forward after)
      · have same : left = right :=
          String.le_antisymm (String.not_lt.1 after) (String.not_lt.1 before)
        exact List.lt_irrefl _ (same ▸ less)

end Text

end Middleware
