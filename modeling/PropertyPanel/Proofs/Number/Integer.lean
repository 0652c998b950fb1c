/-
This file proves that the decimal text of an integer is read back as the integer.
-/

import PropertyPanel.Number.Integer
import PropertyPanel.Text.Blank

namespace PropertyPanel.Integer

/-- The decimal text is a run of digits behind a minus sign or nothing. -/
theorem toList_toString (value : Int) :
    (toString value).toList =
      if 0 ≤ value then Nat.toDigits 10 value.toNat else '-' :: Nat.toDigits 10 (-value).toNat := by
  rw [Int.toString_eq_repr, Int.repr_eq_if]
  split
  · exact Nat.toList_repr
  · rw [String.toList_append, Nat.toList_repr]
    rfl

theorem isEmpty_toString (value : Int) : (toString value).isEmpty = false := by
  have signed := toList_toString value
  rw [← Bool.not_eq_true, String.isEmpty_iff]
  intro empty
  rw [empty] at signed
  split at signed
  · exact Nat.toDigits_ne_nil signed.symm
  · cases signed

theorem isDigit_toDigits (size : Nat) : (Nat.toDigits 10 size).all Char.isDigit = true :=
  List.all_eq_true.mpr fun _ inside => Nat.isDigit_of_mem_toDigits (by decide) (by decide) inside

theorem digitsValue_toDigits (size : Nat) :
    DecimalSpelling.digitsValue (Nat.toDigits 10 size) = size :=
  Nat.ofDigitChars_ten_toDigits

theorem ofInt?_toInt (value : Int64) : ofInt? value.toInt = some value := by
  rw [ofInt?, if_pos ⟨value.minValue_le_toInt, value.toInt_le⟩, Int64.ofInt_toInt]

/-- A run of digits begins with no sign. -/
theorem head?_toDigits (size : Nat) :
    (Nat.toDigits 10 size).head? ≠ some '-' ∧ (Nat.toDigits 10 size).head? ≠ some '+' := by
  have digits := List.all_eq_true.mp (isDigit_toDigits size)
  cases listed : Nat.toDigits 10 size with
  | nil => simp
  | cons first rest =>
      have digit := digits first (by rw [listed]; exact List.mem_cons_self)
      constructor <;> rintro ⟨⟩ <;> cases digit

/-- A run of digits begins with a zero only if its number is zero. -/
theorem head?_toDigits_positive {size : Nat} (positive : 0 < size) :
    (Nat.toDigits 10 size).head? ≠ some '0' := by
  induction size using Nat.strongRecOn with
  | ind size ih =>
      rw [Nat.toDigits_eq_if (by decide)]
      split
      · simpa using Nat.ne_of_gt positive
      · rename_i large
        have before := ih (size / 10) (by omega) (by omega)
        cases listed : Nat.toDigits 10 (size / 10) with
        | nil => exact absurd listed Nat.toDigits_ne_nil
        | cons first rest => simpa [listed] using before

theorem parse?_toString (value : Int64) : parse? (toString value.toInt) = some value := by
  have signed := toList_toString value.toInt
  by_cases positive : 0 ≤ value.toInt
  · rw [if_pos positive] at signed
    have unsigned := head?_toDigits value.toInt.toNat
    have digits : Nat.toDigits 10 value.toInt.toNat ≠ [] := Nat.toDigits_ne_nil
    have size : (value.toInt.toNat : Int) = value.toInt := Int.toNat_of_nonneg positive
    rw [← List.isEmpty_eq_false_iff] at digits
    simp only [parse?, signed, unsigned, false_or, if_false, digits, isDigit_toDigits,
      digitsValue_toDigits, Bool.not_true, Bool.or_false, Bool.false_eq_true, size, ofInt?_toInt]
  · rw [if_neg positive] at signed
    have digits : Nat.toDigits 10 (-value.toInt).toNat ≠ [] := Nat.toDigits_ne_nil
    have size : -((-value.toInt).toNat : Int) = value.toInt := by omega
    rw [← List.isEmpty_eq_false_iff] at digits
    simp only [parse?, signed, List.head?_cons, true_or, if_true, List.drop_succ_cons,
      List.drop_zero, digits, isDigit_toDigits, digitsValue_toDigits, Bool.not_true,
      Bool.or_false, Bool.false_eq_true, if_false, size, ofInt?_toInt]

theorem isBlank_isDigit {character : Char} (digit : character.isDigit = true) :
    Blank.isBlank character = false := by
  rw [Char.isDigit_iff_toNat] at digit
  change 48 ≤ character.toNat ∧ character.toNat ≤ 57 at digit
  simp only [Blank.isBlank, Blank.ranges, List.any_cons, List.any_nil, Bool.or_false,
    Bool.or_eq_false_iff, Bool.and_eq_false_iff, decide_eq_false_iff_not]
  omega

/-- The decimal text has no blanks. -/
theorem trim_toString (value : Int) : Blank.trim (toString value) = toString value := by
  have solid : ∀ character ∈ (toString value).toList, Blank.isBlank character = false := by
    intro character inside
    rw [toList_toString] at inside
    have digits (size : Nat) (listed : character ∈ Nat.toDigits 10 size) :=
      isBlank_isDigit (List.all_eq_true.mp (isDigit_toDigits size) character listed)
    split at inside
    · exact digits _ inside
    · cases List.mem_cons.mp inside with
      | inl sign => rw [sign]; decide
      | inr listed => exact digits _ listed
  have kept {characters : List Char} (solid : ∀ character ∈ characters,
      Blank.isBlank character = false) : characters.dropWhile Blank.isBlank = characters := by
    cases characters with
    | nil => rfl
    | cons first rest => exact List.dropWhile_cons_of_neg (by simp [solid first])
  rw [Blank.trim, Blank.trimList, kept solid, kept (by simpa using solid)]
  simp

end PropertyPanel.Integer
