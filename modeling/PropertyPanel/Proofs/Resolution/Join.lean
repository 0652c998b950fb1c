/-
This file proves which lists of leaves a read cannot tell apart.
-/

import PropertyPanel.Resolution.Read

namespace PropertyPanel.Location

/-- The display texts of leaves in separate lines. -/
def joinedText (leaves : List Scalar) : String :=
  leafSeparator.intercalate (leaves.map Scalar.display)

/-- Each leaf takes its display text and a separator. -/
def joinedSize : List Scalar → Nat
  | [] => 0
  | leaf :: rest => leaf.display.length + 1 + joinedSize rest

variable {first second own new others : List Scalar}

/-- Several leaves are joined as text. -/
theorem joinLeaves_many (several : 1 < first.length) :
    joinLeaves first = some (.text (joinedText first)) := by
  match first with
  | [] => cases several
  | [leaf] => simp at several
  | leaf :: next :: rest => rfl

theorem joinLeaves_eq_none : joinLeaves first = none ↔ first = [] := by
  match first with
  | [] => simp [joinLeaves]
  | [leaf] => simp [joinLeaves]
  | leaf :: next :: rest => simp [joinLeaves]

theorem joinedText_singleton (leaf : Scalar) : joinedText [leaf] = leaf.display :=
  String.intercalate_singleton

theorem joinedText_append (left : first ≠ []) (right : second ≠ []) :
    joinedText (first ++ second) = joinedText first ++ leafSeparator ++ joinedText second := by
  rw [joinedText, List.map_append]
  exact String.intercalate_append_of_ne_nil (by simpa using left) (by simpa using right)

/-- What leaves are joined to is displayed as their joined text. -/
theorem display_joinLeaves {joined : Scalar} (same : joinLeaves first = some joined) :
    joined.display = joinedText first := by
  match first with
  | [] => cases same
  | [leaf] =>
      cases same
      exact (joinedText_singleton joined).symm
  | leaf :: next :: rest =>
      cases same
      rfl

theorem length_joinedText (filled : first ≠ []) :
    (joinedText first).length + 1 = joinedSize first := by
  induction first with
  | nil => contradiction
  | cons leaf rest ih =>
      by_cases last : rest = []
      · simp [last, joinedText_singleton, joinedSize]
      · have separator : leafSeparator.length = 1 := rfl
        have below := ih last
        rw [← List.singleton_append, joinedText_append (List.cons_ne_nil _ _) last,
          joinedText_singleton, String.length_append, String.length_append, separator]
        simp only [List.singleton_append, joinedSize]
        omega

/-- Leaves that are joined to the same are all missing or have the same joined text. -/
theorem joinedText_same (same : joinLeaves first = joinLeaves second) :
    (first = [] ↔ second = []) ∧ joinedText first = joinedText second := by
  refine ⟨by rw [← joinLeaves_eq_none, ← joinLeaves_eq_none, same], ?_⟩
  cases joined : joinLeaves first with
  | none =>
      rw [joinLeaves_eq_none.mp joined, joinLeaves_eq_none.mp (same.symm.trans joined)]
  | some leaf =>
      rw [← display_joinLeaves joined, display_joinLeaves (same.symm.trans joined)]

theorem joinedSize_same (same : joinLeaves first = joinLeaves second) :
    joinedSize first = joinedSize second := by
  obtain ⟨missing, text⟩ := joinedText_same same
  by_cases none : first = []
  · rw [none, missing.mp none]
  · rw [← length_joinedText none, text, length_joinedText fun empty => none (missing.mpr empty)]

theorem joinedSize_append : joinedSize (first ++ second) = joinedSize first + joinedSize second := by
  induction first with
  | nil => simp [joinedSize]
  | cons leaf rest ih =>
      rw [List.cons_append, joinedSize, joinedSize, ih]
      omega

theorem joinedSize_eq_zero : joinedSize first = 0 ↔ first = [] := by
  cases first with
  | nil => simp [joinedSize]
  | cons leaf rest => simp [joinedSize]

/-- Fewer leaves take less text. -/
theorem joinedSize_sublist (fewer : second.Sublist first) :
    joinedSize second + first.length ≤ joinedSize first + second.length := by
  induction fewer with
  | slnil => exact Nat.le_refl _
  | cons leaf fewer ih =>
      simp only [joinedSize, List.length_cons]
      omega
  | cons_cons leaf fewer ih =>
      simp only [joinedSize, List.length_cons]
      omega

/-- A read notices every leaf that is lost. -/
theorem joinLeaves_sublist (fewer : second.Sublist first) :
    joinLeaves second = joinLeaves first ↔ second = first := by
  refine ⟨fun same => fewer.eq_of_length ?_, congrArg joinLeaves⟩
  have size := joinedSize_same same
  have less := joinedSize_sublist fewer
  have shorter := fewer.length_le
  omega

/-- Leaves that take the place of others before the same ones are told apart by their text. -/
theorem joinLeaves_append : joinLeaves (own ++ others) = joinLeaves (new ++ others) ↔
    own = [] ∧ new = [] ∨
      own ≠ [] ∧ new ≠ [] ∧ if others = [] then joinLeaves own = joinLeaves new
        else joinedText own = joinedText new := by
  constructor
  · intro same
    have size := joinedSize_same same
    rw [joinedSize_append, joinedSize_append, Nat.add_right_cancel_iff] at size
    by_cases missing : own = []
    · rw [missing] at size
      exact .inl ⟨missing, joinedSize_eq_zero.mp size.symm⟩
    · have filled : new ≠ [] := by
        intro empty
        rw [empty] at size
        exact missing (joinedSize_eq_zero.mp size)
      refine .inr ⟨missing, filled, ?_⟩
      split
      · rename_i alone
        simpa [alone] using same
      · rename_i more
        have text := (joinedText_same same).2
        rw [joinedText_append missing more, joinedText_append filled more] at text
        exact (String.append_left_inj _).mp ((String.append_left_inj _).mp text)
  · rintro (⟨rfl, rfl⟩ | ⟨left, right, same⟩)
    · rfl
    · split at same
      · rename_i alone
        rw [alone, List.append_nil, List.append_nil, same]
      · rename_i more
        have several {leaves : List Scalar} (filled : leaves ≠ []) :
            1 < (leaves ++ others).length := by
          have first := List.length_pos_iff.mpr filled
          have last := List.length_pos_iff.mpr more
          rw [List.length_append]
          omega
        rw [joinLeaves_many (several left), joinLeaves_many (several right),
          joinedText_append left more, joinedText_append right more, same]

/-- A leaf that takes the place of others, if there is one, shows nothing that they did not show. -/
def Unseen (own : List Scalar) (leaf : Option Scalar) (others : List Scalar) : Prop :=
  own = [] ∧ leaf = none ∨
    own ≠ [] ∧ ∃ value, leaf = some value ∧
      if others = [] then joinLeaves own = some value else joinedText own = value.display

/-- A read cannot tell whether unseen leaves are there or the leaf that takes their place. -/
theorem joinLeaves_unseen (own : List Scalar) (leaf : Option Scalar) (others : List Scalar) :
    joinLeaves (own ++ others) = joinLeaves (leaf.toList ++ others) ↔ Unseen own leaf others := by
  rw [joinLeaves_append, Unseen]
  cases leaf with
  | none => simp
  | some value => simp [joinLeaves, joinedText_singleton]

end PropertyPanel.Location
