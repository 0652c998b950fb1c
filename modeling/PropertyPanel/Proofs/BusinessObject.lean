/-
This file proves what the properties and the children of a node are after a change to it.
-/

import PropertyPanel.BusinessObject.Basic
import PropertyPanel.Proofs.Dictionary

namespace PropertyPanel.BusinessObject

variable (object : BusinessObject) (name other : String)

@[simp] theorem property?_setProperty (value : Property) :
    (object.setProperty name value).property? other =
      if other = name then some value else object.property? other :=
  Entries.lookup_put name other value object.properties

@[simp] theorem property?_removeProperty :
    (object.removeProperty name).property? other =
      if other = name then none else object.property? other :=
  Entries.lookup_erase name other object.properties

@[simp] theorem property?_setScalar (value : Option Scalar) :
    (object.setScalar name value).property? other =
      if other = name then value.map .scalar else object.property? other := by
  cases value with
  | none => simp [setScalar]
  | some value => simp [setScalar]

@[simp] theorem typeTag_setProperty (value : Property) :
    (object.setProperty name value).typeTag = object.typeTag := rfl

@[simp] theorem typeTag_removeProperty : (object.removeProperty name).typeTag = object.typeTag :=
  rfl

@[simp] theorem typeTag_setScalar (value : Option Scalar) :
    (object.setScalar name value).typeTag = object.typeTag := by
  cases value <;> rfl

/-- A property that is set to the value that it has changes nothing. -/
theorem setProperty_same {object : BusinessObject} {name : String} {value : Property}
    (present : object.property? name = some value) : object.setProperty name value = object := by
  cases object with
  | mk typeTag properties body =>
      simp only [setProperty, mk.injEq, true_and, and_true]
      exact Entries.put_same present

@[simp] theorem setProperty_setProperty (first second : Property) :
    (object.setProperty name first).setProperty name second = object.setProperty name second := by
  simp [setProperty]

@[simp] theorem removeProperty_setProperty (value : Property) :
    (object.setProperty name value).removeProperty name = object.removeProperty name := by
  simp [setProperty, removeProperty]

/-- A property that a node does not have is removed without an effect. -/
theorem removeProperty_absent {object : BusinessObject} {name : String}
    (absent : object.property? name = none) : object.removeProperty name = object := by
  cases object with
  | mk typeTag properties body =>
      simp only [removeProperty, mk.injEq, true_and, and_true]
      exact Entries.erase_absent absent

theorem scalar?_setScalar (value : Option Scalar) :
    (object.setScalar name value).scalar? other =
      if other = name then value else object.scalar? other := by
  by_cases same : other = name
  · cases value <;> simp [scalar?, same]
  · simp [scalar?, same]

/-- A property that is a scalar has no children. -/
theorem children_scalar {object : BusinessObject} {name : String} {value : Scalar}
    (present : object.scalar? name = some value) : object.children name = [] := by
  rw [scalar?] at present
  split at present
  · rename_i held
    rw [children, held]
  · cases present

/-- A node has the type and the scalars of another one. -/
def SameScalars (after before : BusinessObject) : Prop :=
  after.typeTag = before.typeTag ∧ ∀ name, after.scalar? name = before.scalar? name

theorem SameScalars.refl (object : BusinessObject) : SameScalars object object :=
  ⟨rfl, fun _ => rfl⟩

section Children

variable (index : Nat) (child : BusinessObject)

@[simp] theorem typeTag_replaceChild :
    (object.replaceChild name index child).typeTag = object.typeTag := by
  simp only [replaceChild]
  split
  · split <;> rfl
  · rfl
  · rfl

/-- The replacement of a child keeps all scalars. -/
theorem sameScalars_replaceChild :
    SameScalars (object.replaceChild name index child) object := by
  refine ⟨object.typeTag_replaceChild name index child, fun other => ?_⟩
  cases held : object.property? name with
  | none => simp [replaceChild, held]
  | some value =>
      cases value with
      | scalar value => simp [replaceChild, held]
      | single first =>
          by_cases same : other = name <;> by_cases zero : index = 0 <;>
            simp [replaceChild, scalar?, held, same, zero]
      | sequence nodes =>
          by_cases same : other = name <;> simp [replaceChild, scalar?, held, same]

@[simp] theorem children_replaceChild :
    (object.replaceChild name index child).children name =
      (object.children name).set index child := by
  cases held : object.property? name with
  | none => simp [replaceChild, children, held]
  | some value =>
      cases value with
      | scalar value => simp [replaceChild, children, held]
      | single first => cases index <;> simp [replaceChild, children, held]
      | sequence nodes => simp [replaceChild, children, held]

/-- The second of two replacements of a child decides. -/
@[simp] theorem replaceChild_replaceChild (second : BusinessObject) :
    (object.replaceChild name index child).replaceChild name index second =
      object.replaceChild name index second := by
  cases held : object.property? name with
  | none => simp [replaceChild, held]
  | some value =>
      cases value with
      | scalar value => simp [replaceChild, held]
      | single first =>
          by_cases zero : index = 0
          · simp [replaceChild, held, zero]
          · simp [replaceChild, held, zero]
      | sequence nodes => simp [replaceChild, held]

/-- The node without a child that it has, and without the property if this was the last child. -/
def dropChild : BusinessObject := ((object.detach name index).map Prod.snd).getD object

/-- A child that is there can be detached. -/
theorem detach_present {object : BusinessObject} {name : String} {index : Nat}
    {child : BusinessObject} (present : (object.children name)[index]? = some child) :
    object.detach name index = some (child, object.dropChild name index) := by
  rw [children] at present
  split at present
  · rename_i first held
    rw [List.getElem?_singleton] at present
    split at present
    · rename_i zero
      cases present
      simp [dropChild, detach, held, zero]
    · cases present
  · rename_i nodes held
    simp [dropChild, detach, held, present]
  · cases present

/-- A drop changes nothing, or removes the property, or shortens its sequence. -/
theorem dropChild_cases :
    (object.children name).length ≤ index ∧ object.dropChild name index = object ∨
      (object.children name).eraseIdx index = [] ∧
        object.dropChild name index = object.removeProperty name ∨
      object.dropChild name index =
        object.setProperty name (.sequence ((object.children name).eraseIdx index)) := by
  cases held : object.property? name with
  | none => simp [dropChild, detach, children, held]
  | some value =>
      cases value with
      | scalar value => simp [dropChild, detach, children, held]
      | single first =>
          by_cases zero : index = 0
          · simp [dropChild, detach, children, held, zero]
          · have outside : 1 ≤ index := by omega
            simp [dropChild, detach, children, held, zero, outside]
      | sequence nodes =>
          by_cases inside : index < nodes.length
          · by_cases empty : nodes.eraseIdx index = []
            · simp [dropChild, detach, children, held, inside, empty]
            · simp [dropChild, detach, children, held, inside, empty]
          · simp [dropChild, detach, children, held, inside, Nat.le_of_not_lt inside]

/-- A child is dropped whatever has taken its place. -/
@[simp] theorem dropChild_replaceChild :
    (object.replaceChild name index child).dropChild name index = object.dropChild name index := by
  cases held : object.property? name with
  | none => simp [replaceChild, held]
  | some value =>
      cases value with
      | scalar value => simp [replaceChild, held]
      | single first =>
          by_cases zero : index = 0
          · simp [dropChild, detach, replaceChild, held, zero]
          · simp [replaceChild, held, zero]
      | sequence nodes =>
          by_cases inside : index < nodes.length
          · simp [dropChild, detach, replaceChild, held, inside, List.eraseIdx_set_eq]
          · have same := List.set_eq_of_length_le (Nat.le_of_not_lt inside) (a := child)
            simp [replaceChild, held, same, setProperty_same held]

@[simp] theorem typeTag_dropChild : (object.dropChild name index).typeTag = object.typeTag := by
  rcases object.dropChild_cases name index with ⟨_, same⟩ | ⟨_, removed⟩ | shorter
  · rw [same]
  · rw [removed, typeTag_removeProperty]
  · rw [shorter, typeTag_setProperty]

/-- A drop keeps all scalars. -/
theorem sameScalars_dropChild : SameScalars (object.dropChild name index) object := by
  refine ⟨object.typeTag_dropChild name index, fun other => ?_⟩
  cases held : object.property? name with
  | none => simp [dropChild, detach, held]
  | some value =>
      cases value with
      | scalar value => simp [dropChild, detach, held]
      | single first =>
          by_cases same : other = name <;> by_cases zero : index = 0 <;>
            simp [dropChild, detach, scalar?, held, same, zero]
      | sequence nodes =>
          rcases object.dropChild_cases name index with ⟨_, same⟩ | ⟨_, removed⟩ | shorter
          · rw [same]
          · by_cases same : other = name <;> simp [removed, scalar?, held, same]
          · by_cases same : other = name <;> simp [shorter, scalar?, held, same]

@[simp] theorem children_dropChild :
    (object.dropChild name index).children name = (object.children name).eraseIdx index := by
  rcases object.dropChild_cases name index with ⟨outside, same⟩ | ⟨last, removed⟩ | shorter
  · rw [same, List.eraseIdx_of_length_le outside]
  · rw [removed, last]
    simp [children]
  · rw [shorter]
    simp [children]

variable (many : Bool)

@[simp] theorem typeTag_attach : (object.attach name child many).typeTag = object.typeTag := by
  unfold attach
  split
  · split <;> rfl
  · rfl

/-- A node that is attached takes the place of a scalar and keeps the others. -/
theorem scalar?_attach {other : String} :
    (object.attach name child many).scalar? other =
      if other = name then none else object.scalar? other := by
  unfold attach
  by_cases same : other = name
  · split
    · split <;> simp [scalar?, same]
    · simp [scalar?, same]
  · split
    · split <;> simp [scalar?, same]
    · simp [scalar?, same]

/-- A node that is attached comes behind nodes that were there before. -/
theorem children_attach_last : ∃ before,
    (object.attach name child many).children name = before ++ [child] ∧
      before.length = object.attachIndex name many ∧
      ∀ old ∈ before, old ∈ object.children name := by
  cases many with
  | false => exact ⟨[], by simp [attach, children], rfl, by simp⟩
  | true =>
      cases held : object.property? name with
      | none => exact ⟨[], by simp [attach, children, held], by simp [attachIndex, held], by simp⟩
      | some value =>
          cases value with
          | scalar value =>
              exact ⟨[], by simp [attach, children, held], by simp [attachIndex, held], by simp⟩
          | single first =>
              exact ⟨[], by simp [attach, children, held], by simp [attachIndex, held], by simp⟩
          | sequence nodes =>
              exact ⟨nodes, by simp [attach, children, held], by simp [attachIndex, held],
                by simp [children, held]⟩

/-- The index that an attachment returns leads to the attached node. -/
theorem children_attachIndex :
    ((object.attach name child many).children name)[object.attachIndex name many]? =
      some child := by
  obtain ⟨before, whole, index, _⟩ := object.children_attach_last name child many
  rw [whole, ← index, List.getElem?_concat_length]

/-- A child that is replaced by itself changes nothing. -/
theorem replaceChild_same {object : BusinessObject} {name : String} {index : Nat}
    {child : BusinessObject} (present : (object.children name)[index]? = some child) :
    object.replaceChild name index child = object := by
  cases held : object.property? name with
  | none => simp [replaceChild, held]
  | some value =>
      cases value with
      | scalar value => simp [replaceChild, held]
      | single first =>
          simp only [children, held, List.getElem?_singleton] at present
          split at present
          · rename_i zero
            cases present
            simp only [replaceChild, held, zero, if_true]
            exact setProperty_same held
          · cases present
      | sequence nodes =>
          simp only [children, held] at present
          simp only [replaceChild, held]
          obtain ⟨inside, found⟩ := List.getElem?_eq_some_iff.mp present
          rw [← found, List.set_getElem_self inside]
          exact setProperty_same held

end Children

section Others

variable {object : BusinessObject} {name other : String} (different : other ≠ name)

include different

theorem property?_setScalar_other (value : Option Scalar) :
    (object.setScalar name value).property? other = object.property? other := by
  rw [property?_setScalar, if_neg different]

theorem property?_replaceChild_other (index : Nat) (child : BusinessObject) :
    (object.replaceChild name index child).property? other = object.property? other := by
  unfold replaceChild
  split
  · split
    · rw [property?_setProperty, if_neg different]
    · rfl
  · rw [property?_setProperty, if_neg different]
  · rfl

theorem property?_attach_other (child : BusinessObject) (many : Bool) :
    (object.attach name child many).property? other = object.property? other := by
  unfold attach
  split
  · split
    · rw [property?_setProperty, if_neg different]
    · rw [property?_setProperty, if_neg different]
  · rw [property?_setProperty, if_neg different]

theorem property?_dropChild_other (index : Nat) :
    (object.dropChild name index).property? other = object.property? other := by
  rcases object.dropChild_cases name index with ⟨_, same⟩ | ⟨_, removed⟩ | shorter
  · rw [same]
  · rw [removed, property?_removeProperty, if_neg different]
  · rw [shorter, property?_setProperty, if_neg different]

end Others

end PropertyPanel.BusinessObject
