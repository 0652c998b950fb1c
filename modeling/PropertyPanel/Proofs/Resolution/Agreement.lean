/-
This file proves that reads, edits and switches consult a location table only at the names that
their fields and criteria use.
-/

import PropertyPanel.Resolution.Edit
import PropertyPanel.Resolution.Subtype

namespace PropertyPanel.LocationTable

variable (table other : LocationTable) (factory : NodeFactory)

/-- Both tables know the same under a name. -/
def AgreesAt (name : String) : Prop := other.find? name = table.find? name

variable {table other}

section Name

variable {name : String} (agrees : table.AgreesAt other name)

include agrees

theorem read_agrees (node : BusinessObject) (field : String) :
    other.read node field name = table.read node field name := by
  rw [read, agrees, read]

theorem write_agrees (node : BusinessObject) (field : String) (value : Option Scalar) :
    other.write factory node field name value = table.write factory node field name value := by
  rw [write.eq_def, agrees, write.eq_def]

theorem prune_agrees (node : BusinessObject) (field : String) :
    other.prune node field name = table.prune node field name := by
  rw [prune.eq_def, agrees, prune.eq_def]

theorem isAttribute_agrees : other.isAttribute name = table.isAttribute name := by
  rw [isAttribute, agrees, isAttribute]

end Name

theorem edit_agrees {draft : Draft} (agrees : table.AgreesAt other draft.location)
    (node : BusinessObject) : other.edit factory draft node = table.edit factory draft node := by
  simp only [edit, write_agrees factory agrees, prune_agrees agrees]

theorem holds_agrees {criterion : Criterion} (agrees : table.AgreesAt other criterion.location)
    (node : BusinessObject) : other.holds node criterion = table.holds node criterion := by
  simp only [holds, read_agrees agrees]

theorem applyUpdates_agrees {updates : List PropertyUpdate}
    (agrees : ∀ update ∈ updates, table.AgreesAt other update.location) (node : BusinessObject) :
    other.applyUpdates factory updates node = table.applyUpdates factory updates node := by
  induction updates generalizing node with
  | nil => rfl
  | cons update rest ih =>
      rw [List.forall_mem_cons] at agrees
      simp only [applyUpdates, write_agrees factory agrees.1, ih agrees.2]

theorem clearStale_agrees {criteria : List Criterion}
    (agrees : ∀ criterion ∈ criteria, table.AgreesAt other criterion.location)
    (node : BusinessObject) :
    other.clearStale factory criteria node = table.clearStale factory criteria node := by
  induction criteria generalizing node with
  | nil => rfl
  | cons criterion rest ih =>
      rw [List.forall_mem_cons] at agrees
      simp only [clearStale, read_agrees agrees.1, write_agrees factory agrees.1, ih agrees.2]

section Element

variable {element : ElementConfiguration} (agrees : ∀ kind ∈ element.subtypes,
  ∀ criterion ∈ kind.criteria, table.AgreesAt other criterion.location)

include agrees

theorem determine_agrees (node : BusinessObject) :
    other.determine element node = table.determine element node := by
  have fits (kind : ElementSubtype) (offered : kind ∈ element.subtypes) :
      other.fits node kind = table.fits node kind := by
    rw [LocationTable.fits, LocationTable.fits, Bool.eq_iff_iff, List.all_eq_true,
      List.all_eq_true]
    exact forall₂_congr fun criterion listed => by
      rw [holds_agrees (agrees kind offered criterion listed)]
  rw [determine, List.filter_congr fits, determine]

theorem stale_agrees (wanted : ElementSubtype) :
    other.stale element wanted = table.stale element wanted := by
  refine List.filter_congr fun criterion listed => ?_
  obtain ⟨kind, offered, inside⟩ := List.mem_flatMap.mp listed
  rw [isAttribute_agrees (agrees kind (List.mem_filter.mp offered).1 criterion inside)]

/-- A switch consults the table at the locations of the criteria of the element. -/
theorem switchTo_agrees (target : String) (node : BusinessObject) :
    other.switchTo factory element target node = table.switchTo factory element target node := by
  cases known : element.subtype? target with
  | none => simp only [switchTo, known]
  | some wanted =>
      have stale : ∀ criterion ∈ table.stale element wanted,
          table.AgreesAt other criterion.location := by
        intro criterion listed
        obtain ⟨kind, offered, inside⟩ := List.mem_flatMap.mp (List.mem_filter.mp listed).1
        exact agrees kind (List.mem_filter.mp offered).1 criterion inside
      have written : ∀ update ∈ fitting wanted, table.AgreesAt other update.location := by
        intro update listed
        obtain ⟨criterion, inside, same⟩ := List.mem_filterMap.mp listed
        obtain ⟨value, _, made⟩ := Option.map_eq_some_iff.mp same
        exact made ▸ agrees wanted (List.mem_of_find?_eq_some known) criterion inside
      simp only [switchTo, known, rewrite, stale_agrees agrees, clearStale_agrees factory stale,
        applyUpdates_agrees factory written]

end Element

end PropertyPanel.LocationTable
