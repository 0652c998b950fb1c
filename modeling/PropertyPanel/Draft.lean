/-
This file keeps the unsaved values of fields until they are applied.
-/

import PropertyPanel.Configuration.Field
import PropertyPanel.Diagram.Update

namespace PropertyPanel

/-- A draft without a value clears its field. -/
structure Draft where
  element : ElementId
  field : String
  descriptor : FieldDescriptor
  value : Option Scalar
  deriving DecidableEq

namespace Draft

/-- There is at most one draft for each field of each element. -/
def key (draft : Draft) : ElementId × String := (draft.element, draft.field)

def location (draft : Draft) : String := draft.descriptor.location

def update (draft : Draft) : PropertyUpdate := ⟨draft.field, draft.location, draft.value⟩

end Draft

inductive FlushStatus where
  | nothingToDo
  | allSucceeded (applied : Nat)
  | someFailed (applied failed : Nat)
  deriving DecidableEq

def FlushStatus.message : FlushStatus → String
  | nothingToDo => "nothing to save"
  | allSucceeded applied => toString applied ++ " applied"
  | someFailed applied failed => toString applied ++ " applied, " ++ toString failed ++ " failed"

/-- The buffer lists drafts in the order in which their keys entered it. -/
structure DraftBuffer where
  drafts : List Draft
  distinct : (drafts.map Draft.key).Nodup
  deriving DecidableEq

namespace DraftBuffer

def empty : DraftBuffer := ⟨[], List.nodup_nil⟩

instance : Inhabited DraftBuffer := ⟨empty⟩

def isEmpty (buffer : DraftBuffer) : Bool := buffer.drafts.isEmpty

def size (buffer : DraftBuffer) : Nat := buffer.drafts.length

/-- A draft takes the place of an earlier one with its key. -/
def stageInto (draft : Draft) : List Draft → List Draft
  | [] => [draft]
  | first :: rest =>
      if first.key = draft.key then draft :: rest else first :: stageInto draft rest

theorem keysStageInto (draft : Draft) (drafts : List Draft) :
    (stageInto draft drafts).map Draft.key =
      if draft.key ∈ drafts.map Draft.key then drafts.map Draft.key
      else drafts.map Draft.key ++ [draft.key] := by
  induction drafts with
  | nil => simp [stageInto]
  | cons first rest ih =>
      by_cases same : first.key = draft.key
      · simp [stageInto, same]
      · have other : ¬ draft.key = first.key := fun h => same h.symm
        by_cases known : draft.key ∈ rest.map Draft.key
        · simp [stageInto, same, ih, known]
        · simp [stageInto, same, other, ih, known]

theorem stageIntoDistinct (draft : Draft) {drafts : List Draft}
    (distinct : (drafts.map Draft.key).Nodup) :
    ((stageInto draft drafts).map Draft.key).Nodup := by
  rw [keysStageInto]
  split
  · exact distinct
  · rename_i fresh
    rw [List.nodup_append]
    refine ⟨distinct, by simp, ?_⟩
    intro first firstKnown second secondNew
    simp only [List.mem_singleton] at secondNew
    exact fun equal => fresh (secondNew ▸ equal ▸ firstKnown)

def stage (buffer : DraftBuffer) (draft : Draft) : DraftBuffer :=
  ⟨stageInto draft buffer.drafts, stageIntoDistinct draft buffer.distinct⟩

def get? (buffer : DraftBuffer) (element : ElementId) (field : String) : Option Draft :=
  buffer.drafts.find? fun draft => draft.key = (element, field)

/-- The drafts that pass a test stay in their order. -/
def filter (buffer : DraftBuffer) (keep : Draft → Bool) : DraftBuffer :=
  ⟨buffer.drafts.filter keep,
    buffer.distinct.sublist (List.filter_sublist.map Draft.key)⟩

def discardElement (buffer : DraftBuffer) (element : ElementId) : DraftBuffer :=
  buffer.filter fun draft => draft.element ≠ element

section Flush

variable {State Error : Type}

/-- Each draft is applied once. Those that succeed are counted, and the others are kept in order. -/
def applyEach (apply : Draft → State → State × Except Error Unit) :
    List Draft → State → Nat → List Draft → State × Nat × List Draft
  | [], state, applied, failed => (state, applied, failed)
  | draft :: rest, state, applied, failed =>
      match apply draft state with
      | (state, .ok ()) => applyEach apply rest state (applied + 1) failed
      | (state, .error _) => applyEach apply rest state applied (failed ++ [draft])

/-- The drafts leave the buffer before the first one is applied, and those that fail are staged in
it again. -/
def flush (buffer : DraftBuffer) (apply : Draft → State → State × Except Error Unit)
    (state : State) : State × DraftBuffer × FlushStatus :=
  if buffer.isEmpty then (state, buffer, .nothingToDo)
  else
    let (state, applied, failed) := applyEach apply buffer.drafts state 0 []
    if failed.isEmpty then (state, .empty, .allSucceeded applied)
    else (state, failed.foldl stage .empty, .someFailed applied failed.length)

end Flush

end DraftBuffer

end PropertyPanel
