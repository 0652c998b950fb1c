/-
This file proves that edits of several fields of one element can be made in any order if each field
is an attribute, the documentation, or a field of the extension of the element.
-/

import PropertyPanel.Proofs.Resolution.Extension

namespace PropertyPanel

/-- The documentation of an element is a node with a body. -/
def documentationStep : Step := .child (.literal "documentation") "bpmn:Documentation" .none true

/-- The types of the nodes that the placed fields need. -/
def placedTypes : List String :=
  ["bpmn:Documentation", "bpmn:ExtensionElements", "flowable:Field", "flowable:String"]

/-- A placed field is an attribute, or the documentation, or a field of the extension. -/
def Placed (field : String) (steps : List Step) : Prop :=
  (steps = [.leaf .fieldId] ∧ field ≠ "extensionElements") ∨
    (steps = [documentationStep] ∧ field = "documentation") ∨
    (field.isEmpty = false ∧ ∃ rest ∈ valueSteps, steps = extensionStep :: fieldStep :: rest)

instance (field : String) (steps : List Step) : Decidable (Placed field steps) :=
  inferInstanceAs (Decidable (_ ∨ _ ∨ _))

namespace Placed

open Location

variable {field other : String} {steps others : List Step}

theorem nonempty (placed : Placed field steps) : steps ≠ [] := by
  rcases placed with ⟨rfl, _⟩ | ⟨rfl, _⟩ | ⟨_, rest, _, rfl⟩ <;> exact List.cons_ne_nil _ _

theorem chain (placed : Placed field steps) : Chain steps := by
  rcases placed with ⟨rfl, _⟩ | ⟨rfl, _⟩ | ⟨_, rest, held, rfl⟩
  · exact .leaf _
  · exact .step _ _ rfl (by rintro filter ⟨⟩; exact List.nodup_nil) .body
  · have below : Chain rest := by
      rcases valueSteps_cases held with rfl | rfl
      · exact .leaf _
      · exact .step _ _ rfl (by rintro filter ⟨⟩; exact List.nodup_nil) .body
    refine .step _ _ rfl (by rintro filter ⟨⟩; exact List.nodup_nil) ?_
    exact .step _ _ rfl (by rintro filter ⟨⟩; simp) below

/-- The steps to a placed field select what is cleared at their end. -/
theorem selects_none (placed : Placed field steps) : selects field none steps = true := by
  rcases placed with ⟨rfl, _⟩ | ⟨rfl, _⟩ | ⟨filled, rest, held, rfl⟩
  · rfl
  · rfl
  · have solvable : fieldStep.solvable field = true := by
      simp [Step.solvable, Step.filter?, fieldStep, Filter.assignments, Expected.resolve,
        Scalar.isEmpty, filled]
    have below : selects field none rest = true ∧ keeps field none fieldStep rest = true := by
      rcases valueSteps_cases held with rfl | rfl
      · exact ⟨rfl, rfl⟩
      · exact ⟨rfl, rfl⟩
    rw [selects, selects, solvable, below.1, below.2]
    rfl

/-- All nodes on the way to a placed field can be created. -/
theorem creatable {registry : TypeRegistry} (placed : Placed field steps)
    (types : ∀ nodeType ∈ placedTypes, registry.knows nodeType = true) :
    ∀ step ∈ steps, step.Creatable registry := by
  have documentation : documentationStep.Creatable registry := types _ (by decide)
  have extension : extensionStep.Creatable registry := types _ (by decide)
  have field : fieldStep.Creatable registry := types _ (by decide)
  have text : registry.knows "flowable:String" = true := types _ (by decide)
  rcases placed with ⟨rfl, _⟩ | ⟨rfl, _⟩ | ⟨_, rest, held, rfl⟩
  · exact List.forall_mem_singleton.mpr trivial
  · exact List.forall_mem_singleton.mpr documentation
  · refine List.forall_mem_cons.mpr ⟨extension, List.forall_mem_cons.mpr ⟨field, ?_⟩⟩
    rcases valueSteps_cases held with rfl | rfl
    · exact List.forall_mem_singleton.mpr trivial
    · exact List.forall_mem_singleton.mpr text

/-- A placed field begins at the property of its name if it is not in the extension. -/
theorem begins (placed : Placed field steps) :
    (∃ step rest, steps = step :: rest ∧ step.name field = field ∧ field ≠ "extensionElements") ∨
      ∃ rest ∈ valueSteps, steps = extensionStep :: fieldStep :: rest := by
  rcases placed with ⟨rfl, free⟩ | ⟨rfl, rfl⟩ | ⟨_, inside⟩
  · exact .inl ⟨_, _, rfl, rfl, free⟩
  · exact .inl ⟨_, _, rfl, rfl, by decide⟩
  · exact .inr inside

variable {registry : TypeRegistry} {name : String} {value : Option Scalar}
  {object : BusinessObject}

/-- An edit that begins at another property changes nothing that is found along the steps. -/
theorem leaves_apart {step next : Step} {rest later : List Step}
    (different : step.name field ≠ next.name other) :
    leavesBelow field (step :: rest) (editSteps registry other name value (next :: later) object) =
        leavesBelow field (step :: rest) object ∧
      othersBelow field (step :: rest)
          (editSteps registry other name value (next :: later) object) =
        othersBelow field (step :: rest) object := by
  have same : (editSteps registry other name value (next :: later) object).property?
      (step.name field) = object.property? (step.name field) :=
    property?_editSteps_other different later object
  exact ⟨leavesBelow_congr same rest, othersBelow_congr same rest⟩

/-- An edit of a placed field keeps at most one node of extensions. -/
theorem extensible_editSteps (placed : Placed field steps) (extensible : object.Extensible) :
    (editSteps registry field name value steps object).Extensible := by
  rcases placed.begins with ⟨step, rest, rfl, own, free⟩ | ⟨rest, held, rfl⟩
  · have different : "extensionElements" ≠ step.name field := fun same => free (own ▸ same.symm)
    have same : (editSteps registry field name value (step :: rest) object).property?
        "extensionElements" = object.property? "extensionElements" :=
      property?_editSteps_other different rest object
    rw [BusinessObject.Extensible, BusinessObject.children, same]
    exact extensible
  · exact (sparesBelow_editSteps held extensible).1

/-- An edit of a placed field spares all other placed fields. -/
theorem leaves_editSteps (placed : Placed field steps) (second : Placed other others)
    (different : field ≠ other) (extensible : object.Extensible) :
    leavesBelow field steps (editSteps registry other name value others object) =
        leavesBelow field steps object ∧
      othersBelow field steps (editSteps registry other name value others object) =
        othersBelow field steps object := by
  rcases placed.begins with ⟨step, rest, rfl, own, free⟩ | ⟨rest, held, rfl⟩
  · rcases second.begins with ⟨next, later, rfl, named, _⟩ | ⟨later, _, rfl⟩
    · exact leaves_apart (by rwa [own, named])
    · refine leaves_apart ?_
      rw [own]
      exact free
  · rcases second.begins with ⟨next, later, rfl, named, free⟩ | ⟨later, inside, rfl⟩
    · refine leaves_apart ?_
      rw [named]
      exact Ne.symm free
    · -- Both fields are in the extension, which keeps the nodes of the first one.
      have spares : SparesBelow other (editSteps registry other name value
          (extensionStep :: fieldStep :: later) object) object :=
        sparesBelow_editSteps inside extensible
      rw [leavesBelow_holders, leavesBelow_holders, othersBelow_holders spares.1,
        othersBelow_holders extensible, spares.2 field different]
      exact ⟨rfl, rfl⟩

end Placed

namespace LocationTable

/-- The object after drafts have edited it one after the other. -/
def editAll (table : LocationTable) (registry : TypeRegistry) (drafts : List Draft)
    (object : BusinessObject) : BusinessObject :=
  drafts.foldl (fun object draft => (table.edit registry draft object).1) object

/-- The location of a field is known and places the field. -/
def Places (table : LocationTable) (field name : String) : Prop :=
  ∃ location, table.find? name = some location ∧ Placed field location.steps

/-- A draft of a placed field has no empty value. -/
def Settled (table : LocationTable) (draft : Draft) : Prop :=
  table.Places draft.field draft.location ∧ ∀ held ∈ draft.value, held.isEmpty = false

variable {table : LocationTable} {registry : TypeRegistry}
  (types : ∀ nodeType ∈ placedTypes, registry.knows nodeType = true) {object : BusinessObject}

include types

/-- An edit of a placed field succeeds. -/
theorem edit_placed {draft : Draft} (places : table.Places draft.field draft.location)
    (object : BusinessObject) :
    (table.edit registry draft object).2 = .ok () := by
  obtain ⟨location, known, placed⟩ := places
  rw [edit_creatable known placed.chain (placed.creatable types)]

theorem extensible_edit {draft : Draft} (places : table.Places draft.field draft.location)
    (extensible : object.Extensible) : (table.edit registry draft object).1.Extensible := by
  obtain ⟨location, known, placed⟩ := places
  rw [edit_creatable known placed.chain (placed.creatable types)]
  exact placed.extensible_editSteps extensible

variable {field : String} {location : Location} (placed : Placed field location.steps)

include placed

/-- A draft of another field changes nothing that is found along the steps to a placed field. -/
theorem leaves_edit {draft : Draft} (places : table.Places draft.field draft.location)
    (other : field ≠ draft.field) (extensible : object.Extensible) :
    Location.leavesBelow field location.steps (table.edit registry draft object).1 =
        Location.leavesBelow field location.steps object ∧
      Location.othersBelow field location.steps (table.edit registry draft object).1 =
        Location.othersBelow field location.steps object := by
  obtain ⟨found, known, second⟩ := places
  rw [edit_creatable known second.chain (second.creatable types)]
  exact placed.leaves_editSteps second other extensible

theorem leaves_editAll {drafts : List Draft}
    (places : ∀ draft ∈ drafts, table.Places draft.field draft.location)
    (others : field ∉ drafts.map Draft.field) (extensible : object.Extensible) :
    Location.leavesBelow field location.steps (table.editAll registry drafts object) =
      Location.leavesBelow field location.steps object := by
  induction drafts generalizing object with
  | nil => rfl
  | cons draft rest ih =>
      rw [List.map_cons, List.mem_cons, not_or] at others
      rw [List.forall_mem_cons] at places
      have first := (leaves_edit types placed places.1 others.1 extensible).1
      exact (ih places.2 others.2 (extensible_edit types places.1 extensible)).trans first

omit placed

/-- After drafts of distinct fields a drafted field reads as if its draft were the only one. -/
theorem read_editAll {drafts : List Draft} (settled : ∀ draft ∈ drafts, table.Settled draft)
    (distinct : (drafts.map Draft.field).Nodup) {draft : Draft} (listed : draft ∈ drafts)
    (known : table.find? draft.location = some location)
    (placed : Placed draft.field location.steps) (extensible : object.Extensible) :
    table.read (table.editAll registry drafts object) draft.field draft.location =
      Location.joinLeaves
        ((Location.foundLeaf draft.field draft.value location.steps).toList ++
          Location.othersBelow draft.field location.steps object) := by
  induction drafts generalizing object with
  | nil => cases listed
  | cons first rest ih =>
      rw [List.map_cons, List.nodup_cons] at distinct
      rw [List.forall_mem_cons] at settled
      have after := extensible_edit types settled.1.1 extensible
      change table.read (table.editAll registry rest (table.edit registry first object).1) _ _ = _
      cases List.mem_cons.mp listed with
      | inl same =>
          subst same
          obtain ⟨others, _, kept, own⟩ := read_edit draft known placed.nonempty placed.chain
            settled.1.2 (edit_placed types settled.1.1 object)
          -- The drafts behind this one change nothing that its location finds.
          have spared := leaves_editAll types placed
            (fun other inside => (settled.2 other inside).1) distinct.1 after
          rw [read_known known placed.nonempty] at own ⊢
          have passed : others = Location.othersBelow draft.field location.steps object := by
            refine kept ?_
            cases draft.value with
            | none => exact .inr placed.selects_none
            | some value => exact .inl rfl
          rw [spared, own, passed]
      | inr later =>
          -- The first draft leaves what the write of the later one passes by.
          have other : draft.field ≠ first.field := fun same =>
            distinct.1 (same ▸ List.mem_map_of_mem later)
          rw [ih settled.2 distinct.2 later after,
            (leaves_edit types placed settled.1.1 other extensible).2]

/-- A placed field reads the same after drafts of distinct fields in any two orders. -/
theorem read_editAll_perm {drafts others : List Draft} (permuted : drafts.Perm others)
    (settled : ∀ draft ∈ drafts, table.Settled draft)
    (distinct : (drafts.map Draft.field).Nodup) {name : String}
    (known : table.find? name = some location) (placed : Placed field location.steps)
    (own : ∀ draft ∈ drafts, draft.field = field → draft.location = name)
    (extensible : object.Extensible) :
    table.read (table.editAll registry drafts object) field name =
      table.read (table.editAll registry others object) field name := by
  have settledAlso : ∀ draft ∈ others, table.Settled draft := fun draft inside =>
    settled draft (permuted.mem_iff.mpr inside)
  by_cases drafted : field ∈ drafts.map Draft.field
  · obtain ⟨draft, listed, rfl⟩ := List.mem_map.mp drafted
    have here := own draft listed rfl
    subst here
    rw [read_editAll types settled distinct listed known placed extensible,
      read_editAll types settledAlso ((permuted.map _).nodup_iff.mp distinct)
        (permuted.mem_iff.mp listed) known placed extensible]
  · have also : field ∉ others.map Draft.field := fun inside =>
      drafted ((permuted.map _).mem_iff.mpr inside)
    rw [read_known known placed.nonempty, read_known known placed.nonempty,
      leaves_editAll types placed (fun draft inside => (settled draft inside).1) drafted extensible,
      leaves_editAll types placed (fun draft inside => (settledAlso draft inside).1) also
        extensible]

end LocationTable

end PropertyPanel
