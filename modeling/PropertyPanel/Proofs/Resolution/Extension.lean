/-
This file proves that an edit of one field of an extension spares the nodes of all other fields.
-/

import PropertyPanel.Proofs.Resolution.Separation

namespace PropertyPanel

/-- All extensions of an element are below one node. -/
def extensionStep : Step :=
  .child (.literal "extensionElements") "bpmn:ExtensionElements" .none false

/-- A field of an extension is a node that has its name. -/
def fieldStep : Step :=
  .child (.literal "values") "flowable:Field" ⟨[("name", .fieldId)]⟩ true

/-- The node of a field holds the value itself or in the body of another node. -/
def valueSteps : List (List Step) :=
  [[.leaf (.literal "stringValue")], [.child (.literal "value") "flowable:String" .none false]]

theorem valueSteps_cases {rest : List Step} (held : rest ∈ valueSteps) :
    rest = [.leaf (.literal "stringValue")] ∨
      rest = [.child (.literal "value") "flowable:String" .none false] := by
  simpa [valueSteps] using held

theorem fieldStep_keyed : fieldStep.Keyed "name" := ⟨_, rfl, List.mem_singleton_self _⟩

theorem fieldStep_distinct : fieldStep.Distinct := by
  rintro filter ⟨⟩
  simp

/-- A value of a field does not take the place of its name. -/
theorem fieldStep_apart {rest : List Step} (held : rest ∈ valueSteps) (field : String) :
    Location.Apart field (fieldStep :: rest) := by
  have text : fieldStep.constrains "stringValue" = false := by decide
  have node : fieldStep.constrains "value" = false := by decide
  rcases valueSteps_cases held with rfl | rfl
  · exact List.isChain_cons_cons.mpr ⟨text, List.isChain_singleton _⟩
  · exact List.isChain_cons_cons.mpr ⟨node, List.isChain_singleton _⟩

namespace BusinessObject

/-- The fields of an extension node are listed. -/
def Extension (node : BusinessObject) : Prop :=
  node.typeTag = "bpmn:ExtensionElements" ∧ node.Listed "values"

/-- An element has at most one node of extensions. -/
def Extensible (object : BusinessObject) : Prop :=
  object.children "extensionElements" = [] ∨
    ∃ node, object.children "extensionElements" = [node] ∧ node.Extension

/-- The nodes in the extension of an element that hold the values of a field. -/
def holders (object : BusinessObject) (field : String) : List BusinessObject :=
  (extensionStep.selected field object).flatMap (fieldStep.selected field)

end BusinessObject

namespace Location

open BusinessObject (Extension Extensible holders)

variable {registry : TypeRegistry} {field name : String} {value : Option Scalar}
  {rest : List Step}

/-- An extension node after an edit of a field has the nodes of all other fields. -/
def Spares (field : String) (after before : BusinessObject) : Prop :=
  after.Extension ∧ ∀ other, other ≠ field →
    fieldStep.selected other after = fieldStep.selected other before

theorem spares_extension {after before : BusinessObject} (extension : before.Extension)
    (spares : fieldStep.Spares field after before) : Spares field after before :=
  ⟨⟨spares.typeTag.trans extension.1, spares.listed extension.2⟩, spares.selected⟩

theorem spares_writeSteps (held : rest ∈ valueSteps) {node : BusinessObject}
    (extension : node.Extension) :
    Spares field (writeSteps registry field name value (fieldStep :: rest) node).1 node :=
  spares_extension extension <| writeSteps_spares fieldStep_keyed (fieldStep_apart held field)
    fieldStep_distinct rfl extension.2

theorem spares_pruneBelow {node : BusinessObject} (extension : node.Extension) :
    Spares field (pruneBelow field (fieldStep :: rest) node).1 node :=
  spares_extension extension (pruneBelow_spares fieldStep_keyed rest node)

section Element

variable {object : BusinessObject}

theorem extensionStep_accepts {node : BusinessObject} (extension : node.Extension)
    (field : String) : extensionStep.accepts field node = true := by
  simp [Step.accepts, extensionStep, extension.1, Filter.accepts, Filter.none]

theorem selected_extensionless (bare : object.children "extensionElements" = [])
    (field : String) : extensionStep.selected field object = [] := by
  change (object.children "extensionElements").filter _ = []
  rw [bare]
  rfl

theorem holders_none (bare : object.children "extensionElements" = []) (field : String) :
    object.holders field = [] := by
  rw [holders, selected_extensionless bare]
  rfl

theorem selected_extension {node : BusinessObject}
    (single : object.children "extensionElements" = [node]) (extension : node.Extension)
    (field : String) : extensionStep.selected field object = [node] := by
  change (object.children "extensionElements").filter _ = [node]
  rw [single, List.filter_cons_of_pos (extensionStep_accepts extension field)]
  rfl

theorem holders_single {node : BusinessObject}
    (single : object.children "extensionElements" = [node]) (extension : node.Extension)
    (field : String) : object.holders field = fieldStep.selected field node := by
  rw [holders, selected_extension single extension, List.flatMap_singleton]

/-- A node of extensions is found at once. -/
theorem findIndex?_extension {node : BusinessObject}
    (single : object.children "extensionElements" = [node]) (extension : node.Extension)
    (field : String) : extensionStep.findIndex? field object = some 0 := by
  change (object.children "extensionElements").findIdx? _ = some 0
  rw [single, List.findIdx?_cons, extensionStep_accepts extension field]
  rfl

theorem findIndex?_extensionless (bare : object.children "extensionElements" = [])
    (field : String) : extensionStep.findIndex? field object = none := by
  change (object.children "extensionElements").findIdx? _ = none
  rw [bare]
  rfl

/-- An element after an edit of a field has the nodes of all other fields. -/
def SparesBelow (field : String) (after before : BusinessObject) : Prop :=
  after.Extensible ∧ ∀ other, other ≠ field → after.holders other = before.holders other

/-- The node of extensions may be replaced by one that spares the other fields. -/
theorem sparesBelow_replaced {after node next : BusinessObject}
    (single : object.children "extensionElements" = [node]) (extension : node.Extension)
    (replaced : after.children "extensionElements" = [next]) (spares : Spares field next node) :
    SparesBelow field after object := by
  refine ⟨.inr ⟨next, replaced, spares.1⟩, fun other different => ?_⟩
  rw [holders_single replaced spares.1, holders_single single extension]
  exact spares.2 other different

/-- A node of extensions that is made for a field has no nodes of other fields. -/
theorem sparesBelow_created (held : rest ∈ valueSteps) {value : Scalar}
    (bare : object.children "extensionElements" = []) {created : BusinessObject}
    (done : createBelow registry field name value (extensionStep :: fieldStep :: rest) object =
      .ok created) : SparesBelow field created object := by
  obtain ⟨fresh, below, known, inside, rfl⟩ := createBelow_child done
  have childless (name : String) : fresh.children name = [] := Step.create_children known name
  have spares : fieldStep.Spares field below fresh :=
    createBelow_spares fieldStep_keyed (fieldStep_apart held field) fieldStep_distinct rfl
      (BusinessObject.listed_childless (childless _)) inside
  have extension : below.Extension :=
    ⟨spares.typeTag.trans (Step.create_typeTag known),
      spares.listed (BusinessObject.listed_childless (childless _))⟩
  have only : (object.attach "extensionElements" below false).children "extensionElements" =
      [below] := by
    simp [BusinessObject.attach, BusinessObject.children]
  refine ⟨.inr ⟨_, only, extension⟩, fun other different => ?_⟩
  change BusinessObject.holders (object.attach "extensionElements" below false) other = _
  rw [holders_single only extension, spares.selected other different, holders_none bare,
    Step.selected, childless]
  rfl

theorem sparesBelow_writeSteps (held : rest ∈ valueSteps) (extensible : object.Extensible) :
    SparesBelow field
      (writeSteps registry field name value (extensionStep :: fieldStep :: rest) object).1
      object := by
  have inner : extensionStep.isLeaf = false := rfl
  rcases extensible with bare | ⟨node, single, extension⟩
  · have missing := findIndex?_extensionless bare field
    cases value with
    | none =>
        rw [writeSteps_absent registry field name inner _ missing]
        exact ⟨.inl bare, fun _ _ => rfl⟩
    | some value =>
        rw [writeSteps_missing registry field name inner _ missing]
        split
        · rename_i created made
          exact sparesBelow_created held bare made
        · exact ⟨.inl bare, fun _ _ => rfl⟩
  · have children : object.children (extensionStep.name field) = [] ++ node :: [] := single
    rw [writeSteps_child registry field name value inner _
      (findIndex?_extension single extension field) children]
    have spares : Spares field
        (writeSteps registry field name value (fieldStep :: rest) node).1 node :=
      spares_writeSteps held extension
    refine sparesBelow_replaced single extension ?_ spares
    exact extensionStep.children_replaceFirst field object children _

theorem sparesBelow_pruneBelow (extensible : object.Extensible) :
    SparesBelow field (pruneBelow field (extensionStep :: fieldStep :: rest) object).1 object := by
  rcases extensible with bare | ⟨node, single, extension⟩
  · rw [pruneBelow_missing field rfl _ (findIndex?_extensionless bare field)]
    exact ⟨.inl bare, fun _ _ => rfl⟩
  · have children : object.children (extensionStep.name field) = [] ++ node :: [] := single
    have spares : Spares field (pruneBelow field (fieldStep :: rest) node).1 node :=
      spares_pruneBelow extension
    rw [pruneBelow_child field rfl _ (findIndex?_extension single extension field) children]
    split
    · -- A vacant node of extensions has no fields.
      rename_i cleared
      rw [Bool.and_eq_true] at cleared
      have dropped : (object.dropChild (extensionStep.name field) 0).children
          "extensionElements" = [] := by
        have rest := object.children_dropChild (extensionStep.name field) 0
        rw [children] at rest
        exact rest
      refine ⟨.inl dropped, fun other different => ?_⟩
      have free : extensionStep.permits field "values" none = true := rfl
      have absent :
          fieldStep.selected other (pruneBelow field (fieldStep :: rest) node).1 = [] := by
        change (BusinessObject.children _ "values").filter _ = []
        rw [BusinessObject.children, isVacant_property? cleared.2 free]
        rfl
      rw [holders_single single extension, ← spares.2 other different, absent]
      exact holders_none dropped other
    · refine sparesBelow_replaced single extension ?_ spares
      exact extensionStep.children_replaceFirst field object children _

theorem sparesBelow_editSteps (held : rest ∈ valueSteps) (extensible : object.Extensible) :
    SparesBelow field
      (editSteps registry field name value (extensionStep :: fieldStep :: rest) object) object := by
  have written : SparesBelow field (writeSteps registry field name value
      (extensionStep :: fieldStep :: rest) object).1 object :=
    sparesBelow_writeSteps held extensible
  rw [editSteps]
  split
  · have pruned : SparesBelow field (pruneBelow field (extensionStep :: fieldStep :: rest)
        (writeSteps registry field name value (extensionStep :: fieldStep :: rest) object).1).1
        (writeSteps registry field name value (extensionStep :: fieldStep :: rest) object).1 :=
      sparesBelow_pruneBelow written.1
    exact ⟨pruned.1, fun other different =>
      (pruned.2 other different).trans (written.2 other different)⟩
  · exact written

/-- The leaves of a field of the extension are those of its nodes. -/
theorem leavesBelow_holders (field : String) (rest : List Step) (object : BusinessObject) :
    leavesBelow field (extensionStep :: fieldStep :: rest) object =
      (object.holders field).flatMap (leavesBelow field rest) := by
  rw [leavesBelow_step field (.inl rfl), holders, List.flatMap_assoc]
  refine congrArg (List.flatMap · _) (funext fun node => ?_)
  exact leavesBelow_step field (.inl rfl) node

/-- The leaves that a write of a field of the extension passes by are those of its other nodes. -/
theorem othersBelow_holders (extensible : object.Extensible) (field : String)
    (rest : List Step) :
    othersBelow field (extensionStep :: fieldStep :: rest) object =
      match object.holders field with
      | [] => []
      | first :: others =>
          othersBelow field rest first ++ others.flatMap (leavesBelow field rest) := by
  rcases extensible with bare | ⟨node, single, extension⟩
  · rw [othersBelow_missing (selected_extensionless bare field), holders_none bare]
  · rw [othersBelow, selected_extension single extension, holders_single single extension]
    cases held : fieldStep.selected field node with
    | nil => simp [othersBelow, held]
    | cons first others => simp [othersBelow, held]

end Element

end Location

end PropertyPanel
