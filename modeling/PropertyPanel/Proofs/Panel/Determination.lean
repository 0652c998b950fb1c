/-
This file proves that a panel that switches an element to another subtype finds the element to be of
this subtype afterwards.
-/

import PropertyPanel.Proofs.Configuration
import PropertyPanel.Proofs.Panel.Presence
import PropertyPanel.Proofs.Resolution.Determination

namespace PropertyPanel.Panel

section Render

variable {Host : Type} [DiagramHost Host]

/-- A rendering of an element that the host has keeps the selected subtype. -/
theorem selectedSubtype_render {panel : Panel} {host : Host} {id : ElementId}
    (selected : panel.current = some id) (known : (DiagramHost.elementType? host id).isSome) :
    (panel.render host).1.selectedSubtype = panel.selectedSubtype := by
  unfold render
  split
  · rfl
  · simp only [selected]
    obtain ⟨elementType, typed⟩ := Option.isSome_iff_exists.mp known
    simp only [typed]

theorem determineSubtype_eq {panel : Panel} {host : Host} {id : ElementId} {elementType : String}
    {element : ElementConfiguration} {object : BusinessObject} {kind : ElementSubtype}
    (typed : DiagramHost.elementType? host id = some elementType)
    (configured : panel.configuration.element? elementType = some element)
    (present : DiagramHost.businessObject? host id = some object)
    (determined : panel.configuration.locations.determine element object = some kind)
    (listed : kind ∈ element.subtypes) :
    panel.determineSubtype host id = some kind.name := by
  have forms : element.hasSubtypes = true := by
    rw [ElementConfiguration.hasSubtypes]
    cases named : element.subtypes with
    | nil =>
        rw [named] at listed
        cases listed
    | cons first rest => rfl
  simp [determineSubtype, typed, configured, forms, present, determined]

/-- A switch to a subtype that the element has ends as the rewrite does if it succeeds. -/
theorem switchSubtype_rewritten {panel : Panel} {host left : Host} {id : ElementId} {name : String}
    (selected : panel.current = some id) (knows : panel.knowsSubtype host id name = true)
    (rewritten : (panel.save host).1.rewriteSubtype (panel.save host).2.1 id name =
      (left, .ok ())) :
    panel.switchSubtype host name =
      (({ (panel.save host).1 with selectedSubtype := some name }.render left).1, left,
        .ok ()) := by
  simp only [switchSubtype, selected, knows, if_true, rewritten]

end Render

variable {panel : Panel} {diagram : Diagram} {id : ElementId} {elementType : String}
  {element : ElementConfiguration} {target : String} {wanted : ElementSubtype}

/-- A rewrite to a plain subtype ends with the switched object in the diagram. -/
theorem rewriteSubtype_plain (typed : DiagramHost.elementType? diagram id = some elementType)
    (configured : panel.configuration.element? elementType = some element)
    (known : element.subtype? target = some wanted)
    (plain : panel.configuration.locations.Plain wanted) :
    ∃ object left, panel.rewriteSubtype diagram id target = (left, .ok ()) ∧
      DiagramHost.businessObject? left id = some
        (panel.configuration.locations.switchedNode diagram.registry element wanted
          object) := by
  have held := LawfulHost.elementType?_isSome diagram id
  rw [typed, Option.isSome_some] at held
  obtain ⟨object, present⟩ := Option.isSome_iff_exists.mp held.symm
  have replaced := LawfulHost.businessObject?_replaceObject diagram id id object
    (panel.configuration.locations.switchedNode diagram.registry element wanted
      object) present
  rw [if_pos rfl] at replaced
  simp only [rewriteSubtype, typed, configured, present, Diagram.factory_registry,
    LocationTable.switchTo, known, LocationTable.rewrite_plain plain]
  split
  · exact ⟨object, _, rfl, replaced⟩
  · refine ⟨object, _, Prod.ext rfl (Diagram.updateProperties_known _ _
      (diagram_contains replaced) _), ?_⟩
    exact (LawfulHost.businessObject?_updateProperties _ _ _ _).trans replaced

/-- If the criteria of all subtypes expect values of distinct attributes and no other subtype
expects the same values as the target, then a switch to the target succeeds, whatever the element
holds and whatever drafts wait, and the element is determined to be of the target. -/
theorem switchSubtype_determined (declaration : ConfigurationDeclaration) (panel : Panel)
    (diagram : Diagram) (loaded : panel.configuration = .load declaration)
    (selected : panel.current = some id) (typed : diagram.elementType? id = some elementType)
    (configured : panel.configuration.element? elementType = some element)
    (plain : ∀ kind ∈ element.subtypes, panel.configuration.locations.Plain kind)
    (known : element.subtype? target = some wanted)
    (unique : ∀ kind ∈ element.subtypes, kind.name ≠ target →
      ¬ ∀ pair, pair ∈ kind.expectations ↔ pair ∈ wanted.expectations) :
    let (after, left, outcome) := panel.switchSubtype diagram target
    outcome = .ok () ∧ after.determineSubtype left id = some target ∧
      after.selectedSubtype = some target := by
  have listed : wanted ∈ element.subtypes := List.mem_of_find?_eq_some known
  have named : wanted.name = target := by simpa using List.find?_some known
  subst named
  have distinct : element.subtypeNames.Nodup := by
    rw [loaded] at configured
    exact Configuration.distinguished_load declaration elementType element configured
  have same : (panel.save diagram).1.configuration = panel.configuration :=
    panel.configuration_save diagram
  have flushed : DiagramHost.elementType? (panel.save diagram).2.1 id = some elementType :=
    (panel.elementType?_save diagram id).trans typed
  obtain ⟨object, left, rewritten, present⟩ := rewriteSubtype_plain flushed
    (same ▸ configured) known (same ▸ plain wanted listed)
  have kept : DiagramHost.elementType? left id = some elementType := by
    have unchanged := (panel.save diagram).1.elementType?_rewriteSubtype (panel.save diagram).2.1
      id id wanted.name
    rw [rewritten] at unchanged
    exact unchanged.trans flushed
  have knows : panel.knowsSubtype diagram id wanted.name = true := by
    have typed : DiagramHost.elementType? diagram id = some elementType := typed
    simp [knowsSubtype, typed, configured, known]
  rw [switchSubtype_rewritten selected knows rewritten]
  refine ⟨rfl, ?_, ?_⟩
  · have configuration : ({ (panel.save diagram).1 with
        selectedSubtype := some wanted.name }.render left).1.configuration = panel.configuration :=
      (congrArg Prod.fst (fixed_render _ left)).trans same
    refine determineSubtype_eq kept (configuration.symm ▸ configured) present ?_ listed
    rw [configuration, same]
    exact LocationTable.determine_switchedNode plain distinct listed unique object
  · exact selectedSubtype_render ((panel.current_save diagram).trans selected) (by rw [kept]; rfl)

section Overlapping

/-- Two names of one location. -/
def jobLocations : Dictionary String (List StepDeclaration) :=
  .ofList [("attribute", [⟨fieldIdWord, none, false, .empty⟩]),
    ("alias", [⟨fieldIdWord, none, false, .empty⟩])]

def jobSubtypes : List ElementSubtype :=
  [⟨"plain", [⟨"kind", "attribute", some (.text "x")⟩], .empty⟩,
    ⟨"timed", [⟨"kind", "alias", some (.text "x")⟩, ⟨"mode", "attribute", some (.flag true)⟩],
      .empty⟩,
    ⟨"urgent", [⟨"kind", "attribute", some (.text "z")⟩], .empty⟩]

def jobDeclaration : ConfigurationDeclaration :=
  ⟨jobLocations, .ofList [("Task", .ofList (jobSubtypes.map fun kind =>
    (kind.name, .subtype kind.criteria kind.fields)))]⟩

/-- A draft makes the selected task an urgent one before the switch. -/
def jobPanel : Panel :=
  { new (.load jobDeclaration) with
    ready := true
    current := some "task"
    pending := DraftBuffer.empty.stage ⟨"task", "kind", .atLocation "attribute", some (.text "z")⟩ }

/-- A diagram with a timed task. -/
def jobDiagram : Diagram :=
  (Diagram.new .permissive).insert ⟨"task", "Task",
    ((BusinessObject.empty "Task").setScalar "kind" (some (.text "x"))).setScalar "mode"
      (some (.flag true))⟩

/-- A timed task becomes a plain one although it fits both subtypes and a draft makes it urgent. -/
theorem switchSubtype_determined_overlapping :
    jobPanel.determineSubtype jobDiagram "task" = some "timed" ∧
      jobPanel.determineSubtype (jobPanel.save jobDiagram).2.1 "task" = some "urgent" ∧
      (let (after, left, outcome) := jobPanel.switchSubtype jobDiagram "plain"
      outcome = .ok () ∧ after.determineSubtype left "task" = some "plain" ∧
        after.selectedSubtype = some "plain") := by
  refine ⟨by decide, by decide, ?_⟩
  have flat (name : String) (steps : (jobPanel.configuration.locations.find? name).map
      Location.steps = some [.leaf .fieldId]) : jobPanel.configuration.locations.Flat name := by
    obtain ⟨location, known, same⟩ := Option.map_eq_some_iff.mp steps
    exact ⟨location, known, same⟩
  have configured : jobPanel.configuration.element? "Task" = some ⟨none, jobSubtypes⟩ := by decide
  have filled : ∀ kind ∈ jobSubtypes, ∀ criterion ∈ kind.criteria,
      criterion.value.any (fun value => !value.isEmpty) = true := by decide
  have more : ∀ kind ∈ jobSubtypes, kind.name ≠ "plain" →
      ∃ pair ∈ kind.expectations, pair ∉ [("kind", some (Scalar.text "x"))] := by decide
  refine switchSubtype_determined jobDeclaration jobPanel jobDiagram rfl rfl rfl configured ?_ rfl
    ?_
  · intro kind listed
    refine ⟨by revert kind; decide, fun criterion inside => ?_, fun criterion inside => flat _ ?_⟩
    · obtain ⟨value, held, test⟩ :=
        (Option.any_eq_true _ _).mp (filled kind listed criterion inside)
      exact ⟨value, held, by simpa using test⟩
    · revert criterion kind
      decide
  · intro kind listed other same
    obtain ⟨pair, expected, surplus⟩ := more kind listed other
    exact surplus ((same pair).mp expected)

end Overlapping

end PropertyPanel.Panel
