/-
This file proves that a panel treats an element in the same way whatever drafts it has of other
elements.
-/

import PropertyPanel.Proofs.Diagram.Slice
import PropertyPanel.Proofs.Panel.Application
import PropertyPanel.Proofs.Panel.Presence

namespace PropertyPanel

def Draft.isOf (id : ElementId) (draft : Draft) : Bool := draft.element = id

/-- Drafts with one key are of one element. -/
theorem Draft.isOf_key {id : ElementId} {first second : Draft} (same : first.key = second.key) :
    first.isOf id = second.isOf id :=
  congrArg (fun key : ElementId × String => decide (key.1 = id)) same

namespace DraftBuffer

/-- A draft of another element is staged apart. -/
theorem stageInto_other {id : ElementId} {draft : Draft} (other : draft.isOf id = false)
    (drafts : List Draft) :
    (stageInto draft drafts).filter (Draft.isOf id) = drafts.filter (Draft.isOf id) := by
  induction drafts with
  | nil => simp [stageInto, other]
  | cons first rest ih =>
      rw [stageInto]
      split
      · rename_i same
        have apart : first.isOf id = false := (Draft.isOf_key same).trans other
        simp [other, apart]
      · simp [List.filter_cons, ih]

/-- A draft is staged among those of its element. -/
theorem stageInto_own {id : ElementId} {draft : Draft} (own : draft.isOf id = true)
    (drafts : List Draft) :
    (stageInto draft drafts).filter (Draft.isOf id) =
      stageInto draft (drafts.filter (Draft.isOf id)) := by
  induction drafts with
  | nil => simp [stageInto, own]
  | cons first rest ih =>
      rw [stageInto]
      split
      · rename_i same
        have together : first.isOf id = true := (Draft.isOf_key same).trans own
        simp [own, together, stageInto, same]
      · rename_i different
        by_cases together : first.isOf id = true
        · simp [together, stageInto, different, ih]
        · simp [together, ih]

end DraftBuffer

namespace Panel

section Drafts

variable (locations : LocationTable) {id : ElementId} {first second : Diagram}

/-- What a draft makes of its element depends on no other element. -/
theorem alikeFor_applyDraft {draft : Draft} (own : draft.element = id)
    (alike : first.AlikeFor id second) :
    (applyDraft locations draft first).1.AlikeFor id (applyDraft locations draft second).1 ∧
      (applyDraft locations draft first).2 = (applyDraft locations draft second).2 := by
  subst own
  have object : DiagramHost.businessObject? first draft.element =
      DiagramHost.businessObject? second draft.element := alike.businessObject?
  have factory : DiagramHost.factory first draft.element =
      DiagramHost.factory second draft.element := congrArg TypeRegistry.create alike.registry
  unfold applyDraft
  rw [object, factory]
  split
  · exact ⟨alike, rfl⟩
  · rename_i before present
    dsimp only
    generalize locations.edit (DiagramHost.factory second draft.element) draft before = edit
    obtain ⟨after, outcome⟩ := edit
    have edited := alike.replaceObject after
    cases outcome with
    | error error => exact ⟨edited, rfl⟩
    | ok =>
        dsimp only
        split
        · exact ⟨edited, rfl⟩
        · exact edited.updateProperties [draft.update]

/-- Drafts do the same to an element with and without those of other elements between them. -/
theorem replay_isOf (alike : first.AlikeFor id second) (drafts : List Draft) :
    let apply : Draft → Diagram → _ := applyDraft locations
    let own := drafts.filter (Draft.isOf id)
    (DraftBuffer.replay apply drafts first).AlikeFor id (DraftBuffer.replay apply own second) ∧
      (DraftBuffer.failed apply drafts first).filter (Draft.isOf id) =
        DraftBuffer.failed apply own second := by
  induction drafts generalizing first second with
  | nil => exact ⟨alike, rfl⟩
  | cons draft rest ih =>
      cases own : draft.isOf id with
      | true =>
          obtain ⟨after, same⟩ := alikeFor_applyDraft locations (of_decide_eq_true own) alike
          obtain ⟨replayed, left⟩ := ih after
          dsimp only
          rw [List.filter_cons_of_pos own]
          refine ⟨replayed, ?_⟩
          cases outcome : (applyDraft locations draft first).2 with
          | ok =>
              rw [DraftBuffer.failed_ok rest outcome, left,
                DraftBuffer.failed_ok _ (same.symm.trans outcome)]
          | error error =>
              rw [DraftBuffer.failed_error rest outcome, List.filter_cons_of_pos own, left,
                DraftBuffer.failed_error _ (same.symm.trans outcome)]
      | false =>
          have apart : ¬ id = draft.element := fun same => of_decide_eq_false own same.symm
          have after := alike.frame (frame_applyDraft locations draft first) apart
          obtain ⟨replayed, left⟩ := ih after
          have skipped : ¬ draft.isOf id = true := by simp [own]
          dsimp only
          rw [List.filter_cons_of_neg skipped]
          refine ⟨replayed, ?_⟩
          cases outcome : (applyDraft locations draft first).2 with
          | ok => rw [DraftBuffer.failed_ok rest outcome, left]
          | error error =>
              rw [DraftBuffer.failed_error rest outcome, List.filter_cons_of_neg skipped, left]

/-- Buffers with the same drafts of an element do the same to it. -/
theorem alikeFor_replay (alike : first.AlikeFor id second) {drafts others : List Draft}
    (same : drafts.filter (Draft.isOf id) = others.filter (Draft.isOf id)) :
    let apply : Draft → Diagram → _ := applyDraft locations
    (DraftBuffer.replay apply drafts first).AlikeFor id (DraftBuffer.replay apply others second) ∧
      (DraftBuffer.failed apply drafts first).filter (Draft.isOf id) =
        (DraftBuffer.failed apply others second).filter (Draft.isOf id) := by
  intro apply
  have unchanged : first.AlikeFor id first := .refl first
  have here := replay_isOf locations unchanged drafts
  have there := replay_isOf locations alike.symm others
  rw [same] at here
  exact ⟨here.1.trans there.1.symm, here.2.trans there.2.symm⟩

end Drafts

/-- The selected element is gone, so that a rendering gives up the selection. -/
def loses {Host : Type} [DiagramHost Host] (panel : Panel) (host : Host) : Bool :=
  !panel.rendering && panel.current.any fun id => (DiagramHost.elementType? host id).isNone

/-- A rendering changes no more than the view of a panel whose selected element is there. -/
theorem render_eq {Host : Type} [DiagramHost Host] (panel : Panel) (host : Host) :
    (panel.render host).1 =
      if panel.loses host then panel.resetSelection
      else { panel with view := (panel.render host).1.view } := by
  unfold render loses
  cases panel with
  | mk configuration pending current selectedSubtype rendering ready view notice =>
      cases rendering with
      | true => rfl
      | false =>
          cases current with
          | none => rfl
          | some id => cases typed : DiagramHost.elementType? host id <;> simp [typed]

/-- Panels with their diagrams are alike for an element if they differ at most in the slices and
the drafts of other elements and in what they show. -/
structure AlikeFor (id : ElementId) (first second : Panel × Diagram) : Prop where
  configuration : first.1.configuration = second.1.configuration
  rendering : first.1.rendering = second.1.rendering
  ready : first.1.ready = second.1.ready
  current : first.1.current = second.1.current
  selectedSubtype : first.1.current = some id →
    first.1.selectedSubtype = second.1.selectedSubtype
  drafts : first.1.pending.drafts.filter (Draft.isOf id) =
    second.1.pending.drafts.filter (Draft.isOf id)
  diagram : first.2.AlikeFor id second.2

namespace AlikeFor

variable {id : ElementId} {first second : Panel} {left right : Diagram}

theorem refl (state : Panel × Diagram) : AlikeFor id state state :=
  ⟨rfl, rfl, rfl, rfl, fun _ => rfl, rfl, .refl _⟩

variable (alike : AlikeFor id (first, left) (second, right))

include alike

theorem elementType? (other : ElementId) :
    DiagramHost.elementType? left other = DiagramHost.elementType? right other :=
  alike.diagram.elementType? other

theorem determineSubtype : first.determineSubtype left id = second.determineSubtype right id := by
  have object : DiagramHost.businessObject? left id = DiagramHost.businessObject? right id :=
    alike.diagram.businessObject?
  have configuration := alike.configuration
  simp only [Panel.determineSubtype, alike.elementType?, object] at configuration ⊢
  rw [configuration]

theorem resetSelection :
    AlikeFor id (first.resetSelection, left) (second.resetSelection, right) :=
  { alike with
    current := rfl
    selectedSubtype := fun unselected => by cases unselected }

theorem render : AlikeFor id ((first.render left).1, left) ((second.render right).1, right) := by
  have loses : first.loses left = second.loses right := by
    have rendering := alike.rendering
    have current := alike.current
    simp only [Panel.loses, alike.elementType?] at rendering current ⊢
    rw [rendering, current]
  rw [first.render_eq left, second.render_eq right, loses]
  split
  · exact alike.resetSelection
  · exact { alike with }

theorem save :
    AlikeFor id ((first.save left).1, (first.save left).2.1)
      ((second.save right).1, (second.save right).2.1) := by
  have ready : first.ready = second.ready := alike.ready
  have configuration : first.configuration = second.configuration := alike.configuration
  have applied := alikeFor_replay second.configuration.locations alike.diagram alike.drafts
  simp only [← DraftBuffer.flush_state, ← DraftBuffer.flush_drafts] at applied
  unfold Panel.save
  rw [ready, configuration]
  split
  · exact { alike with
      configuration := rfl
      ready := rfl
      drafts := applied.2
      diagram := applied.1 }
  · exact alike

theorem clearSelection :
    AlikeFor id (first.clearSelection left) (second.clearSelection right) :=
  alike.save.resetSelection

theorem select (other : ElementId) :
    AlikeFor id ((first.select left other).1, (first.select left other).2.1)
      ((second.select right other).1, (second.select right other).2.1) := by
  have saved := alike.save
  simp only [Panel.select]
  rw [saved.elementType? other]
  split
  · exact saved.resetSelection
  · refine AlikeFor.render { saved with current := rfl, selectedSubtype := fun selected => ?_ }
    cases selected
    exact saved.determineSubtype

theorem discardVanished :
    AlikeFor id (first.discardVanished left, left) (second.discardVanished right, right) := by
  refine { alike with drafts := ?_ }
  have drafts : first.pending.drafts.filter (Draft.isOf id) =
    second.pending.drafts.filter (Draft.isOf id) := alike.drafts
  have known (draft : Draft) : (DiagramHost.elementType? left draft.element).isSome =
      (DiagramHost.elementType? right draft.element).isSome :=
    congrArg Option.isSome (alike.elementType? draft.element)
  simp only [Panel.pending_discardVanished, DraftBuffer.filter, known]
  rw [List.filter_comm, drafts, List.filter_comm]

theorem onImport : AlikeFor id (first.onImport left, left) (second.onImport right, right) := by
  have ready : AlikeFor id ({ first with ready := true }, left)
    ({ second with ready := true }, right) := { alike with ready := rfl }
  have imported := ready.discardVanished
  unfold Panel.onImport
  dsimp only
  generalize Panel.discardVanished { first with ready := true } left = here at imported ⊢
  generalize Panel.discardVanished { second with ready := true } right = there at imported ⊢
  have current : here.current = there.current := imported.current
  rw [current]
  split
  · exact imported
  · rename_i other selected
    rw [alike.elementType? other]
    split
    · refine AlikeFor.render { imported with current := rfl, selectedSubtype := fun same => ?_ }
      cases selected.symm.trans same
      exact imported.determineSubtype
    · exact imported.resetSelection

theorem handle (given : HostEvent) :
    AlikeFor id (first.handle left given) (second.handle right given) := by
  cases given with
  | importDone => exact alike.onImport
  | selectionChanged selection =>
      have ready : first.ready = second.ready := alike.ready
      simp only [Panel.handle, ready]
      split
      · split
        · exact alike.select _
        · exact alike.clearSelection
      · exact alike

/-- The selected element shows the same fields. -/
theorem descriptor? (selected : first.current = some id) (field : String) :
    first.descriptor? left field = second.descriptor? right field := by
  have configuration : first.configuration = second.configuration := alike.configuration
  have current : first.current = second.current := alike.current
  have selectedSubtype : first.selectedSubtype = second.selectedSubtype :=
    alike.selectedSubtype selected
  simp only [Panel.descriptor?, configuration, current, selectedSubtype, alike.elementType?]

end AlikeFor

/-- An input for another element leaves the drafts of an element and the rest of the panel. -/
theorem input_other {Host : Type} [DiagramHost Host] {panel : Panel} (host : Host)
    {id : ElementId} (apart : panel.current ≠ some id) (field : String) (typed : FieldInput) :
    ∃ pending, (panel.input host field typed).1 = { panel with pending } ∧
      pending.drafts.filter (Draft.isOf id) = panel.pending.drafts.filter (Draft.isOf id) := by
  unfold input
  split
  · rename_i element descriptor selected shown
    dsimp only
    split
    · exact ⟨panel.pending, rfl, rfl⟩
    · refine ⟨_, rfl, DraftBuffer.stageInto_other (decide_eq_false fun same => ?_) _⟩
      exact apart (same ▸ selected)
  · exact ⟨panel.pending, rfl, rfl⟩

section Step

variable {id : ElementId} {first second : Panel} {left right : Diagram}

theorem AlikeFor.input (alike : AlikeFor id (first, left) (second, right)) (field : String)
    (typed : FieldInput) :
    AlikeFor id ((first.input left field typed).1, left)
      ((second.input right field typed).1, right) := by
  have current : first.current = second.current := alike.current
  have drafts : first.pending.drafts.filter (Draft.isOf id) =
    second.pending.drafts.filter (Draft.isOf id) := alike.drafts
  by_cases selected : first.current = some id
  · have shown := alike.descriptor? selected field
    unfold Panel.input
    rw [shown, ← current, selected]
    split
    · rename_i element descriptor same described
      cases same
      split
      · exact alike
      · refine { alike with
          current := rfl
          selectedSubtype := fun _ => alike.selectedSubtype selected
          drafts := ?_ }
        have own : Draft.isOf id ⟨id, field, descriptor, typed.value⟩ = true := decide_eq_true rfl
        refine (DraftBuffer.stageInto_own own _).trans ?_
        rw [drafts]
        exact (DraftBuffer.stageInto_own own _).symm
    · exact alike
  · obtain ⟨here, entered, kept⟩ := input_other left selected field typed
    obtain ⟨there, staged, same⟩ := input_other right (current ▸ selected) field typed
    rw [entered, staged]
    exact { alike with drafts := kept.trans (drafts.trans same.symm) }

/-- A rewrite of an element depends on no other element. -/
theorem AlikeFor.rewriteSubtype (alike : AlikeFor id (first, left) (second, right))
    (name : String) :
    (first.rewriteSubtype left id name).1.AlikeFor id (second.rewriteSubtype right id name).1 ∧
      (first.rewriteSubtype left id name).2 = (second.rewriteSubtype right id name).2 := by
  have configuration : first.configuration = second.configuration := alike.configuration
  have object : DiagramHost.businessObject? left id = DiagramHost.businessObject? right id :=
    alike.diagram.businessObject?
  have factory : DiagramHost.factory left id = DiagramHost.factory right id :=
    congrArg TypeRegistry.create alike.diagram.registry
  unfold Panel.rewriteSubtype
  rw [alike.elementType? id, object, factory, configuration]
  split
  · exact ⟨alike.diagram, rfl⟩
  · split
    · exact ⟨alike.diagram, rfl⟩
    · exact ⟨alike.diagram, rfl⟩
    · rename_i elementType typed element before configured present
      dsimp only
      generalize second.configuration.locations.switchTo (DiagramHost.factory right id) element name
        before = switch
      obtain ⟨after, outcome⟩ := switch
      have edited := alike.diagram.replaceObject after
      cases outcome with
      | error error => exact ⟨edited, rfl⟩
      | ok updates =>
          dsimp only
          split
          · exact ⟨edited, rfl⟩
          · exact edited.updateProperties updates

/-- A switch to a known subtype changes the selected subtype and the view after the save. -/
theorem switchSubtype_known {panel : Panel} {diagram : Diagram} {name : String}
    (selected : panel.current = some id) (knows : panel.knowsSubtype diagram id name = true) :
    (panel.switchSubtype diagram name).2.1 =
        ((panel.save diagram).1.rewriteSubtype (panel.save diagram).2.1 id name).1 ∧
      ∃ view, (panel.switchSubtype diagram name).1 = { (panel.save diagram).1 with
        selectedSubtype :=
          if ((panel.save diagram).1.rewriteSubtype (panel.save diagram).2.1 id name).2.isOk then
            some name
          else (panel.save diagram).1.selectedSubtype
        view } := by
  have typed : (DiagramHost.elementType? (panel.save diagram).2.1 id).isSome = true := by
    rw [elementType?_save]
    cases type : DiagramHost.elementType? diagram id with
    | none => simp [knowsSubtype, type] at knows
    | some elementType => rfl
  have current : (panel.save diagram).1.current = some id :=
    (panel.current_save diagram).trans selected
  simp only [switchSubtype, selected, knows, if_true]
  generalize (panel.save diagram).1 = saved at current ⊢
  generalize (panel.save diagram).2.1 = flushed at typed ⊢
  rw [← elementType?_rewriteSubtype saved flushed id id name] at typed
  generalize saved.rewriteSubtype flushed id name = rewrite at typed ⊢
  obtain ⟨rewritten, outcome⟩ := rewrite
  cases outcome with
  | error error => exact ⟨rfl, saved.view, rfl⟩
  | ok =>
      have kept : Panel.loses { saved with selectedSubtype := some name } rewritten = false := by
        simp [loses, current, show (DiagramHost.elementType? rewritten id).isSome = true from typed]
      have rendered := Panel.render_eq { saved with selectedSubtype := some name } rewritten
      rw [kept, if_neg Bool.false_ne_true] at rendered
      exact ⟨rfl, _, rendered⟩

/-- Rewrites of the selected element that end in different ways do so for other elements only. -/
theorem AlikeFor.rewritten (alike : AlikeFor id (first, left) (second, right)) {edited : ElementId}
    (selected : first.current = some edited) (name : String) (view other : Option PanelView) :
    let (changed, outcome) := first.rewriteSubtype left edited name
    let (revised, result) := second.rewriteSubtype right edited name
    AlikeFor id
      ({ first with
          selectedSubtype := if outcome.isOk then some name else first.selectedSubtype
          view }, changed)
      ({ second with
          selectedSubtype := if result.isOk then some name else second.selectedSubtype
          view := other }, revised) := by
  dsimp only
  by_cases own : edited = id
  · subst own
    obtain ⟨diagram, same⟩ := alike.rewriteSubtype name
    rw [same]
    refine { alike with selectedSubtype := fun chosen => ?_, diagram := diagram }
    exact congrArg (if (second.rewriteSubtype right edited name).2.isOk then some name else ·)
      (alike.selectedSubtype chosen)
  · have here := alike.diagram.frame (frame_rewriteSubtype first left edited name) (Ne.symm own)
    have there := here.symm.frame (frame_rewriteSubtype second right edited name) (Ne.symm own)
    refine { alike with selectedSubtype := fun chosen => ?_, diagram := there.symm }
    exact absurd (Option.some.inj (selected.symm.trans chosen)) own

theorem AlikeFor.switchSubtype (alike : AlikeFor id (first, left) (second, right))
    (name : String) :
    AlikeFor id ((first.switchSubtype left name).1, (first.switchSubtype left name).2.1)
      ((second.switchSubtype right name).1, (second.switchSubtype right name).2.1) := by
  have current : first.current = second.current := alike.current
  have configuration : first.configuration = second.configuration := alike.configuration
  cases selected : first.current with
  | none =>
      have unselected := current.symm.trans selected
      simp only [Panel.switchSubtype, selected, unselected]
      exact alike
  | some edited =>
      have same := current.symm.trans selected
      have knows : first.knowsSubtype left edited name = second.knowsSubtype right edited name := by
        rw [knowsSubtype, knowsSubtype, alike.elementType? edited, configuration]
      cases known : second.knowsSubtype right edited name with
      | false =>
          rw [known] at knows
          simp only [Panel.switchSubtype, selected, same, knows, known, Bool.false_eq_true,
            if_false]
          exact alike
      | true =>
          obtain ⟨here, view, shown⟩ := switchSubtype_known selected (knows.trans known)
          obtain ⟨there, other, seen⟩ := switchSubtype_known same known
          rw [here, there, shown, seen]
          exact alike.save.rewritten ((first.current_save left).trans selected) name view other

end Step

end Panel

end PropertyPanel
