/-
This file proves that the operations of a panel change no elements but those that have drafts and
the one that is switched, and that drafts of one element never reach another.
-/

import PropertyPanel.Proofs.Panel.Alike
import PropertyPanel.Proofs.Panel.SavedDocument

namespace PropertyPanel

namespace Panel

/-- An operation can touch an element by a draft or by a switch while it is selected. -/
def Touches (panel : Panel) (operation : Operation Diagram) (id : ElementId) : Prop :=
  (∃ draft ∈ panel.pending.drafts, draft.element = id) ∨
    ∃ name, operation = .switchSubtype name ∧ panel.current = some id

/-- A save touches the elements of the drafts. -/
theorem frame_save (panel : Panel) (diagram : Diagram) :
    diagram.Frame (fun id => ∃ draft ∈ panel.pending.drafts, draft.element = id)
      (panel.save diagram).2.1 := by
  refine save_kept (diagram.Frame _) (.refl diagram) fun draft listed after frame => frame.trans ?_
  exact (frame_applyDraft _ draft after).mono fun id same => ⟨draft, listed, same.symm⟩

/-- The panel without the drafts of other elements. -/
def only (panel : Panel) (id : ElementId) : Panel :=
  { panel with pending := panel.pending.filter (Draft.isOf id) }

theorem AlikeFor.only {id : ElementId} {first second : Panel × Diagram}
    (alike : AlikeFor id first second) : AlikeFor id first (second.1.only id, second.2) := by
  refine { alike with drafts := alike.drafts.trans ?_ }
  exact (List.filter_filter.trans (by simp)).symm

end Panel

namespace Operation

theorem frame_perform {operation : Operation Diagram} (inside : operation.Inside) (panel : Panel)
    (diagram : Diagram) :
    diagram.Frame (panel.Touches operation) (operation.perform (panel, diagram)).2 := by
  have saved : diagram.Frame (panel.Touches operation) (panel.save diagram).2.1 :=
    (panel.frame_save diagram).mono fun _ drafted => .inl drafted
  refine operation.host_perform (diagram.Frame (panel.Touches operation)) panel diagram
    (.refl diagram) saved (fun id name switch selected => ?_)
    (fun made same => absurd same (inside made))
  refine saved.trans ((Panel.frame_rewriteSubtype _ _ id name).mono fun other same => ?_)
  exact .inr ⟨name, switch, same ▸ selected⟩

/-- An operation keeps states alike for an element. -/
theorem alikeFor_perform {operation : Operation Diagram} (inside : operation.Inside)
    {id : ElementId} {first second : Panel × Diagram} (alike : Panel.AlikeFor id first second) :
    Panel.AlikeFor id (operation.perform first) (operation.perform second) := by
  obtain ⟨here, left⟩ := first
  obtain ⟨there, right⟩ := second
  cases operation with
  | select other => exact alike.select other
  | clearSelection => exact alike.clearSelection
  | input field typed => exact alike.input field typed
  | save => exact alike.save
  | switchSubtype name => exact alike.switchSubtype name
  | render => exact alike.render
  | event given => exact alike.handle given
  | change made => exact absurd rfl (inside made)

/-- A run in which the drafts of all other elements are thrown away as soon as they are typed. -/
def runOnly (id : ElementId) (operations : List (Operation Diagram)) (state : Panel × Diagram) :
    Panel × Diagram :=
  operations.foldl (fun state operation => operation.perform (state.1.only id, state.2)) state

theorem alikeFor_runOnly {operations : List (Operation Diagram)}
    (inside : ∀ operation ∈ operations, operation.Inside) {id : ElementId}
    {first second : Panel × Diagram} (alike : Panel.AlikeFor id first second) :
    Panel.AlikeFor id (run operations first) (runOnly id operations second) := by
  induction operations generalizing first second with
  | nil => exact alike
  | cons operation rest ih =>
      rw [List.forall_mem_cons] at inside
      exact ih inside.2 (alikeFor_perform inside.1 alike.only)

/-- An operation of a panel keeps the registry, the elements with their types and their order, and
the log so far, and it changes no element without drafts but the one that it switches. An element
has the same object and the same reports as if drafts of other elements had been thrown away as
soon as they were typed, and a draft that has been typed is of the element that was selected. -/
theorem run_contained (start : Panel × Diagram) (earlier : List (Operation Diagram))
    (operation : Operation Diagram)
    (inside : ∀ performed ∈ earlier ++ [operation], performed.Inside) :
    let (panel, diagram) := run earlier start
    let (_, left) := operation.perform (panel, diagram)
    left.registry = diagram.registry ∧ left.outline = diagram.outline ∧
      diagram.mutations <+: left.mutations ∧
      (∀ id, (∀ draft ∈ panel.pending.drafts, draft.element ≠ id) →
        (∀ name, operation = .switchSubtype name → panel.current ≠ some id) →
          left.slice id = diagram.slice id) ∧
      (∀ id, left.slice id = (runOnly id (earlier ++ [operation]) start).2.slice id) ∧
      ∀ draft ∈ panel.pending.drafts,
        draft ∈ start.1.pending.drafts ∨ Staged earlier start draft := by
  have frame := frame_perform (inside operation (by simp)) (run earlier start).1
    (run earlier start).2
  have last : run (earlier ++ [operation]) start = operation.perform (run earlier start) :=
    List.foldl_append
  have same (id : ElementId) : Panel.AlikeFor id start start := .refl start
  have alike (id : ElementId) := alikeFor_runOnly inside (same id)
  rw [last] at alike
  refine ⟨frame.registry, frame.outline, frame.log, fun id undrafted unswitched => ?_,
    fun id => (alike id).diagram.slice, fun draft => pending_run earlier start⟩
  refine frame.slice id ?_
  rintro (drafted | switched)
  · obtain ⟨draft, listed, same⟩ := drafted
    exact undrafted draft listed same
  · obtain ⟨name, same, selected⟩ := switched
    exact unswitched name same selected

section Tasks

/-- Three tasks in a panel that is not ready. -/
def threeTasks : Panel × Diagram :=
  (Panel.new ⟨.ofList [("attribute", ⟨"attribute", [.leaf .fieldId]⟩)],
      .ofList [("name", .atLocation "attribute")], .ofList [("Task", ⟨some .empty, []⟩)], []⟩,
    (((Diagram.new .permissive).insert (.new "first" "Task")).insert (.new "second" "Task")).insert
      (.new "third" "Task"))

/-- Two tasks are named before the panel is ready. -/
def namedTwice : List (Operation Diagram) :=
  [.select "first", .input "name" (.text "n"), .select "second", .input "name" (.text "m"),
    .event .importDone]

/-- The names of two tasks are saved when the third one is selected. -/
theorem run_contained_names :
    let (panel, diagram) := run namedTwice threeTasks
    let (_, left) := (select "third" : Operation Diagram).perform (panel, diagram)
    panel.pending.drafts.map Draft.key = [("first", "name"), ("second", "name")] ∧
      left.mutations.map Mutation.element = ["first", "second"] ∧
      left.outline = diagram.outline ∧ left.slice "third" = diagram.slice "third" ∧
      left.slice "second" =
        (runOnly "second" (namedTwice ++ [.select "third"]) threeTasks).2.slice "second" := by
  have inside : ∀ performed ∈ namedTwice ++ [.select "third"], performed.Inside := by
    intro performed listed made same
    subst same
    simp [namedTwice] at listed
  obtain ⟨_, outline, _, untouched, alone, _⟩ :=
    run_contained threeTasks namedTwice (.select "third") inside
  refine ⟨by decide, by decide, outline, untouched "third" (by decide) ?_, alone "second"⟩
  intro name same
  cases same

end Tasks

end Operation

end PropertyPanel
