/-
This file performs the operations of a panel on any hosts one after the other and proves that the
panel shows the selected element, and nothing else, whatever becomes of the hosts in between.
-/

import PropertyPanel.Diagram.Memory
import PropertyPanel.Proofs.Panel.Run

namespace PropertyPanel

namespace Panel

/-- An idle panel shows the selected element alone and has no subtype without a selection. -/
structure Consistent (panel : Panel) : Prop where
  idle : panel.rendering = false
  untyped : panel.current = none → panel.selectedSubtype = none
  shows : panel.view.map PanelView.element = panel.current

theorem consistent_new (configuration : Configuration) : (new configuration).Consistent :=
  ⟨rfl, fun _ => rfl, rfl⟩

theorem Consistent.unselected {panel : Panel} (consistent : panel.Consistent)
    (unselected : panel.current = none) : panel.view = none := by
  have shows := consistent.shows
  rwa [unselected, Option.map_eq_none_iff] at shows

theorem Consistent.selected {panel : Panel} (consistent : panel.Consistent) {id : ElementId}
    (selected : panel.current = some id) : ∃ view, panel.view = some view ∧ view.element = id := by
  have shows := consistent.shows
  rwa [selected, Option.map_eq_some_iff] at shows

variable {Host : Type} [DiagramHost Host]

/-- A state is fresh if its panel is consistent and its host has the element that is shown. -/
structure Fresh (state : Panel × Host) : Prop where
  consistent : state.1.Consistent
  present : ∀ view, state.1.view = some view →
    (DiagramHost.elementType? state.2 view.element).isSome = true

variable {panel : Panel} (host : Host)

theorem fresh_resetSelection (idle : panel.rendering = false) :
    Fresh (panel.resetSelection, host) :=
  ⟨⟨idle, fun _ => rfl, rfl⟩, fun view shown => by cases shown⟩

/-- A rendering refreshes an idle panel whatever it has shown before. -/
theorem fresh_render (idle : panel.rendering = false)
    (untyped : panel.current = none → panel.selectedSubtype = none) :
    Fresh ((panel.render host).1, host) := by
  unfold render
  rw [if_neg (by simp [idle])]
  split
  · rename_i unselected
    exact ⟨⟨idle, untyped, unselected.symm⟩, fun view shown => by cases shown⟩
  · rename_i id selected
    split
    · exact fresh_resetSelection host idle
    · rename_i elementType typed
      refine ⟨⟨rfl, fun unselected => ?_, selected.symm⟩, fun view shown => ?_⟩
      · cases selected.symm.trans unselected
      · cases shown
        exact Option.isSome_iff_exists.mpr ⟨elementType, typed⟩

/-- A switch is complete if it is one to a known subtype that has not failed. -/
def completesSwitch (panel : Panel) (host : Host) (name : String) : Bool :=
  (panel.current.any fun id => panel.knowsSubtype host id name) &&
    (panel.switchSubtype host name).2.2.toBool

theorem view_input (field : String) (typed : FieldInput) :
    (panel.input host field typed).1.view = panel.view := by
  unfold input
  split
  · dsimp only
    split <;> rfl
  · rfl

section Operations

variable (consistent : panel.Consistent)

include consistent

theorem consistent_save : (panel.save host).1.Consistent := by
  unfold save
  split
  · exact ⟨consistent.idle, consistent.untyped, consistent.shows⟩
  · exact consistent

theorem fresh_select (id : ElementId) :
    Fresh ((panel.select host id).1, (panel.select host id).2.1) := by
  have saved := consistent_save host consistent
  simp only [select]
  split
  · exact fresh_resetSelection _ saved.idle
  · exact fresh_render _ saved.idle fun unselected => by cases unselected

theorem fresh_clearSelection : Fresh (panel.clearSelection host) :=
  fresh_resetSelection _ (consistent_save host consistent).idle

/-- An import shows the selected element again or gives up the selection. -/
theorem fresh_onImport : Fresh (panel.onImport host, host) := by
  simp only [onImport, discardVanished]
  split
  · rename_i unselected
    refine ⟨⟨consistent.idle, consistent.untyped, consistent.shows⟩, fun view shown => ?_⟩
    cases (consistent.unselected unselected).symm.trans shown
  · rename_i id selected
    split
    · refine fresh_render host consistent.idle fun unselected => ?_
      cases selected.symm.trans unselected
    · exact fresh_resetSelection host consistent.idle

theorem consistent_input (field : String) (typed : FieldInput) :
    (panel.input host field typed).1.Consistent := by
  unfold input
  split
  · dsimp only
    split
    · exact consistent
    · exact ⟨consistent.idle, consistent.untyped, consistent.shows⟩
  · exact consistent

/-- A complete switch refreshes the panel, and every other one leaves its view alone. -/
theorem fresh_switchSubtype (name : String) :
    Fresh ((panel.switchSubtype host name).1, (panel.switchSubtype host name).2.1) ∨
      panel.completesSwitch host name = false ∧ (panel.switchSubtype host name).1.Consistent ∧
        (panel.switchSubtype host name).1.view = panel.view := by
  have saved := consistent_save host consistent
  unfold completesSwitch switchSubtype
  cases selected : panel.current with
  | none => exact .inr ⟨rfl, consistent, rfl⟩
  | some id =>
      dsimp only
      cases known : panel.knowsSubtype host id name with
      | false => exact .inr ⟨by simp [known], consistent, rfl⟩
      | true =>
          rw [if_pos rfl]
          split
          · -- The drafts are saved before the rewriting fails.
            exact .inr ⟨Bool.and_false _, saved, panel.view_save host⟩
          · refine .inl (fresh_render _ saved.idle fun unselected => ?_)
            rw [current_save, selected] at unselected
            cases unselected

end Operations

end Panel

namespace Operation

variable {Host : Type} [DiagramHost Host]

/-- An operation refreshes the panel if it gives up the selection or renders what is selected. -/
def refreshes (panel : Panel) (host : Host) : Operation Host → Bool
  | select _ | clearSelection | render | event .importDone => true
  | event (.selectionChanged _) => panel.ready
  | switchSubtype name => panel.completesSwitch host name
  | input _ _ | save | change _ => false

/-- An operation refreshes the panel, or it leaves the panel consistent and its view alone. -/
theorem fresh_perform (operation : Operation Host) {panel : Panel}
    (consistent : panel.Consistent) (host : Host) :
    Panel.Fresh (operation.perform (panel, host)) ∨
      operation.refreshes panel host = false ∧
        (operation.perform (panel, host)).1.Consistent ∧
        (operation.perform (panel, host)).1.view = panel.view := by
  cases operation with
  | select id => exact .inl (Panel.fresh_select host consistent id)
  | clearSelection => exact .inl (Panel.fresh_clearSelection host consistent)
  | input field typed =>
      exact .inr ⟨rfl, Panel.consistent_input host consistent field typed,
        Panel.view_input host field typed⟩
  | save => exact .inr ⟨rfl, Panel.consistent_save host consistent, panel.view_save host⟩
  | switchSubtype name => exact Panel.fresh_switchSubtype host consistent name
  | render => exact .inl (Panel.fresh_render host consistent.idle consistent.untyped)
  | event given =>
      cases given with
      | importDone => exact .inl (Panel.fresh_onImport host consistent)
      | selectionChanged selection =>
          simp only [perform, Panel.handle, refreshes]
          split
          · refine .inl ?_
            split
            · exact Panel.fresh_select host consistent _
            · exact Panel.fresh_clearSelection host consistent
          · rename_i early
            exact .inr ⟨by simpa using early, consistent, rfl⟩
  | change made => exact .inr ⟨rfl, consistent, rfl⟩

end Operation

/-- A call performs an operation of a panel on a host that need not be the one of another call. -/
structure Call where
  Host : Type
  [isHost : DiagramHost Host]
  host : Host
  operation : Operation Host

attribute [instance] Call.isHost

namespace Call

/-- The panel and the host after a call. -/
def result (call : Call) (panel : Panel) : Panel × call.Host :=
  call.operation.perform (panel, call.host)

/-- The panel after calls that are made one after the other. -/
def run (calls : List Call) (panel : Panel) : Panel :=
  calls.foldl (fun panel call => (call.result panel).1) panel

theorem consistent_result (call : Call) {panel : Panel} (consistent : panel.Consistent) :
    (call.result panel).1.Consistent :=
  (call.operation.fresh_perform consistent call.host).elim Panel.Fresh.consistent
    fun left => left.2.1

theorem consistent_run (calls : List Call) {panel : Panel} (consistent : panel.Consistent) :
    (run calls panel).Consistent := by
  induction calls generalizing panel with
  | nil => exact consistent
  | cons call rest ih => exact ih (call.consistent_result consistent)

/-- After any calls a new panel is idle and shows exactly the element that is selected, and a call
leaves the view of an element that its host does not have only if it finds this view in the panel
and does not refresh it. -/
theorem run_shows_selected (configuration : Configuration) (calls : List Call) :
    let panel := run calls (.new configuration)
    panel.rendering = false ∧
      (panel.current = none → panel.selectedSubtype = none ∧ panel.view = none) ∧
      (∀ id, panel.current = some id → ∃ view, panel.view = some view ∧ view.element = id) ∧
      ∀ (call : Call) (view : PanelView), (call.result panel).1.view = some view →
        (DiagramHost.elementType? (call.result panel).2 view.element).isSome = true ∨
          call.operation.refreshes panel call.host = false ∧ panel.view = some view := by
  intro panel
  have consistent : panel.Consistent := consistent_run calls (Panel.consistent_new configuration)
  refine ⟨consistent.idle, fun unselected => ?_, fun id selected => consistent.selected selected,
    fun call view shown => ?_⟩
  · exact ⟨consistent.untyped unselected, consistent.unselected unselected⟩
  · cases call.operation.fresh_perform consistent call.host with
    | inl fresh => exact .inl (fresh.present view shown)
    | inr left => exact .inr ⟨left.1, left.2.2.symm.trans shown⟩

/-- A switch keeps the view of an element that the host has lost since its selection. -/
theorem vanished_shown :
    let task : Element := ⟨"task", "Task", .empty "Task"⟩
    let diagram := (Diagram.new .permissive).insert task
    let panel := run [⟨Diagram, diagram, .event .importDone⟩, ⟨Diagram, diagram, .select "task"⟩]
      (.new default)
    let switch : Call := ⟨Diagram, .new .permissive, .switchSubtype "plain"⟩
    (switch.result panel).1.view.map PanelView.element = some "task" ∧
      DiagramHost.elementType? (switch.result panel).2 "task" = none := by
  decide

end Call

end PropertyPanel
