/-
This file runs the operations of a panel one after the other on a host that may change in between.
-/

import PropertyPanel.Proofs.Panel.Application

namespace PropertyPanel

/-- A change is made to the host from outside of the panel. -/
inductive Operation (Host : Type) where
  | select (id : ElementId)
  | clearSelection
  | input (field : String) (value : FieldInput)
  | save
  | switchSubtype (name : String)
  | render
  | event (given : HostEvent)
  | change (made : Host → Host)

namespace Operation

variable {Host : Type} [DiagramHost Host]

def perform : Operation Host → Panel × Host → Panel × Host
  | select id, (panel, host) => ((panel.select host id).1, (panel.select host id).2.1)
  | clearSelection, (panel, host) => panel.clearSelection host
  | input field value, (panel, host) => ((panel.input host field value).1, host)
  | save, (panel, host) => ((panel.save host).1, (panel.save host).2.1)
  | switchSubtype name, (panel, host) =>
      ((panel.switchSubtype host name).1, (panel.switchSubtype host name).2.1)
  | render, (panel, host) => ((panel.render host).1, host)
  | event given, (panel, host) => panel.handle host given
  | change made, (panel, host) => (panel, made host)

def run (operations : List (Operation Host)) (state : Panel × Host) : Panel × Host :=
  operations.foldl (fun state operation => operation.perform state) state

/-- The operations that save the drafts of a ready panel. -/
def saves : Operation Host → Bool
  | select _ | clearSelection | save | switchSubtype _ | event (.selectionChanged _) => true
  | input _ _ | render | event .importDone | change _ => false

end Operation

namespace Panel

variable {Host : Type} [DiagramHost Host] (panel : Panel) (host : Host)

@[simp] theorem pending_render : (panel.render host).1.pending = panel.pending := by
  unfold render
  split
  · rfl
  · split
    · rfl
    · split <;> rfl

@[simp] theorem configuration_save : (panel.save host).1.configuration = panel.configuration := by
  unfold save
  split <;> rfl

@[simp] theorem current_save : (panel.save host).1.current = panel.current := by
  unfold save
  split <;> rfl

@[simp] theorem selectedSubtype_save :
    (panel.save host).1.selectedSubtype = panel.selectedSubtype := by
  unfold save
  split <;> rfl

@[simp] theorem view_save : (panel.save host).1.view = panel.view := by
  unfold save
  split <;> rfl

/-- A save drops drafts and adds none. -/
theorem save_sublist :
    (panel.save host).1.pending.drafts.Sublist panel.pending.drafts := by
  by_cases ready : panel.ready = true
  · rw [drafts_save host ready]
    exact DraftBuffer.failed_sublist _ _ _
  · rw [save, if_neg ready]

/-- A selection leaves the drafts and the host of the save that it begins with. -/
theorem select_saved (id : ElementId) :
    (panel.select host id).1.pending = (panel.save host).1.pending ∧
      (panel.select host id).2.1 = (panel.save host).2.1 := by
  simp only [select]
  split
  · exact ⟨rfl, rfl⟩
  · exact ⟨pending_render _ _, rfl⟩

theorem clearSelection_saved :
    (panel.clearSelection host).1.pending = (panel.save host).1.pending ∧
      (panel.clearSelection host).2 = (panel.save host).2.1 :=
  ⟨rfl, rfl⟩

theorem handle_selectionChanged (selection : List ElementId) :
    panel.handle host (.selectionChanged selection) = (panel, host) ∨
      (panel.handle host (.selectionChanged selection)).1.pending = (panel.save host).1.pending ∧
        (panel.handle host (.selectionChanged selection)).2 = (panel.save host).2.1 := by
  simp only [handle]
  split
  · split
    · exact .inr (panel.select_saved host _)
    · exact .inr (panel.clearSelection_saved host)
  · exact .inl rfl

/-- A switch does nothing, or it saves the drafts before it rewrites the selected element. -/
theorem switchSubtype_selected (name : String) :
    ((panel.switchSubtype host name).1 = panel ∧ (panel.switchSubtype host name).2.1 = host) ∨
      ∃ id, panel.current = some id ∧
        (panel.switchSubtype host name).1.pending = (panel.save host).1.pending ∧
        (panel.switchSubtype host name).2.1 =
          ((panel.save host).1.rewriteSubtype (panel.save host).2.1 id name).1 := by
  unfold switchSubtype
  split
  · exact .inl ⟨rfl, rfl⟩
  · rename_i id selected
    split
    · refine .inr ⟨id, selected, ?_⟩
      dsimp only
      split
      · rename_i outcome
        rw [outcome]
        exact ⟨rfl, rfl⟩
      · rename_i outcome
        rw [outcome]
        exact ⟨pending_render _ _, rfl⟩
    · exact .inl ⟨rfl, rfl⟩

theorem switchSubtype_saved (name : String) :
    ((panel.switchSubtype host name).1 = panel ∧ (panel.switchSubtype host name).2.1 = host) ∨
      ∃ id, (panel.switchSubtype host name).1.pending = (panel.save host).1.pending ∧
        (panel.switchSubtype host name).2.1 =
          ((panel.save host).1.rewriteSubtype (panel.save host).2.1 id name).1 :=
  (panel.switchSubtype_selected host name).imp_right fun ⟨id, _, saved⟩ => ⟨id, saved⟩

/-- The drafts that are not dropped are those of elements that the host still has. -/
theorem pending_discardVanished :
    (panel.discardVanished host).pending =
      panel.pending.filter fun draft => (DiagramHost.elementType? host draft.element).isSome := by
  have drafts : ∀ draft ∈ panel.pending.drafts,
      (!(panel.vanished host).names.contains draft.element) =
        (DiagramHost.elementType? host draft.element).isSome := by
    intro draft waiting
    have gone : draft.element ∈ (panel.vanished host).names ↔
        DiagramHost.elementType? host draft.element = none := by
      rw [vanished, NameSet.mem_ofList, List.mem_map]
      constructor
      · rintro ⟨other, listed, same⟩
        rw [← same]
        simpa using (List.mem_filter.mp listed).2
      · intro missing
        exact ⟨draft, List.mem_filter.mpr ⟨waiting, by simp [missing]⟩, rfl⟩
    cases known : DiagramHost.elementType? host draft.element <;> simp [gone, known]
  rw [discardVanished, DraftBuffer.foldl_discardElement]
  simp only [DraftBuffer.filter, List.filter_congr drafts]

@[simp] theorem pending_onImport :
    (panel.onImport host).pending =
      panel.pending.filter fun draft => (DiagramHost.elementType? host draft.element).isSome := by
  have dropped := pending_discardVanished { panel with ready := true } host
  unfold onImport
  dsimp only
  split
  · exact dropped
  · split
    · exact (pending_render _ _).trans dropped
    · exact dropped

/-- The parts of a panel that no operation changes. -/
def fixed : Configuration × Bool := (panel.configuration, panel.rendering)

@[simp] theorem fixed_render : (panel.render host).1.fixed = panel.fixed := by
  unfold render
  split
  · rfl
  · rename_i idle
    split
    · rfl
    · split
      · rfl
      · exact congrArg (Prod.mk panel.configuration) (Bool.eq_false_iff.mpr idle).symm

@[simp] theorem fixed_save : (panel.save host).1.fixed = panel.fixed := by
  unfold save
  split <;> rfl

@[simp] theorem fixed_select (id : ElementId) : (panel.select host id).1.fixed = panel.fixed := by
  simp only [select]
  split
  · exact fixed_save panel host
  · exact (fixed_render _ _).trans (fixed_save panel host)

@[simp] theorem fixed_clearSelection : (panel.clearSelection host).1.fixed = panel.fixed :=
  fixed_save panel host

@[simp] theorem fixed_onImport : (panel.onImport host).fixed = panel.fixed := by
  simp only [onImport, discardVanished]
  split
  · rfl
  · split
    · exact fixed_render _ _
    · rfl

@[simp] theorem fixed_handle (given : HostEvent) :
    (panel.handle host given).1.fixed = panel.fixed := by
  cases given with
  | importDone => exact panel.fixed_onImport host
  | selectionChanged selection =>
      simp only [handle]
      split
      · split
        · exact panel.fixed_select host _
        · exact panel.fixed_clearSelection host
      · rfl

@[simp] theorem fixed_input (field : String) (typed : FieldInput) :
    (panel.input host field typed).1.fixed = panel.fixed := by
  unfold input
  split
  · dsimp only
    split <;> rfl
  · rfl

@[simp] theorem fixed_switchSubtype (name : String) :
    (panel.switchSubtype host name).1.fixed = panel.fixed := by
  unfold switchSubtype
  split
  · rfl
  · split
    · dsimp only
      split
      · exact fixed_save panel host
      · exact (fixed_render _ _).trans (fixed_save panel host)
    · rfl

end Panel

/-- What a save and a rewriting after it keep of the host is kept by every operation of a panel. -/
theorem Operation.host_perform {Host : Type} [DiagramHost Host] (operation : Operation Host)
    (Kept : Host → Prop) (panel : Panel) (host : Host) (start : Kept host)
    (saved : Kept (panel.save host).2.1)
    (rewritten : ∀ id name, operation = switchSubtype name → panel.current = some id →
      Kept ((panel.save host).1.rewriteSubtype (panel.save host).2.1 id name).1)
    (changed : ∀ made, operation = change made → Kept (made host)) :
    Kept (operation.perform (panel, host)).2 := by
  cases operation with
  | select id =>
      change Kept (panel.select host id).2.1
      rwa [(panel.select_saved host id).2]
  | clearSelection => exact saved
  | input field value => exact start
  | save => exact saved
  | switchSubtype name =>
      change Kept (panel.switchSubtype host name).2.1
      cases panel.switchSubtype_selected host name with
      | inl still => rwa [still.2]
      | inr moved =>
          obtain ⟨id, selected, _, left⟩ := moved
          rw [left]
          exact rewritten id name rfl selected
  | render => exact start
  | event given =>
      cases given with
      | importDone => exact start
      | selectionChanged selection =>
          change Kept (panel.handle host (.selectionChanged selection)).2
          cases panel.handle_selectionChanged host selection with
          | inl still => rwa [still]
          | inr moved => rwa [moved.2]
  | change made => exact changed made rfl

/-- A run keeps the configuration of the panel and leaves it as idle as it was. -/
theorem Operation.fixed_run {Host : Type} [DiagramHost Host] (operations : List (Operation Host))
    (state : Panel × Host) : (run operations state).1.fixed = state.1.fixed := by
  induction operations generalizing state with
  | nil => rfl
  | cons operation rest ih =>
      refine (ih _).trans ?_
      obtain ⟨panel, host⟩ := state
      cases operation with
      | select id => exact panel.fixed_select host id
      | clearSelection => exact panel.fixed_clearSelection host
      | input field value => exact panel.fixed_input host field value
      | save => exact panel.fixed_save host
      | switchSubtype name => exact panel.fixed_switchSubtype host name
      | render => exact panel.fixed_render host
      | event given => exact panel.fixed_handle host given
      | change made => rfl

theorem Operation.configuration_run {Host : Type} [DiagramHost Host]
    (operations : List (Operation Host)) (state : Panel × Host) :
    (run operations state).1.configuration = state.1.configuration :=
  congrArg Prod.fst (fixed_run operations state)

end PropertyPanel
