/-
This file proves that a shown value is accepted when it is typed again, and when it is still shown
after it has been saved in this way.
-/

import PropertyPanel.Proofs.Panel.Report
import PropertyPanel.Proofs.Panel.StagingOrder

namespace PropertyPanel

namespace FieldInput

/-- The input that leaves a shown value as it is. -/
def ofShown : FieldValue → FieldInput
  | .text value => text value
  | .integer value => integer value
  | .boolean value => boolean value

theorem parse_integer_display (number : Option Int64) :
    parse .integer (FieldValue.integer number).display = .ok (integer number) := by
  cases number with
  | none => rfl
  | some number =>
      simp only [parse, FieldValue.display, Integer.trim_toString, Integer.isEmpty_toString,
        Bool.false_eq_true, if_false, Integer.parse?_toString]

theorem parse_boolean_display (checked : Bool) :
    parse .boolean (FieldValue.boolean checked).display = .ok (boolean checked) := by
  cases checked <;> decide

variable (kind : InputKind) (held : Option Scalar)

/-- The display text of a shown value is accepted as the input that leaves the value as it is. -/
theorem parse_display_ofScalar : parse kind (FieldValue.ofScalar kind held).display =
    .ok (ofShown (FieldValue.ofScalar kind held)) := by
  cases kind with
  | text => rfl
  | textArea => rfl
  | integer => exact parse_integer_display _
  | boolean => exact parse_boolean_display _

/-- Text that is empty, a number that is missing and a box that is not checked are not stored, and
are shown all the same. -/
theorem ofScalar_ofShown :
    FieldValue.ofScalar kind (ofShown (FieldValue.ofScalar kind held)).value =
      FieldValue.ofScalar kind held := by
  have texts (shown : String) :
      (((text shown).value.map Scalar.display).getD "") = shown := by
    rw [value]
    split
    · rename_i empty
      exact (String.isEmpty_iff.mp empty).symm
    · rfl
  have numbers (number : Option Int64) :
      FieldValue.integerOf (integer number).value = number := by
    cases number <;> rfl
  have flags (checked : Bool) : FieldValue.booleanOf (boolean checked).value = checked := by
    cases checked <;> rfl
  cases kind with
  | text => exact congrArg FieldValue.text (texts _)
  | textArea => exact congrArg FieldValue.text (texts _)
  | integer => exact congrArg FieldValue.integer (numbers _)
  | boolean => exact congrArg FieldValue.boolean (flags _)

/-- Only what is shown for a missing value is retyped to a missing value. -/
theorem value_ofShown_eq_none :
    (ofShown (FieldValue.ofScalar kind held)).value = none ↔
      FieldValue.ofScalar kind held = FieldValue.ofScalar kind none := by
  constructor
  · intro cleared
    rw [← ofScalar_ofShown kind held, cleared]
  · intro same
    rw [same]
    cases kind <;> rfl

end FieldInput

namespace Step

variable {field : String} {step : Step} {node : BusinessObject}

/-- The conditions of a step that accepts a node accept the scalar that the node has. -/
theorem permits_of_accepts (accepted : step.accepts field node = true) (name : String) :
    step.permits field name (node.scalar? name) = true := by
  rw [← accepted]
  exact (accepts_changed rfl (fun _ _ => rfl) accepted).symm

/-- Conditions that accept a missing scalar are on other names. -/
theorem permits_of_none {name : String} (absent : step.permits field name none = true)
    (value : Option Scalar) : step.permits field name value = true := by
  rw [permits, Option.all_eq_true] at absent ⊢
  intro filter held
  have tested := absent filter held
  rw [List.all_eq_true] at tested ⊢
  intro condition listed
  have other := tested condition listed
  rw [Option.any_none, Bool.or_false] at other
  rw [other, Bool.true_or]

end Step

namespace Location

variable {field : String}

/-- The conditions of a step keep a node under which a read finds the value that is written. -/
theorem keeps_of_read {step : Step} {rest : List Step} (chain : Chain rest)
    {node : BusinessObject} (accepted : step.accepts field node = true) {value : Scalar}
    (found : joinLeaves (leavesBelow field rest node) = some value) :
    keeps field (some value) step rest = true := by
  have permitted := Step.permits_of_accepts accepted
  cases chain with
  | body => rfl
  | leaf property =>
      have own : step.permits field (property.resolve field) (some value) = true := by
        have before := permitted (property.resolve field)
        rw [leavesBelow_leaf] at found
        cases held : node.property? (property.resolve field) with
        | none =>
            rw [held] at found
            cases found
        | some kept =>
            rw [held] at found
            cases kept with
            | scalar old =>
                have same : node.scalar? (property.resolve field) = some old := by
                  simp [BusinessObject.scalar?, held]
                rw [same] at before
                simp only [Option.map_some, Option.getD_some, Property.leaves] at found
                split at found
                · cases found
                · cases found
                  exact before
            | single child =>
                have none : node.scalar? (property.resolve field) = none := by
                  simp [BusinessObject.scalar?, held]
                exact Step.permits_of_none (none ▸ before) _
            | sequence children =>
                have none : node.scalar? (property.resolve field) = none := by
                  simp [BusinessObject.scalar?, held]
                exact Step.permits_of_none (none ▸ before) _
      exact own
  | step next later inner distinct chain =>
      cases kept : step.permits field (next.name field) none with
      | true => simp [keeps, inner, kept]
      | false =>
          have childless : next.selected field node = [] := by
            rw [Step.selected, Step.childless_of_accepts accepted kept]
            rfl
          rw [leavesBelow_step field (.inl inner), childless] at found
          cases found

/-- A location that finds a value and passes by no other leaf still selects the node that holds the
value when the value is written again. -/
theorem selects_of_read {steps : List Step} (chain : Chain steps) {node : BusinessObject}
    {value : Scalar} (alone : othersBelow field steps node = [])
    (found : joinLeaves (leavesBelow field steps node) = some value) :
    selects field (some value) steps = true := by
  induction chain generalizing node with
  | body => rfl
  | leaf property => rfl
  | step step rest inner distinct chain ih =>
      rw [leavesBelow_step field (.inl inner)] at found
      rw [othersBelow] at alone
      cases selected : step.selected field node with
      | nil =>
          rw [selected] at found
          cases found
      | cons first others =>
          rw [selected] at found alone
          obtain ⟨below, beside⟩ := List.append_eq_nil_iff.mp alone
          rw [List.flatMap_cons, beside, List.append_nil] at found
          have inside : first ∈ step.selected field node := selected ▸ List.mem_cons_self
          have accepted : step.accepts field first = true := (List.mem_filter.mp inside).2
          rw [selects, Step.solvable_of_accepts accepted, keeps_of_read chain accepted found,
            ih below found]
          rfl

end Location

namespace Panel

section Shown

variable {Host : Type} [DiagramHost Host] {panel : Panel} {host : Host} {id : ElementId}
  {field : String}

/-- The value that a panel shows for a field when it is rendered. -/
def shownValue (panel : Panel) (host : Host) (field : String) : Option FieldValue :=
  ((panel.render host).2.bind (PanelView.field? · field)).map FieldView.value

theorem shownValue_descriptor? (idle : panel.rendering = false)
    (selected : panel.current = some id) {elementType : String}
    (typed : DiagramHost.elementType? host id = some elementType) :
    panel.shownValue host field = (panel.descriptor? host field).map fun descriptor =>
      FieldValue.ofScalar descriptor.kind
        (panel.currentValue host id field descriptor).value := by
  rw [shownValue, render_selected idle selected typed, Option.bind_some,
    Configuration.field?_view, descriptor?_shownFields selected typed, Option.map_map]
  rfl

/-- A value is shown for a field of the selected element only. -/
theorem shownValue_some {shown : FieldValue} (known : panel.shownValue host field = some shown) :
    panel.rendering = false ∧ ∃ id elementType descriptor, panel.current = some id ∧
      DiagramHost.elementType? host id = some elementType ∧
      panel.descriptor? host field = some descriptor ∧
      shown = FieldValue.ofScalar descriptor.kind
        (panel.currentValue host id field descriptor).value := by
  have idle : panel.rendering = false := by
    cases busy : panel.rendering with
    | false => rfl
    | true => simp [shownValue, render, busy] at known
  cases selected : panel.current with
  | none => simp [shownValue, render, idle, selected] at known
  | some id =>
      cases typed : DiagramHost.elementType? host id with
      | none => simp [shownValue, render, idle, selected, typed] at known
      | some elementType =>
          rw [shownValue_descriptor? idle selected typed] at known
          obtain ⟨descriptor, described, same⟩ := Option.map_eq_some_iff.mp known
          exact ⟨idle, id, elementType, descriptor, rfl, typed, described, same.symm⟩

/-- A draft is shown for its field. -/
theorem currentValue_draft {draft : Draft} (waiting : draft ∈ panel.pending.drafts)
    (descriptor : FieldDescriptor) :
    panel.currentValue host draft.element draft.field descriptor = ⟨draft.value, true⟩ := by
  have found : panel.pending.get? draft.element draft.field = some draft :=
    DraftBuffer.get?_eq_some.mpr ⟨rfl, waiting⟩
  rw [currentValue, found]

/-- Without drafts the value in the host is shown. -/
theorem currentValue_clean (clean : panel.pending.drafts = []) (descriptor : FieldDescriptor) :
    panel.currentValue host id field descriptor =
      ⟨(DiagramHost.businessObject? host id).bind fun node =>
        panel.configuration.locations.read node field descriptor.location, false⟩ := by
  have missing : panel.pending.get? id field = none := by
    rw [DraftBuffer.get?, clean]
    rfl
  rw [currentValue, missing]

/-- A save that leaves no drafts of those that have been waiting ends with a notice of success. -/
theorem save_emptied (filled : panel.pending.drafts ≠ [])
    (emptied : (panel.save host).1.pending.drafts = []) :
    (panel.save host).2.2 = some .saved := by
  by_cases ready : panel.ready = true
  · exact (save_eq_saved host ready).mpr ⟨filled, emptied⟩
  · rw [save, if_neg ready] at emptied
    exact absurd emptied filled

/-- A draft that is alone is kept by a save that does not end with a notice of success. -/
theorem save_unsaved {draft : Draft} (alone : panel.pending.drafts = [draft])
    (unsaved : (panel.save host).2.2 ≠ some .saved) :
    (panel.save host).1.pending.drafts = [draft] := by
  have fewer := panel.save_sublist host
  rw [alone] at fewer
  cases List.sublist_singleton.mp fewer with
  | inl emptied => exact absurd (save_emptied (by simp [alone]) emptied) unsaved
  | inr kept => exact kept

/-- A draft is shown for its field as long as it waits. -/
theorem shownValue_draft {draft : Draft} (idle : panel.rendering = false)
    (selected : panel.current = some draft.element) {elementType : String}
    (typed : DiagramHost.elementType? host draft.element = some elementType)
    (described : panel.descriptor? host draft.field = some draft.descriptor)
    (waiting : draft ∈ panel.pending.drafts) :
    panel.shownValue host draft.field =
      some (FieldValue.ofScalar draft.descriptor.kind draft.value) := by
  rw [shownValue_descriptor? idle selected typed, described, Option.map_some,
    currentValue_draft waiting]

/-- After a save that leaves no drafts a field shows what a read finds in the host. -/
theorem shownValue_saved [LawfulHost Host] (idle : panel.rendering = false)
    (selected : panel.current = some id) {elementType : String}
    (typed : DiagramHost.elementType? host id = some elementType) {descriptor : FieldDescriptor}
    (described : panel.descriptor? host field = some descriptor)
    (emptied : (panel.save host).1.pending.drafts = []) :
    (panel.save host).1.shownValue (panel.save host).2.1 field =
      some (FieldValue.ofScalar descriptor.kind
        ((DiagramHost.businessObject? (panel.save host).2.1 id).bind fun node =>
          panel.configuration.locations.read node field descriptor.location)) := by
  have resting : (panel.save host).1.rendering = false :=
    (congrArg Prod.snd (panel.fixed_save host)).trans idle
  rw [shownValue_descriptor? resting ((panel.current_save host).trans selected)
    ((elementType?_save panel host id).trans typed), descriptor?_save, described, Option.map_some,
    currentValue_clean emptied, configuration_save]

end Shown

/-- A field after an input that leaves its shown value as it is has been saved. The input is joined
with the other leaves that a read finds. Without others the value is still shown exactly if the
location selects what holds the input, which it does if the input is the value that was read. -/
structure Retyped (kind : InputKind) (field : String) (location : Location)
    (object : BusinessObject) (typed : FieldInput) (shown : FieldValue)
    (after : Option FieldValue) : Prop where
  joined : ∃ others, others.Sublist (Location.othersBelow field location.steps object) ∧
    (typed.value.isSome = true ∨ Location.selects field typed.value location.steps = true →
      others = Location.othersBelow field location.steps object) ∧
    after = some (FieldValue.ofScalar kind (readBack field location typed.value others))
  alone : Location.othersBelow field location.steps object = [] →
    (after = some shown ↔
      typed.value = none ∨ Location.selects field typed.value location.steps = true)
  kept : Location.othersBelow field location.steps object = [] →
    typed.value = location.read field object → after = some shown

/-- The input for a shown value is shown again without others exactly if it clears the field or the
location selects what holds it. -/
theorem ofScalar_readBack_ofShown (kind : InputKind) (held : Option Scalar) (field : String)
    (location : Location) :
    let shown := FieldValue.ofScalar kind held
    let typed := FieldInput.ofShown shown
    FieldValue.ofScalar kind (readBack field location typed.value []) = shown ↔
      typed.value = none ∨ Location.selects field typed.value location.steps = true := by
  intro shown typed
  constructor
  · intro same
    cases selecting : Location.selects field typed.value location.steps with
    | true => exact .inr rfl
    | false =>
        have lost : readBack field location typed.value [] = none := by
          rw [readBack, Location.foundLeaf, if_neg (by simp [selecting])]
          rfl
        rw [lost] at same
        exact .inl ((FieldInput.value_ofShown_eq_none kind held).mpr same.symm)
  · intro again
    rw [ofScalar_readBack (FieldInput.parse_display_ofScalar kind held) again]
    exact FieldInput.ofScalar_ofShown kind held

/-- A read that joins an input for a shown value with other leaves finds it retyped. -/
theorem retyped_joined (kind : InputKind) {field : String} {location : Location}
    (compiled : location.Compiled) {object : BusinessObject} {others : List Scalar}
    (fewer : others.Sublist (Location.othersBelow field location.steps object)) :
    let shown := FieldValue.ofScalar kind (location.read field object)
    let typed := FieldInput.ofShown shown
    (typed.value.isSome = true ∨ Location.selects field typed.value location.steps = true →
      others = Location.othersBelow field location.steps object) →
    Retyped kind field location object typed shown
      (some (FieldValue.ofScalar kind (readBack field location typed.value others))) := by
  intro shown typed same
  have alone (none : Location.othersBelow field location.steps object = []) :
      some (FieldValue.ofScalar kind (readBack field location typed.value others)) = some shown ↔
        typed.value = Option.none ∨
          Location.selects field typed.value location.steps = true := by
    rw [none] at fewer
    rw [List.sublist_nil.mp fewer, Option.some_inj]
    exact ofScalar_readBack_ofShown kind _ field location
  refine ⟨⟨others, fewer, same, rfl⟩, alone, ?_⟩
  intro none unchanged
  refine (alone none).mpr ?_
  cases stored : typed.value with
  | none => exact .inl rfl
  | some value =>
      right
      rw [stored, Location.read_leaves, Location.leaves_leavesBelow _ compiled.1] at unchanged
      exact Location.selects_of_read compiled.2 none unchanged.symm

section Save

variable {panel : Panel} {draft : Draft} {elementType : String} {object : BusinessObject}

section Alone

variable {Host : Type} [DiagramHost Host] [LawfulHost Host] {host : Host}
  (idle : panel.rendering = false) (alone : panel.pending.drafts = [draft])
  (selected : panel.current = some draft.element)
  (known : DiagramHost.elementType? host draft.element = some elementType)
  (described : panel.descriptor? host draft.field = some draft.descriptor)

include idle alone selected known described

/-- A draft that is alone is still shown after a save without a notice of success. -/
theorem shownValue_unsaved (unsaved : (panel.save host).2.2 ≠ some .saved) :
    (panel.save host).1.shownValue (panel.save host).2.1 draft.field =
      some (FieldValue.ofScalar draft.descriptor.kind draft.value) := by
  have still : (panel.save host).1.rendering = false :=
    (congrArg Prod.snd (panel.fixed_save host)).trans idle
  have listed : draft ∈ (panel.save host).1.pending.drafts := by
    rw [save_unsaved alone unsaved]
    exact List.mem_singleton_self draft
  exact shownValue_draft still ((panel.current_save host).trans selected)
    ((elementType?_save panel host draft.element).trans known)
    ((descriptor?_save panel host draft.field).trans described) listed

/-- A draft that is alone is applied by a save with a notice of success, and what a read finds in
the edited object is shown then. -/
theorem shownValue_applied (saved : (panel.save host).2.2 = some .saved)
    (present : DiagramHost.businessObject? host draft.element = some object) :
    let factory := DiagramHost.factory host draft.element
    (panel.configuration.locations.edit factory draft object).2 = .ok () ∧
      (panel.save host).1.shownValue (panel.save host).2.1 draft.field =
        some (FieldValue.ofScalar draft.descriptor.kind
          (panel.configuration.locations.read
            (panel.configuration.locations.edit factory draft object).1
            draft.field draft.location)) := by
  obtain ⟨applied, left⟩ := save_single alone saved
  obtain ⟨before, held, done, after⟩ := applyDraft_applied applied
  cases held.symm.trans present
  rw [← left] at after
  refine ⟨done, ?_⟩
  rw [shownValue_saved idle selected known described (save_saved saved).2, after,
    Option.bind_some]
  rfl

end Alone

/-- A draft of an input for a shown value is retyped by a save with a notice of success. -/
theorem shownValue_retyped {diagram : Diagram} (idle : panel.rendering = false)
    (alone : panel.pending.drafts = [draft]) (selected : panel.current = some draft.element)
    (known : DiagramHost.elementType? diagram draft.element = some elementType)
    (described : panel.descriptor? diagram draft.field = some draft.descriptor)
    (saved : (panel.save diagram).2.2 = some .saved)
    (present : DiagramHost.businessObject? diagram draft.element = some object)
    (compiled : panel.configuration.locations.Compiled) :
    let shown := FieldValue.ofScalar draft.descriptor.kind
      (panel.configuration.locations.read object draft.field draft.location)
    let typed := FieldInput.ofShown shown
    let after := (panel.save diagram).1.shownValue (panel.save diagram).2.1 draft.field
    draft.value = typed.value →
      match panel.configuration.locations.find? draft.location with
      | none => after = some shown
      | some location =>
          Retyped draft.descriptor.kind draft.field location object typed shown after := by
  intro shown typed after value
  obtain ⟨done, read⟩ := shownValue_applied idle alone selected known described saved present
  change after = _ at read
  cases place : panel.configuration.locations.find? draft.location with
  | none =>
      rw [read, LocationTable.edit_unknown place]
  | some location =>
      have complete := compiled _ _ place
      have before : panel.configuration.locations.read object draft.field draft.location =
          location.read draft.field object := by rw [LocationTable.read, place, Option.bind_some]
      obtain ⟨others, fewer, same, joined⟩ := LocationTable.read_edit draft place complete.1
        complete.2 (fun held filled => FieldInput.value_filled (value ▸ filled)) done
      rw [value] at same joined
      have general := retyped_joined draft.descriptor.kind complete fewer
      rw [← before] at general
      rw [read, Diagram.factory_registry, joined]
      exact general same

/-- An input that leaves the shown value of an editable field as it is does so until it is saved,
and after a save as far as the location of the field allows. -/
theorem save_retyped {diagram : Diagram} {id : ElementId} {field : String}
    {descriptor : FieldDescriptor} (idle : panel.rendering = false)
    (clean : panel.pending.drafts = []) (selected : panel.current = some id)
    (known : DiagramHost.elementType? diagram id = some elementType)
    (described : panel.descriptor? diagram field = some descriptor)
    (editable : descriptor.readonly = false)
    (present : DiagramHost.businessObject? diagram id = some object)
    (compiled : panel.configuration.locations.Compiled) :
    let shown := FieldValue.ofScalar descriptor.kind
      (panel.configuration.locations.read object field descriptor.location)
    let typed := FieldInput.ofShown shown
    let (staged, _) := panel.input diagram field typed
    let (saved, left, notice) := staged.save diagram
    staged.shownValue diagram field = some shown ∧
      (notice ≠ some .saved → saved.shownValue left field = some shown) ∧
      (notice = some .saved → match panel.configuration.locations.find? descriptor.location with
        | none => saved.shownValue left field = some shown
        | some location => Retyped descriptor.kind field location object typed shown
            (saved.shownValue left field)) := by
  intro shown typed
  let draft : Draft := ⟨id, field, descriptor, typed.value⟩
  let staged : Panel := { panel with pending := panel.pending.stage draft }
  have staging : panel.input diagram field typed = (staged, true) :=
    input_staged selected described editable typed
  have alone : staged.pending.drafts = [draft] := by
    change DraftBuffer.stageInto draft panel.pending.drafts = [draft]
    rw [clean]
    rfl
  have again : FieldValue.ofScalar descriptor.kind typed.value = shown :=
    FieldInput.ofScalar_ofShown descriptor.kind _
  -- The input changes nothing but the drafts.
  have resting : staged.rendering = false := idle
  have chosen : staged.current = some draft.element := selected
  have described : staged.descriptor? diagram draft.field = some draft.descriptor := described
  rw [staging]
  refine ⟨?_, ?_, ?_⟩
  · rw [← again]
    exact shownValue_draft resting chosen known described (alone ▸ List.mem_singleton_self draft)
  · rw [← again]
    exact shownValue_unsaved resting alone chosen known described
  · intro saved
    exact shownValue_retyped resting alone chosen known described saved present compiled rfl

end Save

/-- The display text of every shown value is accepted for its kind of input and leaves the value as
it is. In every run the shown value of an editable field without drafts can be retyped, is shown
until it is saved, and is shown afterwards if the save fails or the location of the field is
unknown. After a save at a known location the retyped value is joined with the leaves behind it, and
without such leaves it is still shown exactly if it clears the field or the location selects what
holds it. -/
theorem retyped_value_shown :
    (∀ kind held, ∃ typed,
      FieldInput.parse kind (FieldValue.ofScalar kind held).display = .ok typed ∧
        FieldValue.ofScalar kind typed.value = FieldValue.ofScalar kind held) ∧
    ∀ (declaration : ConfigurationDeclaration) (start : Diagram)
      (operations : List (Operation Diagram)) (field : String) (shown : FieldValue),
      let (panel, diagram) := Operation.run operations (new (Configuration.load declaration), start)
      panel.pending.drafts = [] → panel.shownValue diagram field = some shown →
      ∃ id object descriptor typed, panel.current = some id ∧
        diagram.businessObject? id = some object ∧
        panel.descriptor? diagram field = some descriptor ∧
        FieldInput.parse descriptor.kind shown.display = .ok typed ∧
        (descriptor.readonly = false →
          let (staged, _) := panel.input diagram field typed
          let (saved, left, notice) := staged.save diagram
          staged.shownValue diagram field = some shown ∧
            (notice ≠ some .saved → saved.shownValue left field = some shown) ∧
            (notice = some .saved →
              match panel.configuration.locations.find? descriptor.location with
              | none => saved.shownValue left field = some shown
              | some location => Retyped descriptor.kind field location object typed shown
                  (saved.shownValue left field))) := by
  refine ⟨fun kind held => ⟨_, FieldInput.parse_display_ofScalar kind held,
    FieldInput.ofScalar_ofShown kind held⟩, ?_⟩
  intro declaration start operations field shown
  rcases reached : Operation.run operations (new (Configuration.load declaration), start) with
    ⟨panel, diagram⟩
  intro clean known
  have fixed := Operation.fixed_run operations (new (Configuration.load declaration), start)
  rw [reached] at fixed
  have loaded : panel.configuration = Configuration.load declaration := congrArg Prod.fst fixed
  have compiled : panel.configuration.locations.Compiled := by
    rw [loaded, Configuration.locations_load]
    exact LocationTable.compile_compiled declaration.locations
  obtain ⟨idle, id, elementType, descriptor, selected, typed, described, value⟩ :=
    shownValue_some known
  have typable := LawfulHost.elementType?_isSome diagram id
  rw [typed, Option.isSome_some, eq_comm, Option.isSome_iff_exists] at typable
  obtain ⟨object, present⟩ := typable
  rw [currentValue_clean clean, present, Option.bind_some] at value
  subst value
  refine ⟨id, object, descriptor, _, selected, present, described,
    FieldInput.parse_display_ofScalar descriptor.kind _, ?_⟩
  intro editable
  exact save_retyped idle clean selected typed described editable present compiled

section Notes

/-- The own note is retyped and shown although there is another note. -/
theorem retyped_value_shown_own :
    let steps := [noteStep [("by", .text "me")]]
    let (panel, diagram) := noteState steps notedTask
    let (staged, _) := panel.input diagram "note" (.text "a")
    let (saved, left, notice) := staged.save diagram
    panel.pending.drafts = [] ∧ panel.shownValue diagram "note" = some (.text "a") ∧
      notice = some .saved ∧ saved.shownValue left "note" = some (.text "a") := by
  refine ⟨by decide, by decide, by decide, ?_⟩
  obtain ⟨_, object, descriptor, typed, selected, present, described, parsed, outcome⟩ :=
    retyped_value_shown.2 (noteDeclaration [noteStep [("by", .text "me")]])
      ((Diagram.new .permissive).insert ⟨"task", "Task", notedTask⟩)
      [.event .importDone, .select "task"] "note" (.text "a") (by decide) (by decide)
  cases selected
  cases present
  cases described
  cases parsed
  have retyped := (outcome rfl).2.2 (by decide)
  exact retyped.kept (by decide) (by decide)

/-- The number five by which a note is selected. -/
def numberedTask : BusinessObject :=
  (BusinessObject.empty "Task").setProperty "notes" (.sequence
    [(BusinessObject.empty "Note").setScalar "by" (some (.integer 5))])

/-- Two notes are shown in two lines, which become three when they are retyped. A number that is
retyped as a text no longer selects its note. -/
theorem retyped_value_changed :
    (noteState [noteStep []] notedTask).1.shownValue (noteState [noteStep []] notedTask).2 "note" =
        some (.text "a\nb") ∧
      noteAfter (noteState [noteStep []] notedTask) "a\nb" =
        (some .saved, some (.text "a\nb\nb")) ∧
      let numbered := noteState [noteStep [("by", .ofInt 5)], ⟨"by", none, false, .empty⟩]
        numberedTask
      numbered.1.shownValue numbered.2 "note" = some (.text "5") ∧
        noteAfter numbered "5" = (some .saved, some (.text "")) := by
  decide

end Notes

end Panel

end PropertyPanel
