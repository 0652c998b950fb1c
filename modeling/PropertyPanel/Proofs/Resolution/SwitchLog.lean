/-
This file proves that the updates of a switch to another subtype are a log of its writes: they first
clear attributes that hold something, each of them once, and then write what the subtype expects.
-/

import PropertyPanel.Proofs.Resolution.Switch

namespace PropertyPanel.LocationTable

variable {table : LocationTable} {factory : NodeFactory}

/-- Updates that are written can be followed by others. -/
theorem applyUpdates_append {first second : List PropertyUpdate} {node between : BusinessObject}
    (done : table.applyUpdates factory first node = (between, .ok ())) :
    table.applyUpdates factory (first ++ second) node =
      table.applyUpdates factory second between := by
  induction first generalizing node with
  | nil =>
      cases done
      rfl
  | cons update rest ih =>
      rw [applyUpdates] at done
      rw [List.cons_append, applyUpdates]
      split at done
      · exact ih done
      · cases congrArg Prod.snd done

/-- The attribute that an update designates. -/
def updatedAttribute? (table : LocationTable) (update : PropertyUpdate) : Option String :=
  table.attributeName? update.field update.location

/-- A clearing is that of a criterion that finds a value after the clearings before it. -/
theorem clearings_found {criteria : List Criterion} {node : BusinessObject}
    {before later : List PropertyUpdate} {update : PropertyUpdate}
    (parts : table.clearings factory criteria node = before ++ update :: later) :
    ∃ criterion ∈ criteria, update = ⟨criterion.id, criterion.location, none⟩ ∧
      (table.read (table.replay factory before node) update.field update.location).isSome =
        true := by
  induction criteria generalizing node before with
  | nil => cases before <;> cases parts
  | cons criterion rest ih =>
      rw [clearings] at parts
      split at parts
      · rename_i present
        cases before with
        | nil =>
            cases parts
            exact ⟨criterion, List.mem_cons_self, rfl, present⟩
        | cons first others =>
            rw [List.cons_append, List.cons.injEq] at parts
            obtain ⟨same, parts⟩ := parts
            obtain ⟨found, listed, made, present⟩ := ih parts
            rw [same] at present
            exact ⟨found, List.mem_cons_of_mem _ listed, made, present⟩
      · obtain ⟨found, listed, made, present⟩ := ih parts
        exact ⟨found, List.mem_cons_of_mem _ listed, made, present⟩

/-- An attribute that is absent is not cleared. -/
theorem clearings_absent {criteria : List Criterion} {node : BusinessObject} {name : String}
    (flat : ∀ criterion ∈ criteria, table.isAttribute criterion.location = true)
    (absent : node.property? name = none) :
    some name ∉ (table.clearings factory criteria node).map table.updatedAttribute? := by
  induction criteria generalizing node with
  | nil => exact List.not_mem_nil
  | cons criterion rest ih =>
      rw [List.forall_mem_cons] at flat
      obtain ⟨designation, designated⟩ := exists_attributeName? flat.1 criterion.id
      rw [clearings, read_designated designated]
      split
      · rename_i present
        have different : name ≠ designation := by
          rintro rfl
          rw [BusinessObject.attribute?_absent absent] at present
          cases present
        have cleared : table.replay factory [⟨criterion.id, criterion.location, none⟩] node =
            node.removeProperty designation :=
          congrArg Prod.fst (write_designated designated factory node none)
        rw [List.map_cons, List.mem_cons, not_or, cleared]
        refine ⟨fun same => different ?_, ih flat.2 ?_⟩
        · exact Option.some.inj (same.trans designated)
        · rw [BusinessObject.property?_removeProperty, if_neg different, absent]
      · exact ih flat.2 absent

/-- No attribute is cleared twice, by whatever name its location goes. -/
theorem clearings_distinct {criteria : List Criterion} {node : BusinessObject}
    (flat : ∀ criterion ∈ criteria, table.isAttribute criterion.location = true) :
    ((table.clearings factory criteria node).map table.updatedAttribute?).Nodup := by
  induction criteria generalizing node with
  | nil => exact .nil
  | cons criterion rest ih =>
      rw [List.forall_mem_cons] at flat
      obtain ⟨designation, designated⟩ := exists_attributeName? flat.1 criterion.id
      have first : table.updatedAttribute? ⟨criterion.id, criterion.location, none⟩ =
          some designation := designated
      have cleared : table.replay factory [⟨criterion.id, criterion.location, none⟩] node =
          node.removeProperty designation :=
        congrArg Prod.fst (write_designated designated factory node none)
      rw [clearings]
      split
      · rw [List.map_cons, List.nodup_cons, first, cleared]
        exact ⟨clearings_absent flat.2 (by simp), ih flat.2⟩
      · exact ih flat.2

/-- A criterion that is cleared is not required by the wanted subtype. -/
theorem stale_unrequired {element : ElementConfiguration} {wanted : ElementSubtype}
    {criterion : Criterion} (stale : criterion ∈ table.stale element wanted) :
    ∀ required ∈ wanted.criteria,
      ¬ (required.id = criterion.id ∧ required.location = criterion.location) := by
  rw [LocationTable.stale, List.mem_filter] at stale
  obtain ⟨_, conditions⟩ := stale
  simp only [Bool.and_eq_true, Bool.not_eq_true', ElementSubtype.requires, List.any_eq_false,
    decide_eq_true_eq] at conditions
  exact conditions.2

/-- A switch that is done performs the clearings and then the writes of the wanted subtype. -/
theorem switchTo_done {element : ElementConfiguration} {target : String} {wanted : ElementSubtype}
    (known : element.subtype? target = some wanted) {node after : BusinessObject}
    {updates : List PropertyUpdate}
    (done : table.switchTo factory element target node = (after, .ok updates)) :
    let cleared := table.clearings factory (table.stale element wanted) node
    updates = cleared ++ fitting wanted ∧
      table.applyUpdates factory (fitting wanted) (table.replay factory cleared node) =
        (after, .ok ()) := by
  have first := table.clearStale_clearings factory (table.stale element wanted)
    (fun _ stale => table.stale_isAttribute stale) node
  simp only [switchTo, known, rewrite, first] at done
  obtain ⟨final, outcome⟩ := Prod.mk.inj done
  obtain ⟨_, written, same⟩ := Outcome.map_ok outcome
  exact ⟨same.symm, Prod.ext final written⟩

/-- The updates of a switch give the switched object again when they are written in their order.
First come clearings: each is of an attribute that is found at its moment and that the wanted
subtype does not require, and none of them is cleared twice. Behind them come the criteria with a
value of the wanted subtype. -/
theorem switchTo_logged (table : LocationTable) (factory : NodeFactory)
    (element : ElementConfiguration) (target : String) (wanted : ElementSubtype)
    (known : element.subtype? target = some wanted) (node after : BusinessObject)
    (updates : List PropertyUpdate)
    (done : table.switchTo factory element target node = (after, .ok updates)) :
    table.applyUpdates factory updates node = (after, .ok ()) ∧
      ∃ cleared,
        updates = cleared ++ wanted.criteria.filterMap (fun criterion =>
          criterion.value.map fun value => ⟨criterion.id, criterion.location, some value⟩) ∧
        (∀ before update later, cleared = before ++ update :: later →
          update.value = none ∧
          (∀ required ∈ wanted.criteria,
            ¬ (required.id = update.field ∧ required.location = update.location)) ∧
          ∃ name moment, table.updatedAttribute? update = some name ∧
            table.applyUpdates factory before node = (moment, .ok ()) ∧
            (table.read moment update.field update.location).isSome = true ∧
            table.applyUpdates factory (before ++ [update]) node =
              (moment.removeProperty name, .ok ())) ∧
        (cleared.map table.updatedAttribute?).Nodup := by
  obtain ⟨same, written⟩ := switchTo_done known done
  have flat (criterion : Criterion) (stale : criterion ∈ table.stale element wanted) :
      table.isAttribute criterion.location = true := table.stale_isAttribute stale
  have replayed (shorter rest : List PropertyUpdate)
      (parts : table.clearings factory (table.stale element wanted) node = shorter ++ rest) :
      table.applyUpdates factory shorter node = (table.replay factory shorter node, .ok ()) := by
    refine table.applyUpdates_attributes factory (fun update listed => ?_) node
    obtain ⟨first, others, split⟩ := List.append_of_mem listed
    rw [split, List.append_assoc] at parts
    obtain ⟨criterion, stale, made, _⟩ := clearings_found parts
    rw [made]
    exact flat criterion stale
  refine ⟨?_, _, same, fun before update later parts => ?_, clearings_distinct flat⟩
  · rw [same, applyUpdates_append (replayed _ [] (List.append_nil _).symm), written]
  · obtain ⟨criterion, stale, made, present⟩ := clearings_found parts
    obtain ⟨designation, designated⟩ := exists_attributeName? (flat criterion stale) criterion.id
    have earlier := replayed before _ parts
    subst made
    refine ⟨rfl, stale_unrequired stale, designation, _, designated, earlier, present, ?_⟩
    rw [applyUpdates_append earlier, applyUpdates, write_designated designated]
    rfl

/-- The kind of a job is cleared once although two names of its location stand for it. -/
theorem switchTo_logged_alias :
    let steps : List StepDeclaration := [⟨fieldIdWord, none, false, .empty⟩]
    let table := (compile (.ofList [("attribute", steps), ("alias", steps)])).1
    let element : ElementConfiguration := ⟨none,
      [⟨"plain", [⟨"kind", "attribute", some (.text "x")⟩], .empty⟩,
        ⟨"timed", [⟨"kind", "alias", some (.text "x")⟩], .empty⟩,
        ⟨"other", [⟨"mode", "attribute", some (.flag true)⟩], .empty⟩]⟩
    let node := (BusinessObject.empty "Task").setScalar "kind" (some (.text "x"))
    let updates : List PropertyUpdate :=
      [⟨"kind", "attribute", none⟩, ⟨"mode", "attribute", some (.flag true)⟩]
    let after := (BusinessObject.empty "Task").setScalar "mode" (some (.flag true))
    table.switchTo TypeRegistry.permissive element "other" node = (after, .ok updates) ∧
      table.applyUpdates TypeRegistry.permissive updates node = (after, .ok ()) := by
  intro steps table element node updates after
  have done : table.switchTo TypeRegistry.permissive element "other" node =
      (after, .ok updates) := rfl
  have logged := switchTo_logged table TypeRegistry.permissive element "other" _ rfl node after
    updates done
  exact ⟨done, logged.1⟩

end PropertyPanel.LocationTable
