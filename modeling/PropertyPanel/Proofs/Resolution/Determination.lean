/-
This file proves that a node that is switched to a subtype is determined to be of this subtype if
the criteria of all subtypes are attributes that take the names of their fields.
-/

import Mathlib.Data.List.Nodup
import Mathlib.Data.List.Perm.Subperm
import PropertyPanel.Proofs.Resolution.Choice
import PropertyPanel.Proofs.Resolution.Switch

namespace PropertyPanel

namespace ElementSubtype

/-- The identifiers that the criteria name, with the values that they expect. -/
def expectations (kind : ElementSubtype) : List (String × Option Scalar) :=
  kind.criteria.map fun criterion => (criterion.id, criterion.value)

/-- A subtype of which every criterion expects a value is as specific as its criteria are many. -/
theorem specificity_valued {kind : ElementSubtype}
    (valued : ∀ criterion ∈ kind.criteria, criterion.value.isSome = true) :
    kind.specificity = 2 * kind.criteria.length := by
  have sum (criteria : List Criterion)
      (valued : ∀ criterion ∈ criteria, criterion.value.isSome = true) :
      (criteria.map Criterion.specificity).foldr (· + ·) 0 = 2 * criteria.length := by
    induction criteria with
    | nil => rfl
    | cons criterion rest ih =>
        have later := ih fun other inside => valued other (List.mem_cons_of_mem _ inside)
        have first : criterion.specificity = 2 := if_pos (valued criterion List.mem_cons_self)
        rw [List.map_cons, List.foldr_cons, later, first, List.length_cons]
        omega
  exact sum kind.criteria valued

end ElementSubtype

namespace LocationTable

/-- The location is the attribute that has the name of the field. -/
def Flat (table : LocationTable) (name : String) : Prop :=
  ∃ location, table.find? name = some location ∧ location.steps = [.leaf .fieldId]

/-- The criteria of a plain subtype expect values of distinct attributes. -/
structure Plain (table : LocationTable) (kind : ElementSubtype) : Prop where
  distinct : (kind.criteria.map Criterion.id).Nodup
  valued : ∀ criterion ∈ kind.criteria,
    ∃ value, criterion.value = some value ∧ value.isEmpty = false
  flat : ∀ criterion ∈ kind.criteria, table.Flat criterion.location

variable {table : LocationTable} {registry : TypeRegistry}

theorem attributeName?_flat {name : String} (flat : table.Flat name) (field : String) :
    table.attributeName? field name = some field := by
  obtain ⟨location, known, steps⟩ := flat
  exact attributeName?_eq_some.mpr ⟨location, .fieldId, known, steps, rfl⟩

theorem isAttribute_flat {name : String} (flat : table.Flat name) :
    table.isAttribute name = true :=
  isAttribute_designated (attributeName?_flat flat "")

theorem read_flat {name : String} (flat : table.Flat name) (node : BusinessObject)
    (field : String) : table.read node field name = node.attribute? field :=
  read_designated (attributeName?_flat flat field) node

theorem write_flat {name : String} (flat : table.Flat name) (node : BusinessObject)
    (field : String) (value : Option Scalar) :
    (table.write registry node field name value).1 = node.setScalar field value := by
  rw [write_designated (attributeName?_flat flat field)]

/-- Attributes that no update names keep their values. -/
theorem attribute?_replay_other {updates : List PropertyUpdate}
    (flat : ∀ update ∈ updates, table.Flat update.location)
    (filled : ∀ update ∈ updates, ∀ held ∈ update.value, held.isEmpty = false)
    {field : String} (other : field ∉ updates.map PropertyUpdate.field) (node : BusinessObject) :
    (table.replay registry updates node).attribute? field = node.attribute? field := by
  induction updates generalizing node with
  | nil => rfl
  | cons update rest ih =>
      rw [List.map_cons, List.mem_cons, not_or] at other
      rw [List.forall_mem_cons] at flat filled
      rw [replay, List.foldl_cons]
      change (table.replay registry rest _).attribute? field = _
      rw [ih flat.2 filled.2 other.2, write_flat flat.1,
        BusinessObject.attribute?_setScalar node _ _ filled.1, if_neg other.1]

/-- After updates of distinct attributes each attribute has the value of its update. -/
theorem attribute?_replay {updates : List PropertyUpdate}
    (flat : ∀ update ∈ updates, table.Flat update.location)
    (filled : ∀ update ∈ updates, ∀ held ∈ update.value, held.isEmpty = false)
    (distinct : (updates.map PropertyUpdate.field).Nodup) {update : PropertyUpdate}
    (listed : update ∈ updates) (node : BusinessObject) :
    (table.replay registry updates node).attribute? update.field = update.value := by
  induction updates generalizing node with
  | nil => cases listed
  | cons first rest ih =>
      rw [List.map_cons, List.nodup_cons] at distinct
      rw [List.forall_mem_cons] at flat filled
      rw [replay, List.foldl_cons]
      change (table.replay registry rest _).attribute? update.field = _
      cases List.mem_cons.mp listed with
      | inl same =>
          rw [same, attribute?_replay_other flat.2 filled.2 distinct.1, write_flat flat.1,
            BusinessObject.attribute?_setScalar node _ _ filled.1, if_pos rfl]
      | inr later => exact ih flat.2 filled.2 distinct.2 later _

/-- The clearings leave no value for the criteria and change no other attribute. -/
theorem attribute?_clearings {criteria : List Criterion}
    (flat : ∀ criterion ∈ criteria, table.Flat criterion.location) (node : BusinessObject)
    (field : String) :
    (table.replay registry (table.clearings registry criteria node) node).attribute? field =
      if field ∈ criteria.map Criterion.id then none else node.attribute? field := by
  induction criteria generalizing node with
  | nil => rfl
  | cons criterion rest ih =>
      rw [List.forall_mem_cons] at flat
      have later := ih flat.2
      rw [clearings, read_flat flat.1]
      cases present : node.attribute? criterion.id with
      | none =>
          simp only [Option.isSome_none, Bool.false_eq_true, if_false]
          rw [later]
          by_cases same : field = criterion.id
          · simp [same, present]
          · simp [same]
      | some value =>
          have cleared : (table.replay registry [⟨criterion.id, criterion.location, none⟩]
              node).attribute? field = if field = criterion.id then none else
                node.attribute? field := by
            change (table.write registry node _ _ none).1.attribute? field = _
            rw [write_flat flat.1]
            exact node.attribute?_setScalar _ _ (by simp)
          simp only [Option.isSome_some, if_true]
          rw [← List.singleton_append, replay_append, later, cleared]
          by_cases same : field = criterion.id
          · simp [same]
          · simp [same]

section Plain

variable {element : ElementConfiguration} {wanted : ElementSubtype}

theorem stale_flat (plain : ∀ kind ∈ element.subtypes, table.Plain kind) :
    ∀ criterion ∈ table.stale element wanted, table.Flat criterion.location := by
  intro criterion left
  rw [stale, List.mem_filter, List.mem_flatMap] at left
  obtain ⟨⟨kind, listed, inside⟩, _⟩ := left
  exact (plain kind (List.mem_filter.mp listed).1).flat criterion inside

/-- The updates of a plain subtype write the values that its criteria expect. -/
theorem mem_fitting {criterion : Criterion} (listed : criterion ∈ wanted.criteria) {value : Scalar}
    (valued : criterion.value = some value) :
    (⟨criterion.id, criterion.location, some value⟩ : PropertyUpdate) ∈ fitting wanted :=
  List.mem_filterMap.mpr ⟨criterion, listed, by rw [valued, Option.map_some]⟩

theorem of_mem_fitting {update : PropertyUpdate} (listed : update ∈ fitting wanted) :
    ∃ criterion ∈ wanted.criteria, update.field = criterion.id ∧
      update.location = criterion.location ∧ update.value = criterion.value := by
  obtain ⟨criterion, inside, same⟩ := List.mem_filterMap.mp listed
  obtain ⟨value, valued, made⟩ := Option.map_eq_some_iff.mp same
  exact ⟨criterion, inside, by rw [← made], by rw [← made], by rw [← made, valued]⟩

theorem map_field_fitting (plain : table.Plain wanted) :
    (fitting wanted).map PropertyUpdate.field = wanted.criteria.map Criterion.id := by
  have fold (criteria : List Criterion)
      (valued : ∀ criterion ∈ criteria, ∃ value, criterion.value = some value ∧
        value.isEmpty = false) :
      (criteria.filterMap fun criterion => criterion.value.map fun value =>
        (⟨criterion.id, criterion.location, some value⟩ : PropertyUpdate)).map
          PropertyUpdate.field = criteria.map Criterion.id := by
    induction criteria with
    | nil => rfl
    | cons criterion rest ih =>
        rw [List.forall_mem_cons] at valued
        obtain ⟨⟨value, held, _⟩, later⟩ := valued
        simp [held, ih later]
  exact fold wanted.criteria plain.valued

theorem fitting_flat (plain : table.Plain wanted) :
    ∀ update ∈ fitting wanted, table.Flat update.location := by
  intro update listed
  obtain ⟨criterion, inside, _, location, _⟩ := of_mem_fitting listed
  rw [location]
  exact plain.flat criterion inside

theorem fitting_filled (plain : table.Plain wanted) :
    ∀ update ∈ fitting wanted, ∀ held ∈ update.value, held.isEmpty = false := by
  intro update listed held present
  obtain ⟨criterion, inside, _, _, same⟩ := of_mem_fitting listed
  obtain ⟨value, valued, filled⟩ := plain.valued criterion inside
  rw [same, valued] at present
  cases present
  exact filled

/-- The node after a switch to the wanted subtype. -/
def switchedNode (table : LocationTable) (registry : TypeRegistry)
    (element : ElementConfiguration) (wanted : ElementSubtype) (node : BusinessObject) :
    BusinessObject :=
  table.replay registry (fitting wanted)
    (table.replay registry (table.clearings registry (table.stale element wanted) node) node)

theorem rewrite_plain (plain : table.Plain wanted) (node : BusinessObject) :
    table.rewrite registry element wanted node =
      (table.switchedNode registry element wanted node,
        .ok (table.clearings registry (table.stale element wanted) node ++ fitting wanted)) := by
  have cleared := table.clearStale_clearings registry (table.stale element wanted)
    (fun _ stale => table.stale_isAttribute stale) node
  have written := table.applyUpdates_attributes registry
    fun update listed => isAttribute_flat (fitting_flat plain update listed)
  simp only [rewrite, cleared, written]
  rfl

variable (registry element)

/-- The attributes that the wanted subtype names have the values that it expects. -/
theorem attribute?_switchedNode (plain : table.Plain wanted) {criterion : Criterion}
    (listed : criterion ∈ wanted.criteria) (node : BusinessObject) :
    (table.switchedNode registry element wanted node).attribute? criterion.id =
      criterion.value := by
  obtain ⟨value, valued, _⟩ := plain.valued criterion listed
  rw [valued]
  refine attribute?_replay ?_ ?_ ?_ (mem_fitting listed valued) _
  · exact fitting_flat plain
  · exact fitting_filled plain
  · rw [map_field_fitting plain]
    exact plain.distinct

theorem fits_switchedNode (plain : table.Plain wanted) (node : BusinessObject) :
    table.fits (table.switchedNode registry element wanted node) wanted = true := by
  rw [fits, List.all_eq_true]
  intro criterion listed
  obtain ⟨value, valued, _⟩ := plain.valued criterion listed
  have written := attribute?_switchedNode registry element plain listed node
  simp only [holds, valued, read_flat (plain.flat criterion listed), written, decide_true]

variable {registry element}

/-- What a criterion of another subtype expects is stale if the wanted subtype does not name it. -/
theorem mem_stale (plain : ∀ kind ∈ element.subtypes, table.Plain kind) {kind : ElementSubtype}
    (listed : kind ∈ element.subtypes) (other : kind.name ≠ wanted.name) {criterion : Criterion}
    (inside : criterion ∈ kind.criteria)
    (unnamed : criterion.id ∉ wanted.criteria.map Criterion.id) :
    criterion ∈ table.stale element wanted := by
  obtain ⟨value, valued, _⟩ := (plain kind listed).valued criterion inside
  have flat := isAttribute_flat ((plain kind listed).flat criterion inside)
  have free : wanted.requires criterion = false := by
    rw [ElementSubtype.requires, List.any_eq_false]
    intro required wants same
    simp only [Bool.and_eq_true, decide_eq_true_eq] at same
    exact unnamed (same.1 ▸ List.mem_map_of_mem wants)
  rw [stale, List.mem_filter, List.mem_flatMap]
  refine ⟨⟨kind, List.mem_filter.mpr ⟨listed, by simpa using other⟩, inside⟩, ?_⟩
  simp [valued, flat, free]

/-- What another subtype expects and the wanted one does not name is gone. -/
theorem attribute?_switchedNode_stale (plain : ∀ kind ∈ element.subtypes, table.Plain kind)
    (known : wanted ∈ element.subtypes) {criterion : Criterion}
    (left : criterion ∈ table.stale element wanted)
    (unnamed : criterion.id ∉ wanted.criteria.map Criterion.id) (node : BusinessObject) :
    (table.switchedNode registry element wanted node).attribute? criterion.id = none := by
  have own := plain wanted known
  rw [switchedNode, attribute?_replay_other (fitting_flat own) (fitting_filled own)
    (by rwa [map_field_fitting own]), attribute?_clearings (stale_flat plain),
    if_pos (List.mem_map_of_mem left)]

/-- After a switch another subtype fits only if it expects nothing that the wanted one does not. -/
theorem expectations_subset (plain : ∀ kind ∈ element.subtypes, table.Plain kind)
    (known : wanted ∈ element.subtypes) {kind : ElementSubtype} (listed : kind ∈ element.subtypes)
    (other : kind.name ≠ wanted.name) {node : BusinessObject}
    (fits : table.fits (table.switchedNode registry element wanted node) kind = true) :
    kind.expectations ⊆ wanted.expectations := by
  intro pair expected
  obtain ⟨criterion, inside, rfl⟩ := List.mem_map.mp expected
  obtain ⟨value, valued, _⟩ := (plain kind listed).valued criterion inside
  have flat := (plain kind listed).flat criterion inside
  have held := List.all_eq_true.mp fits criterion inside
  simp only [holds, valued, read_flat flat, decide_eq_true_eq] at held
  by_cases named : criterion.id ∈ wanted.criteria.map Criterion.id
  · obtain ⟨required, wants, same⟩ := List.mem_map.mp named
    have written := attribute?_switchedNode registry element (plain wanted known) wants node
    rw [same, held] at written
    exact List.mem_map.mpr ⟨required, wants, by rw [same, valued, written]⟩
  · -- A criterion that the wanted subtype does not name is stale, and its attribute is cleared.
    have left := mem_stale plain listed other inside named
    rw [attribute?_switchedNode_stale plain known left named] at held
    cases held

/-- A plain subtype that expects less than another one is less specific. -/
theorem specificity_lt {kind : ElementSubtype} (plain : table.Plain kind)
    (wants : table.Plain wanted) (subset : kind.expectations ⊆ wanted.expectations)
    (different : ¬ ∀ pair, pair ∈ kind.expectations ↔ pair ∈ wanted.expectations) :
    kind.specificity < wanted.specificity := by
  have weight {kind : ElementSubtype} (plain : table.Plain kind) :
      kind.specificity = 2 * kind.expectations.length := by
    rw [ElementSubtype.expectations, List.length_map]
    refine ElementSubtype.specificity_valued fun criterion listed => ?_
    obtain ⟨value, valued, _⟩ := plain.valued criterion listed
    rw [valued, Option.isSome_some]
  have distinct : kind.expectations.Nodup := by
    refine List.Nodup.of_map Prod.fst ?_
    rw [ElementSubtype.expectations, List.map_map]
    exact plain.distinct
  have below := distinct.subperm subset
  have shorter : kind.expectations.length < wanted.expectations.length := by
    refine Nat.lt_of_not_le fun long => different fun pair => ?_
    exact (below.perm_of_length_le long).mem_iff
  rw [weight plain, weight wants]
  omega

end Plain

/-- A node that is switched to a plain subtype is determined to be of it. -/
theorem determine_switchedNode {element : ElementConfiguration} {wanted : ElementSubtype}
    (plain : ∀ kind ∈ element.subtypes, table.Plain kind)
    (distinct : element.subtypeNames.Nodup) (known : wanted ∈ element.subtypes)
    (unique : ∀ kind ∈ element.subtypes, kind.name ≠ wanted.name →
      ¬ ∀ pair, pair ∈ kind.expectations ↔ pair ∈ wanted.expectations) (node : BusinessObject) :
    table.determine element (table.switchedNode registry element wanted node) = some wanted := by
  have weaker (kind : ElementSubtype) (listed : kind ∈ element.subtypes)
      (other : kind.name ≠ wanted.name)
      (fitting : table.Matches (table.switchedNode registry element wanted node) kind) :
      kind.specificity < wanted.specificity :=
    specificity_lt (plain kind listed) (plain wanted known)
      (expectations_subset plain known listed other ((fits_iff kind).mpr fitting))
      (unique kind listed other)
  obtain ⟨earlier, later, parts⟩ := List.append_of_mem known
  have once : wanted.name ∉ (earlier ++ later).map ElementSubtype.name := by
    rw [ElementConfiguration.subtypeNames, parts, List.map_append, List.map_cons,
      List.nodup_middle, List.nodup_cons, ← List.map_append] at distinct
    exact distinct.1
  have other (kind : ElementSubtype) (listed : kind ∈ earlier ++ later) :
      kind.name ≠ wanted.name := fun same => once (same ▸ List.mem_map_of_mem listed)
  rw [determine_eq_some]
  refine ⟨earlier, later, parts,
    (fits_iff wanted).mp (fits_switchedNode registry element (plain wanted known) node),
    fun kind before fitting => ?_, fun kind after fitting => ?_⟩
  · exact weaker kind (by simp [parts, before]) (other kind (by simp [before])) fitting
  · exact Nat.le_of_lt
      (weaker kind (by simp [parts, after]) (other kind (by simp [after])) fitting)

end LocationTable

end PropertyPanel
