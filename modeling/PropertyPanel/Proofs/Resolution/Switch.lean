/-
This file gives the writes that a switch to another subtype performs before it ends or fails.
-/

import PropertyPanel.Proofs.Resolution.Attribute
import PropertyPanel.Resolution.Subtype

namespace PropertyPanel.LocationTable

variable (table : LocationTable) (factory : NodeFactory)

/-- The node after updates that are written one after the other. -/
def replay (updates : List PropertyUpdate) (node : BusinessObject) : BusinessObject :=
  updates.foldl
    (fun node update => (table.write factory node update.field update.location update.value).1)
    node

/-- The updates before the first one that cannot be written. -/
def completed : List PropertyUpdate → BusinessObject → List PropertyUpdate
  | [], _ => []
  | update :: rest, node =>
      let (next, outcome) := table.write factory node update.field update.location update.value
      if outcome.isOk then update :: completed rest next else []

/-- The clearings of the criteria that find a value when their turn comes. -/
def clearings : List Criterion → BusinessObject → List PropertyUpdate
  | [], _ => []
  | criterion :: rest, node =>
      if (table.read node criterion.id criterion.location).isSome then
        let update : PropertyUpdate := ⟨criterion.id, criterion.location, none⟩
        update :: clearings rest (table.replay factory [update] node)
      else clearings rest node

/-- The updates that a switch writes before it ends or fails. -/
def performed (element : ElementConfiguration) (target : String) (node : BusinessObject) :
    List PropertyUpdate :=
  match element.subtype? target with
  | some wanted =>
      let cleared := table.clearings factory (table.stale element wanted) node
      cleared ++ table.completed factory (fitting wanted) (table.replay factory cleared node)
  | none => []

theorem replay_append (first second : List PropertyUpdate) (node : BusinessObject) :
    table.replay factory (first ++ second) node =
      table.replay factory second (table.replay factory first node) :=
  List.foldl_append

theorem stale_isAttribute {element : ElementConfiguration} {wanted : ElementSubtype}
    {criterion : Criterion} (stale : criterion ∈ table.stale element wanted) :
    table.isAttribute criterion.location = true := by
  rw [LocationTable.stale, List.mem_filter] at stale
  obtain ⟨_, conditions⟩ := stale
  simp only [Bool.and_eq_true] at conditions
  exact conditions.1.2

/-- An attribute of the element itself can always be written. -/
theorem write_isAttribute {location : String} (flat : table.isAttribute location = true)
    (node : BusinessObject) (field : String) (value : Option Scalar) :
    (table.write factory node field location value).2 = .ok () := by
  obtain ⟨name, designated⟩ := exists_attributeName? flat field
  rw [write_designated designated]

/-- Updates of attributes are all written. -/
theorem applyUpdates_attributes {updates : List PropertyUpdate}
    (flat : ∀ update ∈ updates, table.isAttribute update.location = true)
    (node : BusinessObject) :
    table.applyUpdates factory updates node = (table.replay factory updates node, .ok ()) := by
  induction updates generalizing node with
  | nil => rfl
  | cons update rest ih =>
      rw [List.forall_mem_cons] at flat
      have first : table.write factory node update.field update.location update.value =
          (table.replay factory [update] node, .ok ()) :=
        Prod.ext rfl (table.write_isAttribute factory flat.1 node update.field update.value)
      rw [applyUpdates, first]
      exact ih flat.2 _

/-- Attributes are cleared without a failure. -/
theorem clearStale_clearings (criteria : List Criterion)
    (attributes : ∀ criterion ∈ criteria, table.isAttribute criterion.location = true)
    (node : BusinessObject) :
    table.clearStale factory criteria node =
      (table.replay factory (table.clearings factory criteria node) node,
        .ok (table.clearings factory criteria node)) := by
  induction criteria generalizing node with
  | nil => rfl
  | cons criterion rest ih =>
      have later := ih fun other inside => attributes other (List.mem_cons_of_mem _ inside)
      rw [clearStale, clearings]
      cases present : table.read node criterion.id criterion.location with
      | none => simpa using later node
      | some value =>
          have written := table.write_isAttribute factory
            (attributes criterion List.mem_cons_self) node criterion.id none
          have cleared : table.write factory node criterion.id criterion.location none =
              (table.replay factory [⟨criterion.id, criterion.location, none⟩] node, .ok ()) :=
            Prod.ext rfl written
          simp only [cleared, later, Option.isNone_some, Option.isSome_some, Bool.false_eq_true,
            if_false, if_true]
          rfl

/-- Updates that stop at a failure leave the node that those before it make. -/
theorem applyUpdates_completed (updates : List PropertyUpdate) (node : BusinessObject) :
    (table.applyUpdates factory updates node).1 =
      table.replay factory (table.completed factory updates node) node := by
  induction updates generalizing node with
  | nil => rfl
  | cons update rest ih =>
      rw [applyUpdates, completed]
      rcases written : table.write factory node update.field update.location update.value with
        ⟨next, outcome⟩
      cases outcome with
      | ok =>
          have first : table.replay factory [update] node = next := congrArg Prod.fst written
          simp only [Except.isOk, Except.toBool, if_true]
          rw [ih next, ← List.singleton_append, replay_append, first]
      | error error =>
          -- The failed write itself leaves the node as it was.
          have kept := table.write_failed factory node update.field update.location update.value
            error (congrArg Prod.snd written)
          rw [written] at kept
          simpa [Except.isOk, Except.toBool, replay] using kept

/-- A switch leaves the node that its performed updates make, also where it fails. -/
theorem switchTo_performed (element : ElementConfiguration) (target : String)
    (node : BusinessObject) :
    (table.switchTo factory element target node).1 =
      table.replay factory (table.performed factory element target node) node := by
  rw [switchTo, performed]
  cases element.subtype? target with
  | none => rfl
  | some wanted =>
      have cleared := table.clearStale_clearings factory (table.stale element wanted)
        (fun _ stale => table.stale_isAttribute stale) node
      simp only [rewrite, cleared]
      rw [replay_append, applyUpdates_completed]

end PropertyPanel.LocationTable
