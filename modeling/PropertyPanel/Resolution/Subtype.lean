/-
This file chooses the subtype of an element and rewrites the element to fit another one.
-/

import PropertyPanel.Resolution.Write

namespace PropertyPanel

namespace LocationTable

/-- A subtype fits a node that satisfies all its criteria. -/
def fits (table : LocationTable) (node : BusinessObject) (kind : ElementSubtype) : Bool :=
  kind.criteria.all (table.holds node)

/-- A later subtype wins only if it is more specific than the best one so far. -/
def better (best : Option ElementSubtype) (kind : ElementSubtype) : Option ElementSubtype :=
  match best with
  | some chosen => if chosen.specificity < kind.specificity then some kind else some chosen
  | none => some kind

/-- The most specific fitting subtype is chosen, and the first of equals. -/
def determine (table : LocationTable) (element : ElementConfiguration) (node : BusinessObject) :
    Option ElementSubtype :=
  (element.subtypes.filter (table.fits node)).foldl better none

/-- The criteria of other subtypes that a switch clears unless the wanted subtype requires them. -/
def stale (table : LocationTable) (element : ElementConfiguration) (wanted : ElementSubtype) :
    List Criterion :=
  ((element.subtypes.filter fun kind => kind.name ≠ wanted.name).flatMap
    ElementSubtype.criteria).filter fun criterion =>
      criterion.value.isSome && table.isAttribute criterion.location &&
        !wanted.requires criterion

/-- The updates that make a node satisfy the criteria with a value. -/
def fitting (wanted : ElementSubtype) : List PropertyUpdate :=
  wanted.criteria.filterMap fun criterion =>
    criterion.value.map fun value => ⟨criterion.id, criterion.location, some value⟩

/-- The node keeps the writes before an error. -/
def applyUpdates (table : LocationTable) (factory : NodeFactory) :
    List PropertyUpdate → BusinessObject → BusinessObject × Except ApplyError Unit
  | [], node => (node, .ok ())
  | update :: rest, node =>
      match table.write factory node update.field update.location update.value with
      | (node, .ok ()) => applyUpdates table factory rest node
      | (node, .error error) => (node, .error error)

/-- Only criteria that find a value are cleared, and each clearing is an update. -/
def clearStale (table : LocationTable) (factory : NodeFactory) :
    List Criterion → BusinessObject → BusinessObject × Except ApplyError (List PropertyUpdate)
  | [], node => (node, .ok [])
  | criterion :: rest, node =>
      if (table.read node criterion.id criterion.location).isNone then
        clearStale table factory rest node
      else
        match table.write factory node criterion.id criterion.location none with
        | (node, .ok ()) =>
            let (node, cleared) := clearStale table factory rest node
            (node, cleared.map fun updates => ⟨criterion.id, criterion.location, none⟩ :: updates)
        | (node, .error error) => (node, .error error)

/-- A switch clears what other subtypes left and then writes what the wanted subtype expects. -/
def rewrite (table : LocationTable) (factory : NodeFactory) (element : ElementConfiguration)
    (wanted : ElementSubtype) (node : BusinessObject) :
    BusinessObject × Except ApplyError (List PropertyUpdate) :=
  match clearStale table factory (table.stale element wanted) node with
  | (node, .error error) => (node, .error error)
  | (node, .ok cleared) =>
      let written := fitting wanted
      let (node, outcome) := applyUpdates table factory written node
      (node, outcome.map fun _ => cleared ++ written)

/-- A switch to an unknown subtype changes nothing. -/
def switchTo (table : LocationTable) (factory : NodeFactory) (element : ElementConfiguration)
    (target : String) (node : BusinessObject) :
    BusinessObject × Except ApplyError (List PropertyUpdate) :=
  match element.subtype? target with
  | some wanted => rewrite table factory element wanted node
  | none => (node, .ok [])

end LocationTable

end PropertyPanel
