/-
This file proves that clearing a value and pruning takes back the nodes that were made for the
value.
-/

import PropertyPanel.Proofs.Resolution.Edit
import PropertyPanel.Proofs.Resolution.Failure

namespace PropertyPanel

namespace BusinessObject

/-- A property has room for a node that can be dropped again if it is absent, or if it is a sequence
of nodes and takes more of them. -/
def Room (node : BusinessObject) (name : String) (many : Bool) : Prop :=
  node.property? name = none ∨
    many = true ∧ ∃ children, children ≠ [] ∧ node.property? name = some (.sequence children)

variable {node : BusinessObject} {name : String} {many : Bool}

theorem children_attach (room : node.Room name many) (child : BusinessObject) :
    (node.attach name child many).children name = node.children name ++ [child] := by
  rcases room with absent | ⟨rfl, children, _, held⟩
  · cases many <;> simp [attach, BusinessObject.children, absent]
  · simp [attach, BusinessObject.children, held]

/-- A node that is attached where there is room is dropped again without a trace. -/
theorem dropChild_attach (room : node.Room name many) (child : BusinessObject) :
    (node.attach name child many).dropChild name (node.children name).length = node := by
  rcases room with absent | ⟨rfl, children, filled, held⟩
  · have removed := removeProperty_absent absent
    cases many <;> simp [attach, dropChild, detach, BusinessObject.children, absent, removed]
  · have others : (children ++ [child]).eraseIdx children.length = children := by
      simp [List.eraseIdx_append_of_length_le]
    have same := setProperty_same held
    simp [attach, dropChild, detach, BusinessObject.children, held, others, filled, same]

end BusinessObject

namespace Location

variable {registry : TypeRegistry} {field name : String} {node : BusinessObject}

/-- A node is open to steps if the first of them selects nothing and has room for a new node, or if
there are none and the node has no body. -/
def Open (field : String) : List Step → BusinessObject → Prop
  | [], node => node.body = none
  | step :: _, node =>
      step.selected field node = [] ∧ node.Room (step.name field) step.isMany

/-- A new node is open to the steps that come after its own. -/
theorem open_created {property : PropertyName} {nodeType : String} {filter : Filter} {many : Bool}
    {rest : List Step} {fresh : BusinessObject}
    (selecting : SelfSelecting field (.child property nodeType filter many :: rest))
    (known : registry.create nodeType (filter.assignments field) = .ok fresh) :
    Open field rest fresh := by
  cases rest with
  | nil => exact Step.create_body known
  | cons next later =>
      exact ⟨Step.create_selected known next, .inl (Step.create_property? known selecting.next)⟩

section Child

variable {step : Step} (inner : step.isLeaf = false) {rest : List Step} {child : BusinessObject}
  {before after : List BusinessObject}
  (children : node.children (step.name field) = before ++ child :: after)
  (accepted : step.accepts field child = true)
  (skips : ∀ skipped ∈ before, step.accepts field skipped = false)

include inner children accepted skips

theorem clearSteps_child : (writeSteps registry field name none (step :: rest) node).1 =
    node.replaceChild (step.name field) before.length
      (writeSteps registry field name none rest child).1 := by
  rw [writeSteps_child registry field name none inner rest
    (step.findIndex?_first field node children accepted skips) children]

/-- The first selected child of a node that is cleared and pruned is itself cleared and pruned, and
then it is dropped if it is left vacant. -/
theorem pruneBelow_clearSteps (kept : keeps field none step rest = true) :
    let below := pruneBelow field rest (writeSteps registry field name none rest child).1
    pruneBelow field (step :: rest) (writeSteps registry field name none (step :: rest) node).1 =
      if below.2 && step.isVacant below.1 then
        (node.dropChild (step.name field) before.length, true)
      else (node.replaceChild (step.name field) before.length below.1, false) := by
  rw [clearSteps_child inner children accepted skips]
  -- The cleared child is still the one that the step selects.
  have still : step.accepts field (writeSteps registry field name none rest child).1 = true :=
    accepts_clearSteps accepted kept
  have replaced := step.children_replaceFirst field node children
    (writeSteps registry field name none rest child).1
  rw [pruneBelow_child field inner rest (step.findIndex?_first field _ replaced still skips)
    replaced, BusinessObject.dropChild_replaceChild, BusinessObject.replaceChild_replaceChild]

end Child

/-- A clearing and a prune take back all nodes that are made below an open node. -/
theorem pruneBelow_created {steps : List Step} (chain : Chain steps)
    (selecting : SelfSelecting field steps) {value : Scalar} {node created : BusinessObject}
    (opened : Open field steps node)
    (done : createBelow registry field name value steps node = .ok created) :
    pruneBelow field steps (writeSteps registry field name none steps created).1 =
      (node, true) := by
  induction chain generalizing node created with
  | body =>
      cases done
      have bare : node.body = none := opened
      cases node
      cases bare
      rfl
  | leaf property =>
      cases done
      rcases opened.2 with absent | ⟨many, _⟩
      · have regained : (node.setScalar (property.resolve field) (some value)).setScalar
            (property.resolve field) none = node :=
          (node.removeProperty_setProperty _ _).trans (BusinessObject.removeProperty_absent absent)
        rw [writeSteps_leaf registry field name none rfl, pruneBelow_leaf field rfl]
        exact congrArg (·, true) regained
      · cases many
  | step step rest inner distinct chain ih =>
      cases step with
      | leaf property => cases inner
      | navigate property filter => cases done
      | child property nodeType filter many =>
          obtain ⟨fresh, below, known, inside, same⟩ := createBelow_child done
          obtain ⟨missing, room⟩ := opened
          let step := Step.child property nodeType filter many
          change step.selected field node = [] at missing
          change node.Room (step.name field) many at room
          have skips : ∀ skipped ∈ node.children (step.name field),
              step.accepts field skipped = false := by
            simpa [Step.selected] using missing
          have accepted : step.accepts field below = true := by
            rw [accepts_created distinct known inside,
              selecting.solvable _ List.mem_cons_self, selecting.keeps]
            rfl
          have children : created.children (step.name field) =
              node.children (step.name field) ++ below :: [] :=
            same ▸ BusinessObject.children_attach room below
          have vacant : step.isVacant fresh = true := Step.create_vacant known
          rw [pruneBelow_clearSteps inner children accepted skips (selecting.keeps none),
            ih selecting.tail (open_created selecting known) inside, vacant, Bool.true_and,
            if_pos rfl]
          have dropped : created.dropChild (step.name field)
              (node.children (step.name field)).length = node :=
            same ▸ BusinessObject.dropChild_attach room below
          exact congrArg (·, true) dropped

/-- A clearing keeps the number of children at which its steps begin. -/
theorem length_children_clearSteps (registry : TypeRegistry) (field name : String) {step : Step}
    (inner : step.isLeaf = false) (rest : List Step) (node : BusinessObject) :
    ((writeSteps registry field name none (step :: rest) node).1.children
      (step.name field)).length = (node.children (step.name field)).length := by
  cases step.descent field node with
  | leaf leaf => cases inner.symm.trans leaf
  | stuck inner missing => rw [writeSteps_absent registry field name inner rest missing]
  | child inner before child after children found =>
      rw [writeSteps_child registry field name none inner rest found children]
      simp

/-- A node that a child is made for keeps this child when the value is cleared. -/
theorem clearSteps_created {step : Step} (inner : step.isLeaf = false) {rest : List Step}
    {value : Scalar} {node created : BusinessObject}
    (room : node.Room (step.name field) step.isMany)
    (done : createBelow registry field name value (step :: rest) node = .ok created) :
    (writeSteps registry field name none (step :: rest) created).1 ≠ node := by
  intro same
  have count := length_children_clearSteps registry field name inner rest created
  cases step with
  | leaf property => cases inner
  | navigate property filter => cases done
  | child property nodeType filter many =>
      obtain ⟨fresh, below, _, _, attached⟩ := createBelow_child done
      have children := BusinessObject.children_attach room below
      change (node.attach (property.resolve field) below many).children _ = _ at children
      rw [same, attached, children] at count
      simp at count

/-- Where a descent is stuck at a node that has room and that a prune keeps, a clearing and a prune
take back what a write has made, and nothing else. -/
theorem pruneBelow_restores {halt : Halt} {missed : Step} {left : List Step}
    (stuck : halt.left = missed :: left) (inner : missed.isLeaf = false)
    (kept : ∀ last ∈ halt.last, last.isVacant halt.node = false)
    (room : halt.node.Room (missed.name field) missed.isMany) {value : Scalar}
    {steps : List Step} (chain : Chain steps) (selecting : SelfSelecting field steps)
    {last : Option Step} {node : BusinessObject} (ended : haltBelow field last steps node = halt)
    (done : (writeSteps registry field name (some value) steps node).2 = .ok ()) :
    let written := (writeSteps registry field name (some value) steps node).1
    let cleared := (writeSteps registry field name none steps written).1
    cleared ≠ node ∧ (pruneBelow field steps cleared).1 = node ∧
      ((pruneBelow field steps cleared).2 = true → halt.last = last ∧ halt.node = node) := by
  induction chain generalizing last node with
  | body =>
      subst ended
      cases stuck
  | leaf property =>
      rw [haltBelow_missing (Step.selected_leaf field node property)] at ended
      subst ended
      cases stuck
      cases inner
  | step step rest deeper distinct chain ih =>
      cases step.descent field node with
      | leaf leaf => cases deeper.symm.trans leaf
      | stuck _ missing =>
          have none := step.findIndex?_none field node missing
          rw [haltBelow_missing none] at ended
          subst ended
          cases stuck
          rw [writeSteps_missing registry field name inner _ missing] at done ⊢
          split at done
          · rename_i created made
            have regained := pruneBelow_created (.step _ _ inner distinct chain) selecting
              ⟨none, room⟩ made
            refine ⟨clearSteps_created inner room made, ?_, fun _ => ⟨rfl, rfl⟩⟩
            rw [regained]
          · cases done
      | child _ before child after children found accepted skips =>
          rw [haltBelow_child children accepted skips] at ended
          rw [writeSteps_child registry field name _ deeper rest found children] at done ⊢
          obtain ⟨changed, regained, complete⟩ := ih selecting.tail ended done
          have held := accepts_writeSteps accepted done
          rw [selecting.keeps] at held
          have written := step.children_replaceFirst field node children
            (writeSteps registry field name (some value) rest child).1
          have present : (node.children (step.name field))[before.length]? = some child := by
            simp [children]
          dsimp only
          -- The child is pruned back to what it was, so a prune goes no further.
          rw [pruneBelow_clearSteps deeper written held skips (selecting.keeps none), regained,
            if_neg, BusinessObject.replaceChild_replaceChild,
            BusinessObject.replaceChild_same present]
          · refine ⟨fun same => changed ?_, rfl, fun complete => by cases complete⟩
            rw [clearSteps_child deeper written held skips,
              BusinessObject.replaceChild_replaceChild] at same
            have cleared := step.children_replaceFirst field node children
              (writeSteps registry field name none rest
                (writeSteps registry field name (some value) rest child).1).1
            rw [same, children] at cleared
            simpa using cleared.symm
          · rw [Bool.and_eq_true]
            rintro ⟨all, vacant⟩
            obtain ⟨came, reached⟩ := complete all
            rw [← reached, kept step came] at vacant
            cases vacant

end Location

namespace LocationTable

open Location (noteSteps noteLocation notedTask compile_noteSteps noteLocation_selecting)

/-- A clearing and a prune give back the tree that a write at a self-selecting location has begun
with, and the prune reports it, if the descent is stuck at the element itself or at a node that is
not vacant and the property of the missing child has room there. -/
theorem prune_cleared (declared : Dictionary String (List StepDeclaration)) (name : String)
    (location : Location) (known : (compile declared).1.find? name = some location)
    (field : String) (selecting : Location.SelfSelecting field location.steps)
    (registry : TypeRegistry) (value : Scalar) (node : BusinessObject) (missed : Step)
    (left : List Step) (stuck : (location.halt field node).left = missed :: left)
    (inner : missed.isLeaf = false)
    (kept : ∀ last ∈ (location.halt field node).last,
      last.isVacant (location.halt field node).node = false)
    (room : (location.halt field node).node.Room (missed.name field) missed.isMany)
    (written : BusinessObject)
    (done : (compile declared).1.write registry node field name (some value) =
      (written, .ok ())) :
    ∃ cleared, (compile declared).1.write registry written field name none = (cleared, .ok ()) ∧
      (compile declared).1.prune cleared field name = (node, true) := by
  have chain := (compile_compiled declared name location known).2
  rw [write_known known] at done
  obtain ⟨changed, regained, _⟩ := Location.pruneBelow_restores stuck inner kept room chain
    selecting rfl (congrArg Prod.snd done)
  rw [done] at changed regained
  rw [write_known known]
  refine ⟨_, Prod.ext rfl (Location.clearSteps_done location.steps written), ?_⟩
  rw [← Location.prune_pruneBelow] at regained
  rw [prune, known]
  exact Prod.ext regained (Location.prune_changed (by rw [regained]; exact changed.symm))

/-- A note that is written beside the one of another author and cleared again leaves no trace. -/
theorem prune_cleared_note :
    ∃ written cleared,
      (compile (.ofList [("note", noteSteps)])).1.write TypeRegistry.permissive
        (notedTask [("you", "b")]) "me" "note" (some (.text "a")) = (written, .ok ()) ∧
      (compile (.ofList [("note", noteSteps)])).1.write TypeRegistry.permissive written "me" "note"
        none = (cleared, .ok ()) ∧
      (compile (.ofList [("note", noteSteps)])).1.prune cleared "me" "note" =
        (notedTask [("you", "b")], true) := by
  have done : (compile (.ofList [("note", noteSteps)])).1.write TypeRegistry.permissive
      (notedTask [("you", "b")]) "me" "note" (some (.text "a")) = (_, .ok ()) := Prod.ext rfl rfl
  obtain ⟨cleared, clear, pruned⟩ := prune_cleared _ "note" noteLocation compile_noteSteps "me"
    noteLocation_selecting .permissive (.text "a") (notedTask [("you", "b")]) _ _ rfl rfl
    (fun last came => by cases came; rfl) (.inr ⟨rfl, _, List.cons_ne_nil _ _, rfl⟩) _ done
  exact ⟨_, cleared, done, clear, pruned⟩

end LocationTable

end PropertyPanel
