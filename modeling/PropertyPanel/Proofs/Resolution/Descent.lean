/-
This file follows the first selected children of the steps of a location to the node where they end,
and states which locations select the nodes that are made for them.
-/

import Mathlib.Data.List.Chain
import PropertyPanel.Proofs.Resolution.Acceptance

namespace PropertyPanel

namespace Step

/-- The step has a condition on a name. -/
def constrains (step : Step) (name : String) : Bool :=
  step.filter?.any fun filter => filter.constrains name

/-- A step permits every value at a name that it has no condition on. -/
theorem permits_unconstrained {step : Step} {name : String} (free : step.constrains name = false)
    (field : String) (value : Option Scalar) : step.permits field name value = true := by
  rw [permits, Option.all_eq_true]
  intro filter held
  rw [constrains, held, Option.any_some, Filter.constrains, List.any_eq_false] at free
  rw [List.all_eq_true]
  intro condition listed
  have different : condition.1 ≠ name := by simpa using free condition listed
  simp [different]

end Step

namespace Location

/-- The place where a descent ends: the step that has led there, the node, and the steps left. -/
structure Halt where
  last : Option Step
  node : BusinessObject
  left : List Step

namespace Halt

/-- A descent is stuck if no child is selected by the next step and this is not a leaf. -/
def stuck (halt : Halt) : Bool := halt.left.head?.any fun step => !step.isLeaf

/-- The node that a descent reaches if it is not stuck. -/
def reached? (halt : Halt) : Option BusinessObject :=
  if halt.stuck then none else some halt.node

end Halt

variable (field : String)

/-- The descent takes the first selected child of each step as long as there is one. -/
def haltBelow (last : Option Step) : List Step → BusinessObject → Halt
  | [], node => ⟨last, node, []⟩
  | step :: rest, node =>
      match step.selected field node with
      | [] => ⟨last, node, step :: rest⟩
      | first :: _ => haltBelow (some step) rest first

/-- No step leads to the element itself, where the descent begins. -/
def halt (location : Location) (node : BusinessObject) : Halt :=
  haltBelow field none location.steps node

/-- The steps select the nodes that are made for them: no condition is on an empty value, and no
step goes on at a name that the step before it has a condition on. -/
structure SelfSelecting (steps : List Step) : Prop where
  solvable : ∀ step ∈ steps, step.solvable field = true
  apart : steps.IsChain fun step next => step.constrains (next.name field) = false

variable {field} {last : Option Step} {step : Step} {rest : List Step} {node : BusinessObject}

theorem haltBelow_missing (missing : step.selected field node = []) :
    haltBelow field last (step :: rest) node = ⟨last, node, step :: rest⟩ := by
  rw [haltBelow, missing]

theorem haltBelow_child {before after : List BusinessObject} {child : BusinessObject}
    (children : node.children (step.name field) = before ++ child :: after)
    (accepted : step.accepts field child = true)
    (skips : ∀ skipped ∈ before, step.accepts field skipped = false) :
    haltBelow field last (step :: rest) node = haltBelow field (some step) rest child := by
  rw [haltBelow, step.selected_child field node children skips, List.filter_cons_of_pos accepted]

/-- The steps that are left are among those that the descent begins with. -/
theorem haltBelow_left {steps : List Step} :
    ∀ step ∈ (haltBelow field last steps node).left, step ∈ steps := by
  induction steps generalizing last node with
  | nil => exact fun _ => id
  | cons step rest ih =>
      rw [haltBelow]
      cases step.selected field node with
      | nil => exact fun _ => id
      | cons first more => exact fun later left => List.mem_cons_of_mem step (ih later left)

namespace SelfSelecting

theorem tail (selecting : SelfSelecting field (step :: rest)) : SelfSelecting field rest :=
  ⟨fun next listed => selecting.solvable next (List.mem_cons_of_mem _ listed),
    selecting.apart.tail⟩

theorem next {next : Step} {later : List Step}
    (selecting : SelfSelecting field (step :: next :: later)) :
    step.constrains (next.name field) = false :=
  (List.isChain_cons_cons.mp selecting.apart).1

theorem keeps (selecting : SelfSelecting field (step :: rest)) (value : Option Scalar) :
    Location.keeps field value step rest = true := by
  cases rest with
  | nil => rfl
  | cons next later => exact Step.permits_unconstrained selecting.next field _

theorem selects {steps : List Step} (selecting : SelfSelecting field steps)
    (value : Option Scalar) : Location.selects field value steps = true := by
  induction steps with
  | nil => rfl
  | cons step rest ih =>
      rw [Location.selects, selecting.solvable step List.mem_cons_self, selecting.keeps value,
        ih selecting.tail]
      rfl

end SelfSelecting

section Notes

/-- A note of the field that is read or written stands among others below a detail node. -/
def noteSteps : List StepDeclaration :=
  [⟨"detail", some "Detail", false, .empty⟩,
    ⟨"notes", some "Note", true, .ofList [("by", .text "$id")]⟩,
    ⟨"text", none, false, .empty⟩]

def noteLocation : Location :=
  ⟨"note", [.child (.literal "detail") "Detail" .none false,
    .child (.literal "notes") "Note" ⟨[("by", .fieldId)]⟩ true, .leaf (.literal "text")]⟩

theorem compile_noteSteps :
    (LocationTable.compile (.ofList [("note", noteSteps)])).1.find? "note" = some noteLocation := by
  decide

theorem noteLocation_selecting : SelfSelecting "me" noteLocation.steps where
  solvable := by decide
  apart := List.isChain_cons_cons.mpr
    ⟨by decide, List.isChain_cons_cons.mpr ⟨by decide, List.isChain_singleton _⟩⟩

/-- A task with the texts of notes by their authors. -/
def notedTask (notes : List (String × String)) : BusinessObject :=
  let note (author text : String) : BusinessObject :=
    ((BusinessObject.empty "Note").setScalar "by" (some (.text author))).setScalar "text"
      (some (.text text))
  (BusinessObject.empty "Task").setProperty "detail" <| .single <|
    (BusinessObject.empty "Detail").setProperty "notes" <| .sequence <|
      notes.map fun (author, text) => note author text

end Notes

end Location

end PropertyPanel
