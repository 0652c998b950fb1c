/-
This file proves when a write that is repeated changes nothing more, and which of the nodes that a
write makes its steps select again.
-/

import PropertyPanel.Proofs.Resolution.Attachment

namespace PropertyPanel

/-- Among many nodes a node that is attached is one more. -/
theorem BusinessObject.attach_grows (node : BusinessObject) (name : String)
    (child : BusinessObject) : node.attach name child true ≠ node := by
  intro same
  have held := congrArg (BusinessObject.members · name) same
  rw [node.attach_attached] at held
  simpa [members, attached] using congrArg List.length held

namespace Location

variable (field : String)

/-- Each step selects the one node that is made for it exactly if it is solvable and keeps the
node. -/
def Reselected (value : Scalar) : List Step → BusinessObject → Prop
  | [], _ => True
  | step :: rest, node =>
      step.isLeaf = true ∨ ∃ child ∈ node.children (step.name field),
        Reselected value rest child ∧
        step.selected field node =
          if step.solvable field && keeps field (some value) step rest then [child] else []

variable {field} {registry : TypeRegistry} {name : String} {value : Scalar}
  {node created : BusinessObject}

theorem createBelow_reselected {steps : List Step} (chain : Chain steps)
    (missing : ∀ step ∈ steps.head?, step.selected field node = [])
    (done : createBelow registry field name value steps node = .ok created) :
    Reselected field value steps created := by
  induction chain generalizing node created with
  | body => trivial
  | leaf property => exact .inl rfl
  | step step rest inner distinct chain ih =>
      obtain ⟨fresh, below, before, bare, inside, children, skips, accepted⟩ :=
        createBelow_first inner distinct (missing step rfl) done
      refine .inr ⟨below, by simp [children], ih (fun next _ => bare next) inside, ?_⟩
      rw [step.selected_child field created children skips, ← accepted, List.filter_singleton]
      exact cond_eq_ite _ _ _

/-- What is made for steps that select it is written once more without an effect. -/
theorem writeSteps_created {steps : List Step} (chain : Chain steps)
    (selecting : selects field (some value) steps = true)
    (missing : ∀ step ∈ steps.head?, step.selected field node = [])
    (done : createBelow registry field name value steps node = .ok created) :
    writeSteps registry field name (some value) steps created = (created, .ok ()) := by
  induction chain generalizing node created with
  | body =>
      cases done
      rfl
  | leaf property =>
      cases done
      exact Prod.ext (node.setProperty_setProperty _ _ _) rfl
  | step step rest inner distinct chain ih =>
      obtain ⟨fresh, below, before, bare, inside, children, skips, accepted⟩ :=
        createBelow_first inner distinct (missing step rfl) done
      rw [selects, Bool.and_eq_true] at selecting
      rw [selecting.1] at accepted
      have present : (created.children (step.name field))[before.length]? = some below := by
        simp [children]
      rw [writeSteps_child registry field name _ inner rest
        (step.findIndex?_first field created children accepted skips) children,
        ih selecting.2 (fun next _ => bare next) inside, BusinessObject.replaceChild_same present]

/-- A value that is written along steps which select what is made for them is written once more
without an effect. -/
theorem writeSteps_written {steps : List Step} (chain : Chain steps)
    (selecting : selects field (some value) steps = true) {after : BusinessObject}
    (done : writeSteps registry field name (some value) steps node = (after, .ok ())) :
    writeSteps registry field name (some value) steps after = (after, .ok ()) := by
  induction chain generalizing node after with
  | body =>
      cases done
      rfl
  | leaf property =>
      cases done
      exact Prod.ext (node.setProperty_setProperty _ _ _) rfl
  | step step rest inner distinct chain ih =>
      cases step.descent field node with
      | leaf leaf => cases inner.symm.trans leaf
      | stuck inner missing =>
          rw [writeSteps_missing registry field name inner rest missing] at done
          have none := step.findIndex?_none field node missing
          split at done
          · rename_i created made
            cases done
            exact writeSteps_created (.step step rest inner distinct chain) selecting
              (by simpa using none) made
          · cases congrArg Prod.snd done
      | child inner before child others children found accepted skips =>
          rw [writeSteps_child registry field name _ inner rest found children] at done
          rw [selects, Bool.and_eq_true, Bool.and_eq_true] at selecting
          obtain ⟨rfl, outcome⟩ := Prod.mk.inj done
          -- The child is still the one that the step selects.
          have still := (accepts_writeSteps accepted outcome).trans selecting.1.2
          have replaced := step.children_replaceFirst field node children
            (writeSteps registry field name (some value) rest child).1
          rw [writeSteps_child registry field name _ inner rest
            (step.findIndex?_first field _ replaced still skips) replaced,
            ih selecting.2 (Prod.ext rfl outcome), BusinessObject.replaceChild_replaceChild]

/-- Steps that are not stuck select what is made for them if a value is written along them without
an effect. -/
theorem selects_unchanged {steps : List Step} (chain : Chain steps) {last : Option Step}
    (reached : (haltBelow field last steps node).stuck = false)
    (unchanged : writeSteps registry field name (some value) steps node = (node, .ok ())) :
    selects field (some value) steps = true := by
  induction chain generalizing last node with
  | body => rfl
  | leaf property => rfl
  | step step rest inner distinct chain ih =>
      cases step.descent field node with
      | leaf leaf => cases inner.symm.trans leaf
      | stuck inner missing =>
          rw [haltBelow_missing (step.findIndex?_none field node missing)] at reached
          simp [Halt.stuck, inner] at reached
      | child inner before child after children found accepted skips =>
          rw [haltBelow_child children accepted skips] at reached
          rw [writeSteps_child registry field name _ inner rest found children] at unchanged
          obtain ⟨kept, done⟩ := Prod.mk.inj unchanged
          -- The child is replaced by itself, so it is still the one that the step selects.
          have same : (writeSteps registry field name (some value) rest child).1 = child := by
            have places := step.children_replaceFirst field node children
              (writeSteps registry field name (some value) rest child).1
            rw [kept, children] at places
            exact (List.cons.inj (List.append_cancel_left places)).1.symm
          have keeping := accepts_writeSteps accepted done
          rw [same, accepted] at keeping
          rw [selects, Step.solvable_of_accepts accepted, ← keeping,
            ih reached (Prod.ext same done)]
          rfl

/-- Steps that select what is made for them do so from where a descent ends. -/
theorem selects_left {steps : List Step} {last : Option Step}
    (selecting : selects field (some value) steps = true) :
    selects field (some value) (haltBelow field last steps node).left = true := by
  induction steps generalizing last node with
  | nil => rfl
  | cons step rest ih =>
      rw [haltBelow]
      cases step.selected field node with
      | nil => exact selecting
      | cons first others =>
          rw [selects, Bool.and_eq_true] at selecting
          exact ih selecting.2

theorem chain_left {steps : List Step} (chain : Chain steps) {last : Option Step} :
    Chain (haltBelow field last steps node).left := by
  induction chain generalizing last node with
  | body => exact .body
  | leaf property =>
      rw [haltBelow_leaf rfl]
      exact .leaf property
  | step step rest inner distinct chain ih =>
      rw [haltBelow]
      cases step.selected field node with
      | nil => exact .step step rest inner distinct chain
      | cons first others => exact ih

section Stuck

variable {step : Step} {rest : List Step} (inner : step.isLeaf = false)

include inner

/-- A write that is stuck changes nothing exactly if it makes the node at which it is stuck. -/
theorem writeSteps_unchanged {steps : List Step} {last : Option Step}
    (ends : (haltBelow field last steps node).left = step :: rest) :
    writeSteps registry field name (some value) steps node = (node, .ok ()) ↔
      createBelow registry field name value (step :: rest) (haltBelow field last steps node).node =
        .ok (haltBelow field last steps node).node := by
  have reached := follow_trail field steps last node
  constructor
  · intro unchanged
    obtain ⟨created, made, replaced⟩ := writeSteps_stuck ends inner unchanged
    have put := follow_replaceAt reached created
    rw [← replaced, reached, Option.some_inj] at put
    rw [made, put]
  · intro made
    have missing := step.findIndex?_missing field _ (selected_halt ends)
    rw [writeSteps_halt registry field name (some value) steps last, ends,
      writeSteps_missing registry field name inner rest missing, made]
    exact Prod.ext (replaceAt_same reached) rfl

/-- Where many nodes can stand, a node that is made is one more. -/
theorem createBelow_unchanged
    (made : createBelow registry field name value (step :: rest) node = .ok node) :
    step.isMany = false := by
  obtain ⟨new, _, same⟩ := createBelow_attached inner made
  rw [← node.attach_attached] at same
  cases many : step.isMany with
  | false => rfl
  | true => exact absurd same.symm (many ▸ node.attach_grows _ new)

end Stuck

/-- The descent along steps that select what is made for them is not stuck after a write. -/
theorem stuck_written {steps : List Step} (chain : Chain steps) (last : Option Step)
    (selecting : selects field (some value) steps = true)
    (unchanged : writeSteps registry field name (some value) steps node = (node, .ok ())) :
    (haltBelow field last steps node).stuck = false := by
  have left : Chain (haltBelow field last steps node).left := chain_left chain
  have selects : selects field (some value) (haltBelow field last steps node).left = true :=
    selects_left selecting
  rw [← Bool.not_eq_true]
  intro stuck
  obtain ⟨step, rest, ends, inner⟩ := Halt.of_stuck stuck
  have none := selected_halt ends
  rw [ends] at left selects
  -- The write would make the node that it finds, and select what it makes.
  have made := createBelow_reselected left (by simpa using none)
    ((writeSteps_unchanged inner ends).mp unchanged)
  rw [Location.selects, Bool.and_eq_true] at selects
  rcases made with leaf | ⟨child, _, _, selected⟩
  · cases inner.symm.trans leaf
  · rw [selects.1, if_pos rfl, none] at selected
    cases selected

end Location

namespace LocationTable

open Location (Reselected selects createBelow trail follow noteSteps noteLocation notedTask
  compile_noteSteps noteLocation_selecting)

/-- A write is repeated without an effect exactly if the steps of its location select what is made
for them, or if it is stuck at a step for a single node and makes the node there once more. The
node that is made for a step is selected by it exactly if the step is solvable and keeps the node. -/
theorem write_repeated (declared : Dictionary String (List StepDeclaration)) (name : String)
    (location : Location) (known : (compile declared).1.find? name = some location)
    (registry : TypeRegistry) (field : String) (value : Scalar) (node after : BusinessObject)
    (done : (compile declared).1.write registry node field name (some value) = (after, .ok ())) :
    let halt := location.halt field after
    ((compile declared).1.write registry after field name (some value) = (after, .ok ()) ↔
      selects field (some value) location.steps = true ∨
        halt.stuck = true ∧ ∃ step left, halt.left = step :: left ∧ step.isMany = false ∧
          createBelow registry field name value (step :: left) halt.node = .ok halt.node) ∧
    (selects field (some value) location.steps = true → halt.stuck = false) ∧
    ((location.halt field node).stuck = true →
      ∃ parent, follow field (trail field location.steps node) after = some parent ∧
        Reselected field value (location.halt field node).left parent) := by
  intro halt
  have chain := (compile_compiled declared name location known).2
  rw [write_known known] at done ⊢
  have again (selecting : selects field (some value) location.steps = true) :=
    Location.writeSteps_written chain selecting done
  refine ⟨⟨fun unchanged => ?_, ?_⟩, fun selecting => ?_, fun stuck => ?_⟩
  · cases stuck : halt.stuck with
    | false => exact .inl (Location.selects_unchanged chain stuck unchanged)
    | true =>
        obtain ⟨step, left, ends, inner⟩ := Location.Halt.of_stuck stuck
        have made := (Location.writeSteps_unchanged inner ends).mp unchanged
        exact .inr ⟨rfl, step, left, ends, Location.createBelow_unchanged inner made, made⟩
  · rintro (selecting | ⟨stuck, step, left, ends, _, made⟩)
    · exact again selecting
    · have inner : step.isLeaf = false := by simpa [Location.Halt.stuck, ends] using stuck
      exact (Location.writeSteps_unchanged inner ends).mpr made
  · exact Location.stuck_written chain none selecting (again selecting)
  · have reached := Location.follow_trail field location.steps none node
    have left : Location.Chain (location.halt field node).left := Location.chain_left chain
    obtain ⟨step, rest, ends, inner⟩ := Location.Halt.of_stuck stuck
    have missing := Location.selected_halt ends
    obtain ⟨created, made, replaced⟩ := Location.writeSteps_stuck ends inner done
    rw [ends] at left ⊢
    rw [replaced]
    exact ⟨created, Location.follow_replaceAt reached created,
      Location.createBelow_reselected left (by simpa using missing) made⟩

/-- The text of an own note that is made by a write is written once more without an effect. -/
theorem write_repeated_notes :
    let table := (compile (.ofList [("note", noteSteps)])).1
    ∃ after, table.write TypeRegistry.permissive (notedTask [("you", "b")]) "me" "note"
        (some (.text "a")) = (after, .ok ()) ∧
      table.write TypeRegistry.permissive after "me" "note" (some (.text "a")) =
        (after, .ok ()) := by
  intro table
  have done : table.write TypeRegistry.permissive (notedTask [("you", "b")]) "me" "note"
      (some (.text "a")) = (_, .ok ()) := Prod.ext rfl rfl
  refine ⟨_, done, ?_⟩
  have repeated := write_repeated _ "note" noteLocation compile_noteSteps .permissive "me"
    (.text "a") _ _ done
  exact repeated.1.mpr (.inl (noteLocation_selecting.selects _))

/-- A note with a condition on an empty value is not selected, and another one is made. -/
theorem write_repeated_empty :
    let table := (compile (.ofList [("note",
      [⟨"notes", some "Note", true, .ofList [("by", .text "")]⟩,
        ⟨"text", none, false, .empty⟩])])).1
    let note := ((BusinessObject.empty "Note").setScalar "by" (some (.text ""))).setScalar "text"
      (some (.text "a"))
    let task (notes : List BusinessObject) : BusinessObject :=
      (BusinessObject.empty "Task").setProperty "notes" (.sequence notes)
    table.write TypeRegistry.permissive (.empty "Task") "me" "note" (some (.text "a")) =
        (task [note], .ok ()) ∧
      table.write TypeRegistry.permissive (task [note]) "me" "note" (some (.text "a")) =
        (task [note, note], .ok ()) ∧
      task [note, note] ≠ task [note] := by
  refine ⟨rfl, rfl, fun same => ?_⟩
  cases congrArg (fun task => (BusinessObject.children task "notes").length) same

end LocationTable

end PropertyPanel
