/-
This file proves where a write puts the nodes that it makes, and which nodes stand beside them.
-/

import PropertyPanel.Proofs.Resolution.Separation
import PropertyPanel.Proofs.Resolution.Trail

namespace PropertyPanel

namespace BusinessObject

variable (node : BusinessObject) (name : String)

/-- The nodes of a sequence, which a further node joins. -/
def members : List BusinessObject :=
  match node.property? name with
  | some (.sequence children) => children
  | _ => []

/-- The property after a node is attached to it. -/
def attached (child : BusinessObject) (many : Bool) : Property :=
  if many then .sequence (node.members name ++ [child]) else .single child

theorem attach_attached (child : BusinessObject) (many : Bool) :
    node.attach name child many = node.setProperty name (node.attached name child many) := by
  unfold attach attached members
  cases many with
  | false => rfl
  | true =>
      cases node.property? name with
      | none => rfl
      | some value => cases value <;> rfl

theorem children_attached (child : BusinessObject) :
    (node.setProperty name (node.attached name child true)).children name =
      node.members name ++ [child] := by
  simp [children, attached]

/-- All nodes of a property are joined exactly if it is not a single node. -/
theorem members_children : node.members name = node.children name ↔ node.Listed name := by
  unfold members children Listed
  cases held : node.property? name with
  | none => simp
  | some value => cases value <;> simp

end BusinessObject

namespace Location

variable (field : String)

/-- Each step on the way to the value leads to the one node that its property has. -/
def Linked : List Step → BusinessObject → Prop
  | [], _ => True
  | step :: rest, node =>
      step.isLeaf = true ∨ ∃ child, Linked rest child ∧
        node.property? (step.name field) =
          some (if step.isMany then .sequence [child] else .single child)

variable {field} {registry : TypeRegistry} {name : String} {step : Step} {rest : List Step}
  {node : BusinessObject}

/-- The nodes that are made for steps hang one below the other. -/
theorem createBelow_linked {value : Scalar} {steps : List Step} {node created : BusinessObject}
    (childless : ∀ name, node.children name = [])
    (done : createBelow registry field name value steps node = .ok created) :
    Linked field steps created := by
  induction steps generalizing node created with
  | nil => trivial
  | cons step rest ih =>
      cases step with
      | leaf property => exact .inl rfl
      | navigate property filter => cases done
      | child property nodeType filter many =>
          obtain ⟨fresh, below, known, inside, same⟩ := createBelow_child done
          refine .inr ⟨below, ih (Step.create_children known) inside, ?_⟩
          have alone : node.members (property.resolve field) = [] := by
            have none := childless (property.resolve field)
            exact ((node.members_children _).mpr (BusinessObject.listed_childless none)).trans none
          rw [same, BusinessObject.attach_attached, BusinessObject.attached, alone]
          exact (BusinessObject.property?_setProperty _ _ _ _).trans (if_pos rfl)

/-- The uppermost node that is made is attached, and the others hang below it. -/
theorem createBelow_attached {value : Scalar} {created : BusinessObject}
    (inner : step.isLeaf = false)
    (done : createBelow registry field name value (step :: rest) node = .ok created) :
    ∃ new, Linked field rest new ∧
      created = node.setProperty (step.name field)
        (node.attached (step.name field) new step.isMany) := by
  cases step with
  | leaf property => cases inner
  | navigate property filter => cases done
  | child property nodeType filter many =>
      obtain ⟨fresh, below, known, inside, same⟩ := createBelow_child done
      exact ⟨below, createBelow_linked (Step.create_children known) inside,
        same.trans (node.attach_attached _ below many)⟩

end Location

namespace LocationTable

open Location (Linked trail follow replaceAt noteSteps noteLocation notedTask compile_noteSteps)

/-- A write that makes nodes hangs them one below the other and puts the uppermost one where its
descent is stuck, and it changes nothing else. At a step for many nodes the new one comes after
those that were there exactly if the property was not a single node, which is replaced. -/
theorem write_attached (declared : Dictionary String (List StepDeclaration)) (name : String)
    (location : Location) (known : (compile declared).1.find? name = some location)
    (registry : TypeRegistry) (field : String) (value : Scalar) (node after : BusinessObject)
    (done : (compile declared).1.write registry node field name (some value) = (after, .ok ()))
    (stuck : (location.halt field node).stuck = true) :
    let halt := location.halt field node
    let trail := trail field location.steps node
    ∃ step left new parent,
      halt.left = step :: left ∧
      Linked field left new ∧
      parent = halt.node.setProperty (step.name field)
        (halt.node.attached (step.name field) new step.isMany) ∧
      after = replaceAt field trail parent node ∧
      follow field trail node = some halt.node ∧
      follow field trail after = some parent ∧
      (step.isMany = true →
        (parent.children (step.name field) = halt.node.children (step.name field) ++ [new] ↔
          halt.node.Listed (step.name field))) := by
  intro halt trail
  have reached : follow field trail node = some halt.node :=
    Location.follow_trail field location.steps none node
  rw [write_known known] at done
  obtain ⟨step, left, ends, inner⟩ := Location.Halt.of_stuck stuck
  obtain ⟨created, made, replaced⟩ := Location.writeSteps_stuck ends inner done
  obtain ⟨new, linked, same⟩ := Location.createBelow_attached inner made
  refine ⟨step, left, new, created, ends, linked, same, replaced, reached, ?_, fun many => ?_⟩
  · rw [replaced]
    exact Location.follow_replaceAt reached created
  · rw [same, many, BusinessObject.children_attached, List.append_left_inj]
    exact halt.node.members_children (step.name field)

/-- The own note comes after the note of another author. -/
theorem write_attached_notes :
    ∃ detail new after,
      (compile (.ofList [("note", noteSteps)])).1.write TypeRegistry.permissive
        (notedTask [("you", "b")]) "me" "note" (some (.text "a")) = (after, .ok ()) ∧
      (notedTask [("you", "b")]).children "detail" = [detail] ∧
      after.children "detail" = [detail.setProperty "notes"
        (.sequence (detail.children "notes" ++ [new]))] := by
  let node := notedTask [("you", "b")]
  have done : (compile (.ofList [("note", noteSteps)])).1.write TypeRegistry.permissive node "me"
      "note" (some (.text "a")) = (_, .ok ()) := Prod.ext rfl rfl
  obtain ⟨step, left, new, parent, ends, _, attached, replaced, _⟩ := write_attached _ "note"
    noteLocation compile_noteSteps .permissive "me" (.text "a") node _ done rfl
  cases ends
  refine ⟨_, new, _, done, rfl, ?_⟩
  rw [replaced, attached]
  rfl

/-- The own note takes the place of the note of another author, which stands there alone. -/
theorem write_attached_single :
    ∃ detail after note,
      (compile (.ofList [("note", noteSteps)])).1.write TypeRegistry.permissive
        ((BusinessObject.empty "Task").setProperty "detail" (.single detail))
        "me" "note" (some (.text "a")) =
          ((BusinessObject.empty "Task").setProperty "detail" (.single after), .ok ()) ∧
      detail.children "notes" = [note] ∧ note ∉ after.children "notes" ∧
      ∀ new, after.children "notes" ≠ detail.children "notes" ++ [new] := by
  let note (author text : String) : BusinessObject :=
    ((BusinessObject.empty "Note").setScalar "by" (some (.text author))).setScalar "text"
      (some (.text text))
  let detail : Property → BusinessObject := (BusinessObject.empty "Detail").setProperty "notes"
  have different : note "you" "b" ≠ note "me" "a" := fun same =>
    absurd (congrArg (BusinessObject.scalar? · "by") same) (by decide)
  refine ⟨detail (.single (note "you" "b")), detail (.sequence [note "me" "a"]), note "you" "b",
    rfl, rfl, List.mem_singleton.not.mpr different, fun new same => ?_⟩
  cases congrArg List.length same

end LocationTable

end PropertyPanel
