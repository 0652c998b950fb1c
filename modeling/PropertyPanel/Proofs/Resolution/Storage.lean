/-
This file proves what compiled steps look like, and that a write that succeeds has stored its value
at the end of a path along all of them.
-/

import PropertyPanel.Proofs.Configuration
import PropertyPanel.Proofs.Resolution.Trail

namespace PropertyPanel

/-- A typed step stays typed, and an untyped one is a leaf if it is the last one and only navigates
if it is not. -/
inductive StepDeclaration.Becomes (declared : StepDeclaration) (last : Prop) : Step → Prop where
  | child (property : PropertyName) (nodeType : String) (filter : Filter)
      (typed : declared.nodeType = some nodeType) :
      Becomes declared last (.child property nodeType filter declared.array)
  | navigate (property : PropertyName) (filter : Filter) (untyped : declared.nodeType = none)
      (inner : ¬ last) : Becomes declared last (.navigate property filter)
  | leaf (property : PropertyName) (untyped : declared.nodeType = none) (ends : last) :
      Becomes declared last (.leaf property)

/-- The child that a step finds in a node is there, and what takes its place is there then. -/
theorem Step.findIndex?_inside {field : String} {step : Step} {node : BusinessObject} {index : Nat}
    (found : step.findIndex? field node = some index) :
    ∃ child, (node.children (step.name field))[index]? = some child ∧
      step.accepts field child = true ∧
      ∀ replacement, ((node.replaceChild (step.name field) index replacement).children
        (step.name field))[index]? = some replacement := by
  rw [findIndex?, List.findIdx?_eq_some_iff_getElem] at found
  obtain ⟨inside, accepted, _⟩ := found
  refine ⟨_, List.getElem?_eq_getElem inside, accepted, ?_⟩
  intro replacement
  rw [BusinessObject.children_replaceChild]
  exact List.getElem?_set_self inside

namespace Location

section Shape

variable {position : Nat} {last : Bool} {step : StepDeclaration} {compiled : Step}

theorem compileStep_becomes (done : compileStep position last step = .ok compiled) :
    step.Becomes (last = true) compiled := by
  unfold compileStep at done
  split at done
  · cases done
  · obtain ⟨filter, _, done⟩ := Outcome.bind_ok done
    cases typed : step.nodeType with
    | some nodeType =>
        rw [typed] at done
        cases done
        exact .child _ nodeType _ typed
    | none =>
        rw [typed] at done
        cases last with
        | true =>
            cases done
            exact .leaf _ typed rfl
        | false =>
            cases done
            exact .navigate _ _ typed Bool.false_ne_true

/-- Each compiled step comes from the declared one at its place. -/
theorem compileFrom_becomes {declared : List StepDeclaration} {steps : List Step}
    (done : compileFrom position declared = .ok steps) {index : Nat}
    (listed : steps[index]? = some compiled) :
    ∃ step, declared[index]? = some step ∧
      step.Becomes (index + 1 = declared.length) compiled := by
  induction declared generalizing position steps index with
  | nil =>
      cases done
      cases listed
  | cons first rest ih =>
      rw [compileFrom] at done
      obtain ⟨head, ahead, done⟩ := Outcome.bind_ok done
      obtain ⟨tail, others, done⟩ := Outcome.bind_ok done
      cases done
      cases index with
      | zero =>
          cases listed
          refine ⟨first, rfl, ?_⟩
          have ends : (rest.isEmpty = true) = (0 + 1 = (first :: rest).length) := by
            cases rest <;> simp
          rw [← ends]
          exact compileStep_becomes ahead
      | succ index =>
          obtain ⟨step, there, becomes⟩ := ih others listed
          refine ⟨step, there, ?_⟩
          simpa using becomes

/-- The steps of a location are compiled one for one, and the location is an attribute of the
element itself exactly if there is one declared step without a type. -/
structure Shaped (declared : List StepDeclaration) (location : Location) : Prop where
  filled : declared ≠ []
  counted : location.steps.length = declared.length
  becomes : ∀ index compiled, location.steps[index]? = some compiled →
    ∃ step : StepDeclaration, declared[index]? = some step ∧
      step.Becomes (index + 1 = declared.length) compiled
  single : location.isAttribute = true ↔
    ∃ step : StepDeclaration, declared = [step] ∧ step.nodeType = none

theorem isAttribute_iff {location : Location} :
    location.isAttribute = true ↔ ∃ property, location.steps = [.leaf property] := by
  unfold isAttribute
  split
  · rename_i property same
    simp [same]
  · rename_i other
    simpa using other

theorem compile_shaped {name : String} {declared : List StepDeclaration} {location : Location}
    (done : compile name declared = .ok location) : location.Shaped declared := by
  unfold compile at done
  split at done
  · cases done
  · rename_i filled
    obtain ⟨steps, made, same⟩ := Outcome.map_ok done
    subst same
    have becomes (index : Nat) (compiled : Step) (listed : steps[index]? = some compiled) :=
      compileFrom_becomes made listed
    have counted := (compileFrom_chain made).2
    refine ⟨fun empty => filled (List.isEmpty_iff.mpr empty), counted, becomes, ?_⟩
    rw [isAttribute_iff]
    constructor
    · rintro ⟨property, alone⟩
      change steps = [.leaf property] at alone
      subst alone
      obtain ⟨step, only⟩ := List.length_eq_one_iff.mp counted.symm
      obtain ⟨raw, there, made⟩ := becomes 0 _ rfl
      rw [only] at there
      cases there
      cases made with
      | leaf property untyped ends => exact ⟨step, only, untyped⟩
    · rintro ⟨step, only, untyped⟩
      rw [only] at counted
      obtain ⟨compiled, alone⟩ := List.length_eq_one_iff.mp counted
      subst alone
      obtain ⟨raw, there, made⟩ := becomes 0 _ rfl
      rw [only] at there made
      cases there
      cases made with
      | child property nodeType filter typed => cases untyped.symm.trans typed
      | navigate property filter untyped inner => exact absurd rfl inner
      | leaf property untyped ends => exact ⟨property, rfl⟩

/-- The last step is a leaf or a typed step. -/
theorem Shaped.ending {declared : List StepDeclaration} {location : Location}
    (shaped : location.Shaped declared) :
    ∃ last, location.steps.getLast? = some last ∧ (last.isLeaf = false →
      ∃ property nodeType filter many, last = .child property nodeType filter many) := by
  have positive := List.length_pos_iff.mpr shaped.filled
  have counted := shaped.counted
  have inside : location.steps.length - 1 < location.steps.length := by omega
  obtain ⟨last, listed⟩ : ∃ last, location.steps[location.steps.length - 1]? = some last :=
    ⟨_, List.getElem?_eq_getElem inside⟩
  refine ⟨last, List.getLast?_eq_getElem?.trans listed, ?_⟩
  intro inner
  obtain ⟨step, _, made⟩ := shaped.becomes _ _ listed
  cases made with
  | child property nodeType filter typed => exact ⟨property, nodeType, filter, _, rfl⟩
  | navigate property filter untyped others => exact absurd (by omega) others
  | leaf property untyped ends => cases inner

end Shape

/-- The last step says whether a node holds the value as a scalar or as its body. -/
inductive Holds (field : String) (value : Scalar) (steps : List Step) (node : BusinessObject) :
    Prop where
  | scalar (property : PropertyName) (ends : steps.getLast? = some (.leaf property))
      (held : node.property? (property.resolve field) = some (.scalar value)) :
      Holds field value steps node
  | body (typed : ∀ last ∈ steps.getLast?, last.isLeaf = false)
      (held : node.body = some value.display) : Holds field value steps node

section Storage

variable {field name : String} {factory : NodeFactory} {value : Scalar}

theorem Holds.step {step : Step} {rest : List Step} {node : BusinessObject}
    (inner : step.isLeaf = false) (holds : Holds field value rest node) :
    Holds field value (step :: rest) node := by
  cases holds with
  | scalar property ends held =>
      refine .scalar property ?_ held
      rw [List.getLast?_cons, ends]
      rfl
  | body typed held =>
      refine .body ?_ held
      intro last ends
      cases rest with
      | nil =>
          cases ends
          exact inner
      | cons next later => exact typed last (by rwa [List.getLast?_cons_cons] at ends)

/-- A path leads along all steps that are not the leaf to a node that holds the value. -/
def Reaches (field : String) (value : Scalar) (steps : List Step) (node : BusinessObject)
    (path : Trail) : Prop :=
  path.map Prod.fst = steps.filter (fun step => !step.isLeaf) ∧
    ∃ holder, follow field path node = some holder ∧ Holds field value steps holder

theorem reaches_body (node : BusinessObject) :
    Reaches field value [] (node.setBody (some value.display)) [] :=
  ⟨rfl, _, rfl, .body (fun _ ends => by cases ends) rfl⟩

theorem reaches_leaf (property : PropertyName) (node : BusinessObject) :
    Reaches field value [.leaf property]
      (node.setScalar (property.resolve field) (some value)) [] := by
  refine ⟨rfl, _, rfl, .scalar property rfl ?_⟩
  rw [BusinessObject.property?_setScalar, if_pos rfl]
  rfl

/-- A path below a child of a node goes on from the node through the child. -/
theorem Reaches.step {step : Step} {rest : List Step} {node child : BusinessObject}
    {index : Nat} {path : Trail} (inner : step.isLeaf = false)
    (present : (node.children (step.name field))[index]? = some child)
    (below : Reaches field value rest child path) :
    Reaches field value (step :: rest) node ((step, index) :: path) := by
  obtain ⟨along, holder, reached, holds⟩ := below
  refine ⟨?_, holder, ?_, holds.step inner⟩
  · rw [List.map_cons, along, List.filter_cons_of_pos (by simp [inner])]
  · change (node.children (step.name field))[index]?.bind (follow field path) = some holder
    rw [present]
    exact reached

/-- The value is stored below the nodes that are made for it. -/
theorem createBelow_reaches {steps : List Step} (chain : Chain steps)
    {node created : BusinessObject}
    (done : createBelow factory field name value steps node = .ok created) :
    ∃ path, Reaches field value steps created path := by
  induction chain generalizing node created with
  | body =>
      cases done
      exact ⟨[], reaches_body node⟩
  | leaf property =>
      cases done
      exact ⟨[], reaches_leaf property node⟩
  | step step rest inner distinct chain ih =>
      cases step with
      | leaf property => cases inner
      | navigate property filter => cases done
      | child property nodeType filter many =>
          obtain ⟨fresh, below, _, inside, same⟩ := createBelow_child done
          obtain ⟨path, reaches⟩ := ih inside
          have last := node.children_attachIndex (property.resolve field) below many
          rw [← same] at last
          exact ⟨_, reaches.step inner last⟩

/-- A write stores its value at the end of a path that begins with the nodes it has found. -/
theorem writeSteps_reaches {steps : List Step} (chain : Chain steps) {node after : BusinessObject}
    (done : writeSteps factory field name (some value) steps node = (after, .ok ())) :
    ∃ path, trail field steps node <+: path ∧ Reaches field value steps after path := by
  induction chain generalizing node after with
  | body =>
      cases done
      exact ⟨[], List.prefix_rfl, reaches_body node⟩
  | leaf property =>
      cases done
      exact ⟨[], List.prefix_rfl, reaches_leaf property node⟩
  | step step rest inner distinct chain ih =>
      cases step.descent field node with
      | leaf leaf => cases inner.symm.trans leaf
      | stuck inner missing =>
          rw [writeSteps_missing factory field name inner rest missing] at done
          split at done
          · rename_i created made
            cases done
            obtain ⟨path, reaches⟩ :=
              createBelow_reaches (.step step rest inner distinct chain) made
            rw [trail_missing missing]
            exact ⟨path, List.nil_prefix, reaches⟩
          · cases congrArg Prod.snd done
      | child inner before child later children found =>
          rw [writeSteps_child factory field name (some value) inner rest found children] at done
          obtain ⟨same, succeeded⟩ := Prod.mk.inj done
          subst same
          obtain ⟨path, begins, reaches⟩ := ih (Prod.ext rfl succeeded)
          rw [trail_child inner found children]
          refine ⟨_, List.cons_prefix_cons.mpr ⟨rfl, begins⟩, reaches.step inner ?_⟩
          rw [step.children_replaceFirst field node children]
          simp

end Storage

end Location

namespace LocationTable

open Location (Reaches trail noteSteps noteLocation notedTask)

/-- Steps compile one for one, and only the last one can be a leaf, which it is exactly if it has
no type. So a read ends at a leaf or at a typed step, the child that a step finds is always there,
and a write that succeeds has stored its value at the end of a path along all steps. -/
theorem write_stored (declared : List StepDeclaration) (name : String) (location : Location)
    (compiled : Location.compile name declared = .ok location) :
    location.Shaped declared ∧
      (∃ last, location.steps.getLast? = some last ∧ (last.isLeaf = false →
        ∃ property nodeType filter many, last = .child property nodeType filter many)) ∧
      (∀ field node, ∀ step ∈ location.steps, ∀ index, step.findIndex? field node = some index →
        ∃ child, (node.children (step.name field))[index]? = some child ∧
          step.accepts field child = true ∧
          ∀ replacement, ((node.replaceChild (step.name field) index replacement).children
            (step.name field))[index]? = some replacement) ∧
      ∀ (table : LocationTable) key, table.find? key = some location →
        ∀ (factory : NodeFactory) field value node after,
          table.write factory node field key (some value) = (after, .ok ()) →
            ∃ path, trail field location.steps node <+: path ∧
              Reaches field value location.steps after path := by
  have shaped := Location.compile_shaped compiled
  have chain := (Location.compile_compiled compiled).2
  refine ⟨shaped, shaped.ending, ?_, ?_⟩
  · intro field node step _ index found
    exact step.findIndex?_inside found
  · intro table key known factory field value node after done
    rw [write_known known] at done
    exact Location.writeSteps_reaches chain done

/-- The text of a new note is found below the detail node that was there. -/
theorem write_stored_notes :
    Location.compile "note" noteSteps = .ok noteLocation ∧
      ∃ after path holder,
        (compile (.ofList [("note", noteSteps)])).1.write TypeRegistry.permissive
          (notedTask [("you", "b")]) "me" "note" (some (.text "a")) = (after, .ok ()) ∧
        trail "me" noteLocation.steps (notedTask [("you", "b")]) <+: path ∧
        path.length = 2 ∧
        Location.follow "me" path after = some holder ∧
        holder.property? "text" = some (.scalar (.text "a")) := by
  have compiled : Location.compile "note" noteSteps = .ok noteLocation := rfl
  have done : (compile (.ofList [("note", noteSteps)])).1.write TypeRegistry.permissive
      (notedTask [("you", "b")]) "me" "note" (some (.text "a")) = (_, .ok ()) := Prod.ext rfl rfl
  obtain ⟨_, _, _, stored⟩ := write_stored noteSteps "note" noteLocation compiled
  obtain ⟨path, begins, along, holder, reached, holds⟩ :=
    stored _ "note" Location.compile_noteSteps TypeRegistry.permissive "me" (.text "a") _ _ done
  refine ⟨compiled, _, path, holder, done, begins, ?_, reached, ?_⟩
  · rw [← List.length_map, along]
    rfl
  · cases holds with
    | scalar property ends held =>
        cases ends
        exact held
    | body typed held => cases typed _ rfl

end LocationTable

end PropertyPanel
