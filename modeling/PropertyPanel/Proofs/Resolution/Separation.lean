/-
This file proves that an edit of one field spares what is read for every other field if the nodes of
the fields are listed side by side and selected by the identifiers of the fields.
-/

import PropertyPanel.Proofs.BusinessObject.Names
import PropertyPanel.Proofs.Resolution.Frame

namespace PropertyPanel

namespace BusinessObject

/-- The property of a node is not a single node. -/
def Listed (node : BusinessObject) (name : String) : Prop :=
  ∀ child, node.property? name ≠ some (.single child)

/-- Every node of a tree satisfies a condition. -/
inductive Everywhere (holds : BusinessObject → Prop) : BusinessObject → Prop where
  | intro {node : BusinessObject} (here : holds node)
      (below : ∀ name, ∀ child ∈ node.children name, Everywhere holds child) :
      Everywhere holds node

namespace Everywhere

variable {holds : BusinessObject → Prop} {node : BusinessObject}

theorem root (everywhere : node.Everywhere holds) : holds node := by
  cases everywhere
  assumption

theorem children (everywhere : node.Everywhere holds) {name : String} {child : BusinessObject}
    (inside : child ∈ node.children name) : child.Everywhere holds := by
  cases everywhere with
  | intro here below => exact below name child inside

/-- All nodes of a tree satisfy a condition if its root and the nodes of its properties do. -/
theorem of_nodes (here : holds node)
    (nodes : ∀ entry ∈ node.properties, ∀ child ∈ entry.2.nodes, child.Everywhere holds) :
    node.Everywhere holds := by
  refine .intro here fun name child inside => ?_
  obtain ⟨value, listed, held⟩ := mem_nodes_of_mem_children inside
  exact nodes _ listed child held

end Everywhere

variable {node : BusinessObject} {name : String}

theorem listed_childless (childless : node.children name = []) : node.Listed name := by
  intro child held
  rw [children, held] at childless
  cases childless

theorem listed_replaceChild (listed : node.Listed name) (index : Nat) (child : BusinessObject) :
    (node.replaceChild name index child).Listed name := by
  intro other
  unfold replaceChild
  split
  · rename_i first held
    exact absurd held (listed first)
  · simp
  · exact listed other

theorem listed_attach (child : BusinessObject) : (node.attach name child true).Listed name := by
  intro other
  unfold attach
  split
  · split
    · simp
    · simp
  · contradiction

theorem listed_dropChild (listed : node.Listed name) (index : Nat) :
    (node.dropChild name index).Listed name := by
  intro other
  rcases node.dropChild_cases name index with ⟨_, same⟩ | ⟨_, removed⟩ | shorter
  · rw [same]
    exact listed other
  · simp [removed]
  · simp [shorter]

end BusinessObject

namespace Step

variable {field other key : String} {step : Step} {node : BusinessObject}

section Selected

variable {before after : List BusinessObject} {child : BusinessObject}

/-- The replacement of a child that is not selected selects no other children. -/
theorem selected_replaceChild
    (children : node.children (step.name field) = before ++ child :: after)
    (rejected : step.accepts field child = false) {replacement : BusinessObject}
    (still : step.accepts field replacement = false) :
    step.selected field (node.replaceChild (step.name field) before.length replacement) =
      step.selected field node := by
  rw [selected, selected, step.children_replaceFirst field node children, children]
  simp [rejected, still]

theorem selected_dropChild
    (children : node.children (step.name field) = before ++ child :: after)
    (rejected : step.accepts field child = false) :
    step.selected field (node.dropChild (step.name field) before.length) =
      step.selected field node := by
  rw [selected, selected, BusinessObject.children_dropChild, children]
  simp [rejected, List.eraseIdx_append_of_length_le]

/-- A child that joins a sequence and is not selected selects no other children. -/
theorem selected_join (listed : node.Listed (step.name field))
    (rejected : step.accepts field child = false) :
    step.selected field (node.attach (step.name field) child true) = step.selected field node := by
  rw [selected, selected, BusinessObject.attach, BusinessObject.children, BusinessObject.children]
  cases held : node.property? (step.name field) with
  | none => simp [rejected]
  | some value =>
      cases value with
      | scalar value => simp [rejected]
      | single first => exact absurd held (listed first)
      | sequence nodes => simp [rejected]

end Selected

/-- The step selects nodes that have the identifier of the field under a key. -/
def Keyed (step : Step) (key : String) : Prop :=
  ∃ filter, step.filter? = some filter ∧ (key, .fieldId) ∈ filter.conditions

/-- A word of the step stands for the identifier of the field. -/
def mentionsField (step : Step) : Bool :=
  decide (step.property = .fieldId) ||
    step.filter?.any fun filter => filter.conditions.any fun condition =>
      decide (condition.2 = .fieldId)

theorem Keyed.constrains (keyed : step.Keyed key) : step.constrains key = true := by
  obtain ⟨filter, held, listed⟩ := keyed
  rw [Step.constrains, held, Option.any_some, Filter.constrains, List.any_eq_true]
  exact ⟨_, listed, decide_eq_true rfl⟩

/-- A selected node has the identifier of the field. -/
theorem Keyed.named (keyed : step.Keyed key) (accepted : step.accepts field node = true) :
    node.scalar? key = some (.text field) := by
  obtain ⟨filter, held, listed⟩ := keyed
  have conditions := filter_accepted accepted held
  rw [filter_accepts, List.all_eq_true] at conditions
  obtain ⟨actual, present, expected⟩ := (Option.any_eq_true _ _).mp (conditions _ listed)
  simp only [Expected.accepts, Bool.and_eq_true, decide_eq_true_eq] at expected
  rw [present]
  cases actual with
  | text value => exact congrArg some (congrArg Scalar.text (Option.some_inj.mp expected.2.2))
  | flag value => cases expected.2.2
  | integer value => cases expected.2.2

/-- A node that has the identifier of a field is selected for no other field. -/
theorem Keyed.rejects (keyed : step.Keyed key) (named : node.scalar? key = some (.text field))
    (different : other ≠ field) : step.accepts other node = false := by
  rw [← Bool.not_eq_true]
  intro accepted
  have same := (keyed.named accepted).symm.trans named
  cases same
  exact different rfl

section Unmentioned

variable (free : step.mentionsField = false) (field other)

include free

theorem name_unmentioned : step.name field = step.name other := by
  rw [mentionsField, Bool.or_eq_false_iff, decide_eq_false_iff_not] at free
  unfold name
  cases held : step.property with
  | literal text => rfl
  | fieldId => exact absurd held free.1

/-- A step that does not mention the field accepts the same nodes for all fields. -/
theorem accepts_unmentioned : step.accepts field = step.accepts other := by
  have same {filter : Filter} (held : step.filter? = some filter) :
      filter.accepts field = filter.accepts other := by
    rw [mentionsField, held, Bool.or_eq_false_iff, Option.any_some, List.any_eq_false] at free
    funext node
    rw [filter_accepts, filter_accepts, Bool.eq_iff_iff, List.all_eq_true, List.all_eq_true]
    refine forall₂_congr fun condition listed => ?_
    have literal := free.2 condition listed
    cases expected : condition.2 with
    | literal value => rfl
    | fieldId => simp [expected] at literal
  funext node
  cases step with
  | child property nodeType filter many => simp only [accepts, same rfl]
  | navigate property filter => exact congrFun (same rfl) node
  | leaf property => rfl

theorem selected_unmentioned (node : BusinessObject) :
    step.selected field node = step.selected other node := by
  rw [selected, selected, name_unmentioned field other free,
    accepts_unmentioned field other free]

end Unmentioned

/-- A node after an edit of a field has the nodes of all other fields, and they are still listed. -/
structure Spares (step : Step) (field : String) (after before : BusinessObject) : Prop where
  typeTag : after.typeTag = before.typeTag
  listed : before.Listed (step.name field) → after.Listed (step.name field)
  selected : ∀ other, other ≠ field → step.selected other after = step.selected other before

theorem Spares.refl (step : Step) (field : String) (node : BusinessObject) :
    step.Spares field node node :=
  ⟨rfl, id, fun _ _ => rfl⟩

section Changed

variable {before after : List BusinessObject} {child : BusinessObject} (keyed : step.Keyed key)
  (children : node.children (step.name field) = before ++ child :: after)
  (named : child.scalar? key = some (.text field))

include keyed children named

/-- The node of a field may be replaced by another one of the same field. -/
theorem replaceChild_spares {replacement : BusinessObject}
    (still : replacement.scalar? key = some (.text field)) :
    step.Spares field (node.replaceChild (step.name field) before.length replacement) node := by
  refine ⟨BusinessObject.typeTag_replaceChild .., fun listed =>
    BusinessObject.listed_replaceChild listed _ _, fun other different => ?_⟩
  by_cases same : step.name other = step.name field
  · rw [← same] at children ⊢
    exact selected_replaceChild children (keyed.rejects named different)
      (keyed.rejects still different)
  · rw [selected, selected, BusinessObject.children, BusinessObject.children,
      BusinessObject.property?_replaceChild_other same]

theorem dropChild_spares :
    step.Spares field (node.dropChild (step.name field) before.length) node := by
  refine ⟨BusinessObject.typeTag_dropChild .., fun listed =>
    BusinessObject.listed_dropChild listed _, fun other different => ?_⟩
  by_cases same : step.name other = step.name field
  · rw [← same] at children ⊢
    exact selected_dropChild children (keyed.rejects named different)
  · rw [selected, selected, BusinessObject.children, BusinessObject.children,
      BusinessObject.property?_dropChild_other same]

end Changed

/-- A vacant node that its step accepts has no nodes below it. -/
theorem childless_of_vacant (accepted : step.accepts field node = true)
    (vacant : step.isVacant node = true) (name : String) : node.children name = [] := by
  cases free : step.permits field name none with
  | false => exact childless_of_accepts accepted free
  | true => rw [BusinessObject.children, Location.isVacant_property? vacant free]

end Step

namespace Location

variable {registry : TypeRegistry} {field other name key : String} {value : Option Scalar}
  {step : Step} {rest : List Step}

/-- No step goes on at a name that the step before it has a condition on. -/
abbrev Apart (field : String) (steps : List Step) : Prop :=
  steps.IsChain fun step next => step.constrains (next.name field) = false

theorem keeps_apart (apart : Apart field (step :: rest)) (value : Option Scalar) :
    keeps field value step rest = true := by
  cases rest with
  | nil => rfl
  | cons next later =>
      exact Step.permits_unconstrained (List.isChain_cons_cons.mp apart).1 field _

/-- A step accepts a node after any write below it, successful or not, if it keeps the node. -/
theorem accepts_kept {node : BusinessObject} (accepted : step.accepts field node = true)
    (kept : keeps field value step rest = true) :
    step.accepts field (writeSteps registry field name value rest node).1 = true := by
  cases done : (writeSteps registry field name value rest node).2 with
  | error error => rwa [writeSteps_failed registry field name value rest node error done]
  | ok _ =>
      rw [← Bool.not_eq_false]
      intro lost
      rw [keeps_unaccepted accepted done lost] at kept
      cases kept

/-- A step that is not the leaf at the end of a chain has distinct conditions and a chain behind
it. -/
theorem Chain.inner (chain : Chain (step :: rest)) (more : step.isLeaf = false ∨ rest ≠ []) :
    step.isLeaf = false ∧ step.Distinct ∧ Chain rest := by
  cases chain with
  | leaf property => simp [Step.isLeaf] at more
  | step _ _ inner distinct chain => exact ⟨inner, distinct, chain⟩

/-- Below a node without nodes nothing is found. -/
theorem leavesBelow_childless (inner : step.isLeaf = false) (rest : List Step)
    {node : BusinessObject} (childless : node.children (step.name field) = []) :
    leavesBelow field (step :: rest) node = [] := by
  rw [leavesBelow_step field (.inl inner), Step.selected, childless]
  rfl

section Keyed

variable (keyed : step.Keyed key) (apart : Apart field (step :: rest))

include keyed apart

theorem key_apart : ∀ next ∈ rest.head?, key ≠ next.name field := by
  cases rest with
  | nil => simp
  | cons next later =>
      rintro next ⟨⟩ rfl
      have free := (List.isChain_cons_cons.mp apart).1
      rw [keyed.constrains] at free
      cases free

/-- A node keeps the identifier of its field when a value is written below it. -/
theorem scalar?_writeSteps_key (node : BusinessObject) :
    (writeSteps registry field name value rest node).1.scalar? key = node.scalar? key := by
  have other := key_apart keyed apart
  cases rest with
  | nil => rfl
  | cons next later =>
      rw [BusinessObject.scalar?, BusinessObject.scalar?,
        property?_writeSteps_other (other next rfl)]

variable (distinct : step.Distinct) (many : step.isMany = true)

include distinct many

/-- A node that is made for a field has the identifier of the field. -/
theorem createBelow_keyed {value : Scalar} {node created : BusinessObject}
    (done : createBelow registry field name value (step :: rest) node = .ok created) :
    ∃ holder, holder.scalar? key = some (.text field) ∧
      created = node.attach (step.name field) holder true := by
  have other := key_apart keyed apart
  cases step with
  | leaf property => cases many
  | navigate property filter => cases many
  | child property nodeType filter listed =>
      cases many
      obtain ⟨fresh, below, known, inside, same⟩ := createBelow_child done
      obtain ⟨_, ⟨⟩, condition⟩ := keyed
      have once : ((filter.assignments field).map Prod.fst).Nodup := by
        rw [Filter.fst_assignments]
        exact distinct filter rfl
      have named : fresh.property? key = some (.scalar (.text field)) := by
        rw [TypeRegistry.create_known known]
        exact TypeRegistry.property?_assign once
          (List.mem_map_of_mem (f := fun entry => (entry.1, entry.2.resolve field)) condition) _
      refine ⟨below, ?_, same⟩
      cases rest with
      | nil =>
          cases inside
          have kept : (fresh.setBody (some value.display)).property? key = _ := named
          rw [BusinessObject.scalar?, kept]
      | cons next later =>
          rw [BusinessObject.scalar?, property?_createBelow_other (other next rfl) inside, named]

/-- A node that is made for a field in a list joins the nodes of the other fields. -/
theorem createBelow_spares {value : Scalar} {node created : BusinessObject}
    (listed : node.Listed (step.name field))
    (done : createBelow registry field name value (step :: rest) node = .ok created) :
    step.Spares field created node := by
  obtain ⟨holder, named, rfl⟩ := createBelow_keyed keyed apart distinct many done
  refine ⟨BusinessObject.typeTag_attach .., fun _ => BusinessObject.listed_attach holder,
    fun other different => ?_⟩
  by_cases same : step.name other = step.name field
  · rw [← same] at listed ⊢
    exact Step.selected_join listed (keyed.rejects named different)
  · exact selected_congr (BusinessObject.property?_attach_other same holder true)

theorem writeSteps_spares {node : BusinessObject} (listed : node.Listed (step.name field)) :
    step.Spares field (writeSteps registry field name value (step :: rest) node).1 node := by
  cases step.descent field node with
  | leaf leaf =>
      cases step with
      | leaf property => cases many
      | child property nodeType filter listed => cases leaf
      | navigate property filter => cases leaf
  | stuck inner missing =>
      cases value with
      | none =>
          rw [writeSteps_absent registry field name inner rest missing]
          exact .refl step field node
      | some value =>
          rw [writeSteps_missing registry field name inner rest missing]
          split
          · rename_i created made
            exact createBelow_spares keyed apart distinct many listed made
          · exact .refl step field node
  | child inner before child after children found accepted =>
      rw [writeSteps_child registry field name value inner rest found children]
      -- The written node keeps its key, so no other field selects it before or after.
      have named := keyed.named accepted
      refine Step.replaceChild_spares keyed children named ?_
      exact (scalar?_writeSteps_key keyed apart child).trans named

omit apart distinct many

theorem pruneBelow_spares (rest : List Step) (node : BusinessObject) :
    step.Spares field (pruneBelow field (step :: rest) node).1 node := by
  cases step.descent field node with
  | leaf leaf =>
      rw [pruneBelow_leaf field leaf]
      exact .refl step field node
  | stuck inner missing =>
      rw [pruneBelow_missing field inner rest missing]
      exact .refl step field node
  | child inner before child after children found accepted =>
      have named := keyed.named accepted
      rw [pruneBelow_child field inner rest found children]
      split
      · exact Step.dropChild_spares keyed children named
      · have kept : (pruneBelow field rest child).1.scalar? key = child.scalar? key :=
          (pruneBelow_sameScalars rest child).2 key
        exact Step.replaceChild_spares keyed children named (kept.trans named)

end Keyed

/-- The steps lead to a step that lists the nodes of all fields by their identifiers, and no step
before it mentions the field. -/
structure Separates (field key : String) (before : List Step) (step : Step) (rest : List Step) :
    Prop where
  chain : Chain (before ++ step :: rest)
  apart : Apart field (before ++ step :: rest)
  free : ∀ earlier ∈ before, earlier.mentionsField = false
  keyed : step.Keyed key
  many : step.isMany = true

namespace Separates

variable {before : List Step} {first : Step}

theorem inner (separates : Separates field key (first :: before) step rest) :
    first.isLeaf = false :=
  (separates.chain.inner (.inr (by simp))).1

theorem tail (separates : Separates field key (first :: before) step rest) :
    Separates field key before step rest where
  chain := (separates.chain.inner (.inr (by simp))).2.2
  apart := separates.apart.tail
  free := fun earlier listed => separates.free earlier (List.mem_cons_of_mem _ listed)
  keyed := separates.keyed
  many := separates.many

theorem last (separates : Separates field key [] step rest) :
    step.isLeaf = false ∧ step.Distinct := by
  have inner : step.isLeaf = false := by
    have many := separates.many
    cases step with
    | leaf property => cases many
    | child property nodeType filter listed => rfl
    | navigate property filter => rfl
  exact ⟨inner, (separates.chain.inner (.inl inner)).2.1⟩

/-- Below a node without nodes the steps find nothing. -/
theorem childless (separates : Separates field key before step rest) {node : BusinessObject}
    (childless : ∀ name, node.children name = []) :
    leavesBelow other (before ++ step :: rest) node = [] := by
  cases before with
  | nil => exact leavesBelow_childless separates.last.1 rest (childless _)
  | cons first before => exact leavesBelow_childless separates.inner _ (childless _)

variable (different : other ≠ field)

include different

/-- What is made for a field is found for no other field. -/
theorem leavesBelow_createBelow (separates : Separates field key before step rest) {value : Scalar}
    {node created : BusinessObject}
    (missing : ∀ next ∈ (before ++ step :: rest).head?, next.selected other node = [])
    (listed : before = [] → node.Listed (step.name field))
    (done : createBelow registry field name value (before ++ step :: rest) node = .ok created) :
    leavesBelow other (before ++ step :: rest) created = [] := by
  induction before generalizing node created with
  | nil =>
      obtain ⟨inner, distinct⟩ := separates.last
      have spares := createBelow_spares separates.keyed separates.apart distinct separates.many
        (listed rfl) done
      rw [List.nil_append, leavesBelow_step other (.inl inner), spares.selected other different,
        missing step rfl]
      rfl
  | cons first before ih =>
      have free := separates.free first List.mem_cons_self
      cases first with
      | leaf property => cases separates.inner
      | navigate property filter => cases done
      | child property nodeType filter many =>
          obtain ⟨fresh, below, known, inside, same⟩ := createBelow_child done
          have bare (name : String) : fresh.children name = [] := Step.create_children known name
          have nothing : leavesBelow other (before ++ step :: rest) below = [] :=
            ih separates.tail (fun next _ => by rw [Step.selected, bare]; rfl)
              (fun _ => BusinessObject.listed_childless (bare _)) inside
          have attached : (Step.child property nodeType filter many).selected other created = _ :=
            same ▸ Step.name_unmentioned field other free ▸
              Step.selected_attach other _ node below many (missing _ rfl)
          rw [List.cons_append, leavesBelow_step other (.inl rfl), attached, List.filter_cons]
          split
          · rw [List.filter_nil, List.flatMap_singleton, nothing]
          · rfl

/-- A write of a field spares what is found for every other field. -/
theorem leavesBelow_writeSteps (separates : Separates field key before step rest)
    {node : BusinessObject} (listed : node.Everywhere (·.Listed (step.name field))) :
    leavesBelow other (before ++ step :: rest)
        (writeSteps registry field name value (before ++ step :: rest) node).1 =
      leavesBelow other (before ++ step :: rest) node := by
  induction before generalizing node with
  | nil =>
      obtain ⟨inner, distinct⟩ := separates.last
      have spares : step.Spares field
          (writeSteps registry field name value (step :: rest) node).1 node :=
        writeSteps_spares separates.keyed separates.apart distinct separates.many listed.root
      rw [List.nil_append, leavesBelow_step other (.inl inner), leavesBelow_step other (.inl inner),
        spares.selected other different]
  | cons first before ih =>
      have inner := separates.inner
      have free := separates.free first List.mem_cons_self
      rw [List.cons_append]
      cases first.descent field node with
      | leaf leaf => cases inner.symm.trans leaf
      | stuck _ missing =>
          cases value with
          | none => rw [writeSteps_absent registry field name inner _ missing]
          | some value =>
              rw [writeSteps_missing registry field name inner _ missing]
              split
              · rename_i created made
                have none : first.selected other node = [] := by
                  rw [← Step.selected_unmentioned field other free]
                  exact first.findIndex?_none field node missing
                rw [leavesBelow_step other (.inl inner) node, none]
                exact leavesBelow_createBelow different separates
                  (fun next same => by cases same; exact none) (fun same => by cases same) made
              · rfl
      | child _ passed child after children found accepted skips =>
          rw [writeSteps_child registry field name value inner _ found children]
          have present : child ∈ node.children (first.name field) := by simp [children]
          have below := ih separates.tail (listed.children present)
          have still : first.accepts field
              (writeSteps registry field name value (before ++ step :: rest) child).1 = true :=
            accepts_kept accepted (keeps_apart separates.apart value)
          have selected := first.selected_child field _
            (first.children_replaceFirst field node children
              (writeSteps registry field name value (before ++ step :: rest) child).1) skips
          rw [leavesBelow_step other (.inl inner), leavesBelow_step other (.inl inner),
            ← Step.selected_unmentioned field other free, selected,
            ← Step.selected_unmentioned field other free,
            first.selected_child field node children skips, List.filter_cons_of_pos still,
            List.filter_cons_of_pos accepted, List.flatMap_cons, List.flatMap_cons, below]

/-- A prune for a field spares what is found for every other field. -/
theorem leavesBelow_pruneBelow (separates : Separates field key before step rest)
    (node : BusinessObject) :
    leavesBelow other (before ++ step :: rest)
        (pruneBelow field (before ++ step :: rest) node).1 =
      leavesBelow other (before ++ step :: rest) node := by
  induction before generalizing node with
  | nil =>
      obtain ⟨inner, _⟩ := separates.last
      have spares : step.Spares field (pruneBelow field (step :: rest) node).1 node :=
        pruneBelow_spares separates.keyed rest node
      rw [List.nil_append, leavesBelow_step other (.inl inner), leavesBelow_step other (.inl inner),
        spares.selected other different]
  | cons first before ih =>
      have inner := separates.inner
      have free := separates.free first List.mem_cons_self
      rw [List.cons_append]
      cases first.descent field node with
      | leaf leaf => cases inner.symm.trans leaf
      | stuck _ missing => rw [pruneBelow_missing field inner _ missing]
      | child _ passed child after children found accepted skips =>
          have below := ih separates.tail child
          have still : first.accepts field
              (pruneBelow field (before ++ step :: rest) child).1 = true := by
            rw [Step.accepts_same (pruneBelow_sameScalars _ child), accepted]
          rw [pruneBelow_child field inner _ found children,
            leavesBelow_step other (.inl inner) node, ← Step.selected_unmentioned field other free,
            first.selected_child field node children skips, List.filter_cons_of_pos accepted,
            List.flatMap_cons]
          split
          · -- A vacant node on the way has no nodes of other fields below it.
            rename_i cleared
            rw [Bool.and_eq_true] at cleared
            have nothing : leavesBelow other (before ++ step :: rest) child = [] :=
              below ▸ separates.tail.childless (Step.childless_of_vacant still cleared.2)
            rw [leavesBelow_step other (.inl inner), ← Step.selected_unmentioned field other free,
              first.selected_dropFirst field node children skips, nothing, List.nil_append]
          · have selected := first.selected_child field _
              (first.children_replaceFirst field node children
                (pruneBelow field (before ++ step :: rest) child).1) skips
            rw [leavesBelow_step other (.inl inner), ← Step.selected_unmentioned field other free,
              selected, List.filter_cons_of_pos still, List.flatMap_cons, below]

end Separates

end Location

namespace LocationTable

open Location (SelfSelecting noteSteps noteLocation notedTask compile_noteSteps
  noteLocation_selecting)

/-- A write of one field through a self-selecting location, successful or not, and a prune for it
change nothing that a read finds for another field, if a step lists the nodes by the identifier of
the field, no step before it mentions the field, and no node holds a single node where the step
looks for its list. -/
theorem read_other_field (declared : Dictionary String (List StepDeclaration)) (name : String)
    (location : Location) (known : (compile declared).1.find? name = some location)
    (field other : String) (different : other ≠ field)
    (selecting : SelfSelecting field location.steps) (before after : List Step)
    (property : PropertyName) (nodeType : String) (filter : Filter)
    (steps : location.steps = before ++ .child property nodeType filter true :: after)
    (key : String) (keyed : (key, Expected.fieldId) ∈ filter.conditions)
    (free : ∀ earlier ∈ before, earlier.mentionsField = false) (registry : TypeRegistry)
    (value : Option Scalar) (node : BusinessObject)
    (listed : node.Everywhere (·.Listed (property.resolve field))) :
    let table := (compile declared).1
    table.read (table.write registry node field name value).1 other name =
        table.read node other name ∧
      ∀ tree, table.read (table.prune tree field name).1 other name =
        table.read tree other name := by
  obtain ⟨nonempty, chain⟩ := compile_compiled declared name location known
  have separates : Location.Separates field key before
      (.child property nodeType filter true) after :=
    ⟨steps ▸ chain, steps ▸ selecting.apart, free, ⟨filter, rfl, keyed⟩, rfl⟩
  refine ⟨?_, fun tree => ?_⟩
  · rw [read_known known nonempty, read_known known nonempty, write_known known, steps,
      separates.leavesBelow_writeSteps different listed]
  · rw [read_known known nonempty, read_known known nonempty, prune_known known, steps,
      separates.leavesBelow_pruneBelow different]

/-- The notes of a task are listed below its detail node. -/
theorem listed_notedTask (notes : List (String × String)) :
    (notedTask notes).Everywhere (·.Listed "notes") := by
  refine .of_nodes (fun _ held => nomatch held) fun entry inside detail held => ?_
  cases List.mem_singleton.mp inside
  cases List.mem_singleton.mp held
  refine .of_nodes (fun _ held => nomatch held) fun entry inside note held => ?_
  cases List.mem_singleton.mp inside
  obtain ⟨⟨author, text⟩, _, rfl⟩ := List.mem_map.mp held
  refine .of_nodes (fun _ held => nomatch held) fun entry inside child held => ?_
  rcases List.mem_cons.mp inside with rfl | inside
  · cases held
  · cases List.mem_singleton.mp inside
    cases held

/-- The note of another author is read as before when an own one is added, cleared and pruned. -/
theorem read_other_field_notes :
    let table := (compile (.ofList [("note", noteSteps)])).1
    let added := (table.write TypeRegistry.permissive (notedTask [("you", "b")]) "me" "note"
      (some (.text "a"))).1
    let cleared := (table.write TypeRegistry.permissive added "me" "note" none).1
    let pruned := (table.prune cleared "me" "note").1
    added = notedTask [("you", "b"), ("me", "a")] ∧ pruned = notedTask [("you", "b")] ∧
      table.read added "you" "note" = some (.text "b") ∧
      table.read pruned "you" "note" = some (.text "b") := by
  intro table added cleared pruned
  have steps : noteLocation.steps = [.child (.literal "detail") "Detail" .none false] ++
      .child (.literal "notes") "Note" ⟨[("by", .fieldId)]⟩ true :: [.leaf (.literal "text")] := rfl
  have spares (value : Option Scalar) (notes : List (String × String)) :=
    read_other_field _ "note" noteLocation compile_noteSteps "me" "you" (by decide)
      noteLocation_selecting _ _ _ _ _ steps "by" (by decide) (by decide) .permissive value _
      (listed_notedTask notes)
  obtain ⟨written, _⟩ := spares (some (.text "a")) [("you", "b")]
  obtain ⟨erased, spared⟩ := spares none [("you", "b"), ("me", "a")]
  exact ⟨rfl, rfl, written.trans rfl, (spared cleared).trans (erased.trans rfl)⟩

end LocationTable

end PropertyPanel
