/-
This file proves that a change to a node brings no property names into its tree but its own ones.
-/

import PropertyPanel.Proofs.BusinessObject

namespace PropertyPanel

/-- The nodes that a property holds. -/
def Property.nodes : Property → List BusinessObject
  | scalar _ => []
  | single child => [child]
  | sequence children => children

namespace BusinessObject

/-- The properties of the node and of all nodes below it have allowed names, and no node has two
properties of one name. -/
inductive Named (allowed : String → Prop) : BusinessObject → Prop where
  | intro {object : BusinessObject} (distinct : object.names.Nodup)
      (names : ∀ name ∈ object.names, allowed name)
      (nodes : ∀ entry ∈ object.properties, ∀ child ∈ entry.2.nodes, Named allowed child) :
      Named allowed object

/-- No node of the tree has two properties of one name. -/
def Distinct (object : BusinessObject) : Prop := object.Named fun _ => True

/-- The tree of an object consists of the object and of the trees of the nodes that it holds. -/
inductive Inside (node : BusinessObject) : BusinessObject → Prop where
  | self : Inside node node
  | deeper {object child : BusinessObject} {entry : String × Property}
      (listed : entry ∈ object.properties) (held : child ∈ entry.2.nodes)
      (inside : Inside node child) : Inside node object

theorem mem_nodes_of_mem_children {object : BusinessObject} {name : String}
    {child : BusinessObject} (inside : child ∈ object.children name) :
    ∃ value, (name, value) ∈ object.properties ∧ child ∈ value.nodes := by
  cases held : object.property? name with
  | none => simp [children, held] at inside
  | some value =>
      obtain ⟨before, after, listed, _⟩ := List.lookup_eq_some_iff.mp held
      refine ⟨value, by simp [listed], ?_⟩
      cases value with
      | scalar value => simp [children, held] at inside
      | single first => simpa [children, held, Property.nodes] using inside
      | sequence nodes => simpa [children, held, Property.nodes] using inside

namespace Named

variable {allowed : String → Prop} {object : BusinessObject}

theorem distinct (named : object.Named allowed) : object.names.Nodup := by
  cases named
  assumption

theorem names (named : object.Named allowed) : ∀ name ∈ object.names, allowed name := by
  cases named
  assumption

theorem nodes (named : object.Named allowed) :
    ∀ entry ∈ object.properties, ∀ child ∈ entry.2.nodes, child.Named allowed := by
  cases named
  assumption

theorem children (named : object.Named allowed) {name : String} {child : BusinessObject}
    (inside : child ∈ object.children name) : child.Named allowed := by
  obtain ⟨value, listed, held⟩ := mem_nodes_of_mem_children inside
  exact named.nodes _ listed child held

/-- A name under which there are nodes is a name of the node above them. -/
theorem allowed_children (named : object.Named allowed) {name : String} {child : BusinessObject}
    (inside : child ∈ object.children name) : allowed name := by
  obtain ⟨value, listed, _⟩ := mem_nodes_of_mem_children inside
  exact named.names name (List.mem_map_of_mem (f := Prod.fst) listed)

/-- The type and the body of a node are none of its names. -/
theorem of_properties {first second : BusinessObject} (same : first.properties = second.properties)
    (named : first.Named allowed) : second.Named allowed :=
  ⟨by simpa only [BusinessObject.names, ← same] using named.distinct,
    by simpa only [BusinessObject.names, ← same] using named.names,
    by simpa only [← same] using named.nodes⟩

/-- The names in a tree without repeated ones are allowed if those of each of its nodes are. -/
theorem of_inside {known : String → Prop} (distinct : object.Named known)
    (permitted : ∀ node : BusinessObject, node.Inside object → ∀ name ∈ node.names, allowed name) :
    object.Named allowed := by
  induction distinct with
  | intro distinct _ _ ih =>
      refine ⟨distinct, permitted _ .self, fun entry listed child held => ?_⟩
      exact ih entry listed child held fun node inside => permitted node (.deeper listed held inside)

theorem inside {node : BusinessObject} (named : object.Named allowed)
    (inside : node.Inside object) : node.Named allowed := by
  induction inside with
  | self => exact named
  | deeper listed held _ ih => exact ih (named.nodes _ listed _ held)

theorem empty (typeTag : String) : (BusinessObject.empty typeTag).Named allowed :=
  ⟨.nil, by simp [BusinessObject.names, BusinessObject.empty], by simp [BusinessObject.empty]⟩

theorem setProperty (named : object.Named allowed) {name : String} (permitted : allowed name)
    {value : Property} (nodes : ∀ child ∈ value.nodes, child.Named allowed) :
    (object.setProperty name value).Named allowed := by
  refine ⟨Entries.putDistinct name value named.distinct, fun other listed => ?_,
    fun entry listed => ?_⟩
  · obtain ⟨entry, inside, same⟩ := List.mem_map.mp listed
    cases Entries.mem_put inside with
    | inl new => exact same ▸ new ▸ permitted
    | inr old => exact named.names other (same ▸ List.mem_map_of_mem old)
  · cases Entries.mem_put listed with
    | inl new => exact new ▸ nodes
    | inr old => exact named.nodes entry old

theorem removeProperty (named : object.Named allowed) (name : String) :
    (object.removeProperty name).Named allowed := by
  refine ⟨Entries.filterDistinct _ named.distinct, fun other listed => ?_, fun entry listed => ?_⟩
  · obtain ⟨entry, inside, same⟩ := List.mem_map.mp listed
    exact named.names other (same ▸ List.mem_map_of_mem (List.mem_filter.mp inside).1)
  · exact named.nodes entry (List.mem_filter.mp listed).1

/-- A clearing needs no name, and a scalar needs its own one. -/
theorem setScalar (named : object.Named allowed) {name : String} {value : Option Scalar}
    (permitted : value.isSome = true → allowed name) :
    (object.setScalar name value).Named allowed := by
  cases value with
  | none => exact named.removeProperty name
  | some value => exact named.setProperty (permitted rfl) (by simp [Property.nodes])

theorem setBody (named : object.Named allowed) (body : Option String) :
    (object.setBody body).Named allowed :=
  @of_properties _ object _ rfl named

theorem attach (named : object.Named allowed) {name : String} (permitted : allowed name)
    {child : BusinessObject} (below : child.Named allowed) (many : Bool) :
    (object.attach name child many).Named allowed := by
  have alone : ∀ other ∈ [child], other.Named allowed := by simpa using below
  unfold BusinessObject.attach
  split
  · split
    · rename_i nodes held
      refine named.setProperty permitted fun other inside => ?_
      cases List.mem_append.mp inside with
      | inl old =>
          have listed : other ∈ object.children name := by
            simpa [BusinessObject.children, held] using old
          exact named.children listed
      | inr new => exact alone other new
    · exact named.setProperty permitted alone
  · exact named.setProperty permitted alone

theorem replaceChild (named : object.Named allowed) {name : String} {index : Nat}
    {old child : BusinessObject} (present : (object.children name)[index]? = some old)
    (below : child.Named allowed) : (object.replaceChild name index child).Named allowed := by
  have permitted := named.allowed_children (List.mem_of_getElem? present)
  unfold BusinessObject.replaceChild
  split
  · split
    · exact named.setProperty permitted (by simpa [Property.nodes] using below)
    · exact named
  · rename_i nodes held
    refine named.setProperty permitted fun other inside => ?_
    cases List.mem_or_eq_of_mem_set inside with
    | inl old =>
        have listed : other ∈ object.children name := by
          simpa [BusinessObject.children, held] using old
        exact named.children listed
    | inr new => exact new ▸ below
  · exact named

theorem dropChild (named : object.Named allowed) {name : String} {index : Nat}
    {old : BusinessObject} (present : (object.children name)[index]? = some old) :
    (object.dropChild name index).Named allowed := by
  rcases object.dropChild_cases name index with ⟨_, same⟩ | ⟨_, removed⟩ | shorter
  · rw [same]
    exact named
  · rw [removed]
    exact named.removeProperty name
  · rw [shorter]
    have permitted := named.allowed_children (List.mem_of_getElem? present)
    exact named.setProperty permitted fun other inside =>
      named.children (List.mem_of_mem_eraseIdx inside)

end Named

end BusinessObject

end PropertyPanel
