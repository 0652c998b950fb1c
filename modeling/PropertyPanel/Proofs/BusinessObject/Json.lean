/-
This file proves that a business object is read back from the JSON value that is written for it
exactly if no property in its tree has the name of the type or of the body.
-/

import PropertyPanel.BusinessObject.Json
import PropertyPanel.Proofs.BusinessObject.Names
import PropertyPanel.Proofs.Json.Reader
import PropertyPanel.Proofs.Outcome

namespace PropertyPanel.BusinessObject

/-- The member of a property is not taken for the type or the body of its node. -/
def Unreserved (name : String) : Prop := name ≠ typeName ∧ name ≠ bodyName

instance (name : String) : Decidable (Unreserved name) :=
  inferInstanceAs (Decidable (_ ∧ _))

/-- The properties that have been read so far fit into a node. -/
def Parts.Named (parts : Parts) : Prop :=
  (BusinessObject.mk "" parts.properties none).Named Unreserved

section Reading

theorem Parts.named_empty : Parts.empty.Named := Named.empty ""

theorem named_build {parts : Parts} (named : parts.Named) {object : BusinessObject}
    (built : parts.build = .ok object) : object.Named Unreserved := by
  unfold Parts.build at built
  split at built
  · cases built
    exact @Named.of_properties _ ⟨"", parts.properties, none⟩ _ rfl named
  · cases built

mutual

/-- What is read from members has names that the written node can keep. -/
theorem named_ofMembers (members : List (String × Json)) {parts read : Parts}
    (named : parts.Named) (done : ofMembers parts members = .ok read) : read.Named := by
  match members with
  | [] =>
      cases done
      exact named
  | (name, value) :: rest =>
      rw [ofMembers] at done
      split at done
      · refine named_ofMembers rest ?_ done
        exact named
      · split at done
        · refine named_ofMembers rest ?_ done
          exact named
        · rename_i untyped bodiless
          split at done
          · rename_i property known
            refine named_ofMembers rest ?_ done
            cases property with
            | none => exact named
            | some property =>
                exact Named.setProperty named ⟨untyped, bodiless⟩
                  (named_propertyOf name value known)
          · cases done

theorem named_propertyOf (name : String) (value : Json) {property : Property}
    (done : propertyOf name value = .ok (some property)) :
    ∀ child ∈ property.nodes, child.Named Unreserved := by
  match value with
  | .null => cases done
  | .flag _ | .number _ | .text _ =>
      cases done
      simp [Property.nodes]
  | .list items =>
      rw [propertyOf] at done
      split at done
      · rename_i children known
        cases done
        exact named_childrenOf name items known
      · cases done
  | .object members =>
      rw [propertyOf] at done
      split at done
      · rename_i parts known
        obtain ⟨child, built, same⟩ := Outcome.map_ok done
        cases same
        have below := named_build (named_ofMembers members Parts.named_empty known) built
        simpa [Property.nodes] using below
      · cases done

theorem named_childrenOf (name : String) (items : List Json) {children : List BusinessObject}
    (done : childrenOf name items = .ok children) :
    ∀ child ∈ children, child.Named Unreserved := by
  match items with
  | [] =>
      cases done
      simp
  | .object members :: rest =>
      rw [childrenOf] at done
      split at done
      · rename_i parts known
        split at done
        · rename_i child built
          obtain ⟨others, later, same⟩ := Outcome.map_ok done
          cases same
          have first := named_build (named_ofMembers members Parts.named_empty known) built
          exact List.forall_mem_cons.mpr ⟨first, named_childrenOf name rest later⟩
        · cases done
      · cases done
  | .null :: _ | .flag _ :: _ | .number _ :: _ | .text _ :: _ | .list _ :: _ => cases done

end

/-- No property of an object that is read has the name of the type or of the body. -/
theorem named_ofJson {value : Json} {object : BusinessObject} (done : ofJson value = .ok object) :
    object.Named Unreserved := by
  cases value with
  | object members =>
      rw [ofJson] at done
      split at done
      · rename_i parts known
        exact named_build (named_ofMembers members Parts.named_empty known) done
      · cases done
  | null | flag _ | number _ | text _ | list _ => cases done

end Reading

section Writing

/-- A node of which the properties have names of their own is written part by part. -/
theorem membersOf_named {typeTag : String} {properties : List (String × Json)}
    {body : Option String} (distinct : (properties.map Prod.fst).Nodup)
    (unreserved : ∀ name ∈ properties.map Prod.fst, Unreserved name) :
    membersOf typeTag properties body =
      (typeName, .text typeTag) :: properties ++
        (body.map fun body => (bodyName, Json.text body)).toList := by
  have untyped : typeName ∉ properties.map Prod.fst := fun listed =>
    (unreserved typeName listed).1 rfl
  have bodiless : bodyName ∉ ((typeName, Json.text typeTag) :: properties).map Prod.fst := by
    rw [List.map_cons, List.mem_cons, not_or]
    have apart : bodyName ≠ typeName := by decide
    exact ⟨apart, fun listed => (unreserved bodyName listed).2 rfl⟩
  have whole : (([(typeName, Json.text typeTag)] ++ properties).map Prod.fst).Nodup :=
    List.nodup_cons.mpr ⟨untyped, distinct⟩
  have members := Entries.foldl_put whole
  cases body with
  | none => simp [membersOf, members]
  | some body =>
      have added := Entries.put_fresh bodiless (Json.text body)
      simp [membersOf, members, added]

theorem fst_propertiesToJson (properties : List (String × Property)) :
    (propertiesToJson properties).map Prod.fst = properties.map Prod.fst := by
  induction properties with
  | nil => rfl
  | cons entry rest ih => exact congrArg (entry.1 :: ·) ih

theorem propertyOf_scalar (name : String) (value : Scalar) :
    propertyOf name value.toJson = .ok (some (.scalar value)) := by
  cases value with
  | flag value => rfl
  | text value => rfl
  | integer value => simp [Scalar.toJson, Json.ofInt, propertyOf, Scalar.ofNumber,
      Integer.ofInt?_toInt]

/-- The reading of properties ends where the properties end. -/
theorem ofMembers_body (typeTag : String) (properties : List (String × Property))
    (body : Option String) :
    ofMembers ⟨some typeTag, properties, none⟩
        (body.map fun body => (bodyName, Json.text body)).toList =
      .ok ⟨some typeTag, properties, body⟩ := by
  cases body with
  | none => rfl
  | some body => rfl

/-- A node is read as a property in the way that it is read alone. -/
theorem propertyOf_members (name : String) (members : List (String × Json)) :
    propertyOf name (.object members) =
      (ofJson (.object members)).map fun child => some (.single child) := by
  rw [propertyOf, ofJson]
  split <;> rfl

/-- A node is read as an item of a sequence in the way that it is read alone. -/
theorem childrenOf_members (name : String) (members : List (String × Json)) (rest : List Json) :
    childrenOf name (.object members :: rest) =
      (ofJson (.object members)).bind fun child =>
        (childrenOf name rest).map fun children => child :: children := by
  rw [childrenOf, ofJson]
  split
  · split
    · rename_i built
      rw [built]
      rfl
    · rename_i built
      rw [built]
      rfl
  · rfl

theorem toJson_members (object : BusinessObject) : ∃ members, object.toJson = .object members := by
  cases object
  exact ⟨_, toJson.eq_1 _ _ _⟩

mutual

/-- An object whose names can be kept is read back from its JSON value. -/
theorem ofJson_toJson (object : BusinessObject) (named : object.Named Unreserved) :
    ofJson object.toJson = .ok object := by
  match object with
  | ⟨typeTag, properties, body⟩ =>
      have distinct : (properties.map Prod.fst).Nodup := named.distinct
      have read := ofMembers_toJson properties named.names named.nodes (some typeTag) []
        (by simpa using distinct) (body.map fun body => (bodyName, Json.text body)).toList
      rw [toJson, membersOf_named (by rwa [fst_propertiesToJson])
        (by rw [fst_propertiesToJson]; exact named.names), ofJson, List.cons_append, ofMembers,
        if_pos rfl]
      change (match ofMembers ⟨some typeTag, [], none⟩ _ with
        | .ok parts => parts.build
        | .error error => .error error) = _
      rw [read, ofMembers_body]
      rfl

theorem ofMembers_toJson (properties : List (String × Property))
    (unreserved : ∀ name ∈ properties.map Prod.fst, Unreserved name)
    (nodes : ∀ entry ∈ properties, ∀ child ∈ entry.2.nodes, child.Named Unreserved)
    (typeTag : Option String) (known : List (String × Property))
    (distinct : ((known ++ properties).map Prod.fst).Nodup) (rest : List (String × Json)) :
    ofMembers ⟨typeTag, known, none⟩ (propertiesToJson properties ++ rest) =
      ofMembers ⟨typeTag, known ++ properties, none⟩ rest := by
  match properties with
  | [] => simp [propertiesToJson]
  | (name, value) :: others =>
      have free := unreserved name List.mem_cons_self
      have fresh : name ∉ known.map Prod.fst := fun listed => by
        rw [List.map_append, List.nodup_append] at distinct
        exact distinct.2.2 name listed name List.mem_cons_self rfl
      have read := propertyOf_toJson name value (nodes _ List.mem_cons_self)
      have later := ofMembers_toJson others
        (fun other listed => unreserved other (List.mem_cons_of_mem _ listed))
        (fun entry listed => nodes entry (List.mem_cons_of_mem _ listed)) typeTag
        (known ++ [(name, value)]) (by simpa using distinct) rest
      rw [propertiesToJson, List.cons_append, ofMembers, if_neg free.1, if_neg free.2, read]
      change ofMembers ⟨typeTag, Entries.put name value known, none⟩ _ = _
      rw [Entries.put_fresh fresh, later, List.append_assoc, List.singleton_append]

theorem propertyOf_toJson (name : String) (value : Property)
    (nodes : ∀ child ∈ value.nodes, child.Named Unreserved) :
    propertyOf name (propertyToJson value) = .ok (some value) := by
  match value with
  | .scalar value => exact propertyOf_scalar name value
  | .single child =>
      have read := ofJson_toJson child (nodes child (List.mem_singleton.mpr rfl))
      obtain ⟨members, written⟩ := child.toJson_members
      rw [propertyToJson, written, propertyOf_members, ← written, read]
      rfl
  | .sequence children =>
      rw [propertyToJson, propertyOf, childrenOf_toJson name children nodes]

theorem childrenOf_toJson (name : String) (children : List BusinessObject)
    (nodes : ∀ child ∈ children, child.Named Unreserved) :
    childrenOf name (childrenToJson children) = .ok children := by
  match children with
  | [] => rfl
  | child :: others =>
      have read := ofJson_toJson child (nodes child List.mem_cons_self)
      have later := childrenOf_toJson name others
        (fun other inside => nodes other (List.mem_cons_of_mem _ inside))
      obtain ⟨members, written⟩ := child.toJson_members
      rw [childrenToJson, written, childrenOf_members, ← written, read, later]
      rfl

end

/-- An object is read back from its JSON value exactly if its names can be kept. -/
theorem ofJson_toJson_iff (object : BusinessObject) :
    ofJson object.toJson = .ok object ↔ object.Named Unreserved :=
  ⟨named_ofJson, ofJson_toJson object⟩

/-- An object without repeated names is read back as it was, with the order of all its properties,
exactly if no property in its tree has the name of the type or of the body. -/
theorem read_back_iff (object : BusinessObject) (distinct : object.Distinct) :
    ofJson object.toJson = .ok object ↔
      ∀ node : BusinessObject, node.Inside object →
        typeName ∉ node.names ∧ bodyName ∉ node.names := by
  rw [ofJson_toJson_iff]
  constructor
  · intro named node inside
    have free := (named.inside inside).names
    exact ⟨fun listed => (free typeName listed).1 rfl, fun listed => (free bodyName listed).2 rfl⟩
  · intro free
    refine Named.of_inside distinct fun node inside name listed => ⟨?_, ?_⟩
    · rintro rfl
      exact (free node inside).1 listed
    · rintro rfl
      exact (free node inside).2 listed

/-- A task is not read back if one of its notes has a property with the name of the body. -/
theorem read_back_iff_note :
    let note := (empty "Note").setScalar bodyName (some (.text "a"))
    let task := (empty "Task").setProperty "notes" (.sequence [empty "Note", note])
    task.Distinct ∧ ofJson task.toJson ≠ .ok task := by
  intro note task
  have distinct : task.Distinct :=
    (Named.empty "Task").setProperty trivial (List.forall_mem_cons.mpr
      ⟨Named.empty "Note", List.forall_mem_singleton.mpr
        ((Named.empty "Note").setScalar fun _ => trivial)⟩)
  refine ⟨distinct, fun read => ?_⟩
  have listed : ("notes", Property.sequence [empty "Note", note]) ∈ task.properties :=
    List.mem_singleton.mpr rfl
  have inside : note.Inside task :=
    .deeper listed (List.mem_cons_of_mem _ List.mem_cons_self) .self
  have free := (read_back_iff task distinct).mp read note inside
  exact free.2 (by decide)

/-- The members of a node are those of its properties and texts. -/
theorem mem_membersOf {typeTag : String} {properties : List (String × Json)}
    {body : Option String} {member : String × Json}
    (listed : member ∈ membersOf typeTag properties body) :
    member ∈ properties ∨ ∃ text, member.2 = .text text := by
  have gathered (inside : member ∈ properties.foldl
      (fun known entry => Entries.put entry.1 entry.2 known) [(typeName, .text typeTag)]) :
      member ∈ properties ∨ ∃ text, member.2 = .text text := by
    cases Entries.mem_foldl_put inside with
    | inl typed => exact .inr ⟨typeTag, congrArg Prod.snd (List.mem_singleton.mp typed)⟩
    | inr property => exact .inl property
  cases body with
  | none => exact gathered listed
  | some body =>
      cases Entries.mem_put listed with
      | inl text => exact .inr ⟨body, congrArg Prod.snd text⟩
      | inr inside => exact gathered inside

theorem distinct_membersOf (typeTag : String) (properties : List (String × Json))
    (body : Option String) : ((membersOf typeTag properties body).map Prod.fst).Nodup := by
  have typed : ([(typeName, Json.text typeTag)].map Prod.fst).Nodup :=
    List.nodup_cons.mpr ⟨List.not_mem_nil, .nil⟩
  have gathered := Entries.distinct_foldl_put typed properties
  cases body with
  | none => exact gathered
  | some body => exact Entries.putDistinct bodyName (.text body) gathered

theorem integral_scalar (value : Scalar) : value.toJson.Integral := by
  cases value with
  | flag value => trivial
  | text value => trivial
  | integer value =>
      exact ⟨value.le_toInt, Int.lt_trans value.toInt_lt (by decide)⟩

theorem distinct_scalar (value : Scalar) : value.toJson.Distinct := by
  cases value <;> trivial

mutual

/-- The JSON value of an object has integers of 64 bits and members with names of their own. -/
theorem readable_toJson (object : BusinessObject) :
    object.toJson.Integral ∧ object.toJson.Distinct := by
  match object with
  | ⟨typeTag, properties, body⟩ =>
      have inner := readable_propertiesToJson properties
      have outer (member : String × Json)
          (listed : member ∈ membersOf typeTag (propertiesToJson properties) body) :
          member.2.Integral ∧ member.2.Distinct := by
        cases mem_membersOf listed with
        | inl property => exact inner member property
        | inr written =>
            obtain ⟨text, same⟩ := written
            rw [same]
            exact ⟨trivial, trivial⟩
      rw [toJson]
      exact ⟨Json.integralMembers_iff.mpr fun member listed => (outer member listed).1,
        distinct_membersOf typeTag (propertiesToJson properties) body,
        Json.distinctMembers_iff.mpr fun member listed => (outer member listed).2⟩

theorem readable_propertiesToJson (properties : List (String × Property)) :
    ∀ member ∈ propertiesToJson properties, member.2.Integral ∧ member.2.Distinct := by
  match properties with
  | [] => simp [propertiesToJson]
  | (name, value) :: rest =>
      exact List.forall_mem_cons.mpr ⟨readable_propertyToJson value,
        readable_propertiesToJson rest⟩

theorem readable_propertyToJson (value : Property) :
    (propertyToJson value).Integral ∧ (propertyToJson value).Distinct := by
  match value with
  | .scalar value => exact ⟨integral_scalar value, distinct_scalar value⟩
  | .single child => exact readable_toJson child
  | .sequence children =>
      have inner := readable_childrenToJson children
      exact ⟨Json.integralItems_iff.mpr fun item listed => (inner item listed).1,
        Json.distinctItems_iff.mpr fun item listed => (inner item listed).2⟩

theorem readable_childrenToJson (children : List BusinessObject) :
    ∀ item ∈ childrenToJson children, item.Integral ∧ item.Distinct := by
  match children with
  | [] => simp [childrenToJson]
  | child :: rest =>
      exact List.forall_mem_cons.mpr ⟨readable_toJson child, readable_childrenToJson rest⟩

end

end Writing

end PropertyPanel.BusinessObject
