/-
This file proves which JSON values are read as business objects, with which error any other value is
rejected, and what is written for an object that has been read.
-/

import PropertyPanel.Proofs.BusinessObject.Json

namespace PropertyPanel.BusinessObject

/-- The text of a member, if there is one. -/
def memberText? (name : String) (members : List (String × Json)) : Option String :=
  (members.lookup name).bind Json.text?

section Acceptance

mutual

/-- An object is accepted if its type is a text and each of its other members but the body is
accepted as a property. -/
inductive Accepted : Json → Prop where
  | object {members : List (String × Json)}
      (typed : ∃ typeTag, members.lookup typeName = some (.text typeTag))
      (properties : ∀ member ∈ members, Unreserved member.1 → AcceptedProperty member.2) :
      Accepted (.object members)

/-- A property holds nothing, a leaf, an accepted object or a list of accepted objects. -/
inductive AcceptedProperty : Json → Prop where
  | null : AcceptedProperty .null
  | flag (value : Bool) : AcceptedProperty (.flag value)
  | number (value : Json.Number) : AcceptedProperty (.number value)
  | text (value : String) : AcceptedProperty (.text value)
  | single {value : Json} (accepted : Accepted value) : AcceptedProperty value
  | sequence {items : List Json} (accepted : ∀ item ∈ items, Accepted item) :
      AcceptedProperty (.list items)

end

/-- An object without a type is at fault. -/
def typeFaults (members : List (String × Json)) : List ReadError :=
  if (memberText? typeName members).isSome then [] else [.missingType]

mutual

/-- The faults of the properties among the members, in the order of the document. -/
def memberFaults : List (String × Json) → List ReadError
  | [] => []
  | (name, value) :: rest =>
      (if Unreserved name then propertyFaults name value else []) ++ memberFaults rest

/-- The fault of an object itself comes after those of its properties. -/
def propertyFaults (name : String) : Json → List ReadError
  | .list items => itemFaults name items
  | .object members => memberFaults members ++ typeFaults members
  | _ => []

/-- Each item that is no object is at fault. -/
def itemFaults (name : String) : List Json → List ReadError
  | [] => []
  | .object members :: rest => memberFaults members ++ typeFaults members ++ itemFaults name rest
  | item :: rest => .unsupportedValue name item.kind :: itemFaults name rest

end

/-- All faults of a value that is to be read as an object. -/
def faults : Json → List ReadError
  | .object members => memberFaults members ++ typeFaults members
  | value => [.notAnObject value.kind]

theorem typeFaults_none {members : List (String × Json)} :
    typeFaults members = [] ↔ ∃ typeTag, members.lookup typeName = some (.text typeTag) := by
  rw [typeFaults, memberText?]
  cases members.lookup typeName with
  | none => simp
  | some value => cases value <;> simp [Json.text?]

theorem accepted_object {members : List (String × Json)} :
    Accepted (.object members) ↔
      (∀ member ∈ members, Unreserved member.1 → AcceptedProperty member.2) ∧
        ∃ typeTag, members.lookup typeName = some (.text typeTag) := by
  constructor
  · rintro ⟨typed, properties⟩
    exact ⟨properties, typed⟩
  · rintro ⟨properties, typed⟩
    exact .object typed properties

mutual

/-- The members without faults are those that are accepted. -/
theorem memberFaults_none (members : List (String × Json)) :
    memberFaults members = [] ↔
      ∀ member ∈ members, Unreserved member.1 → AcceptedProperty member.2 := by
  match members with
  | [] => simp [memberFaults]
  | (name, value) :: rest =>
      have first := propertyFaults_none name value
      have later := memberFaults_none rest
      rw [memberFaults, List.append_eq_nil_iff, later, List.forall_mem_cons]
      refine and_congr_left' ?_
      split
      · rename_i free
        rw [first]
        exact ⟨fun accepted _ => accepted, fun accepted => accepted free⟩
      · rename_i reserved
        exact ⟨fun _ free => absurd free reserved, fun _ => rfl⟩

theorem propertyFaults_none (name : String) (value : Json) :
    propertyFaults name value = [] ↔ AcceptedProperty value := by
  match value with
  | .null => exact ⟨fun _ => .null, fun _ => rfl⟩
  | .flag value => exact ⟨fun _ => .flag value, fun _ => rfl⟩
  | .number value => exact ⟨fun _ => .number value, fun _ => rfl⟩
  | .text value => exact ⟨fun _ => .text value, fun _ => rfl⟩
  | .list items =>
      rw [propertyFaults, itemFaults_none name items]
      constructor
      · exact .sequence
      · intro accepted
        cases accepted with
        | single accepted => cases accepted
        | sequence accepted => exact accepted
  | .object members =>
      rw [propertyFaults, List.append_eq_nil_iff, memberFaults_none members, typeFaults_none,
        ← accepted_object]
      constructor
      · exact .single
      · intro accepted
        cases accepted with
        | single accepted => exact accepted

theorem itemFaults_none (name : String) (items : List Json) :
    itemFaults name items = [] ↔ ∀ item ∈ items, Accepted item := by
  match items with
  | [] => simp [itemFaults]
  | .object members :: rest =>
      rw [itemFaults, List.append_eq_nil_iff, List.append_eq_nil_iff, memberFaults_none members,
        typeFaults_none, ← accepted_object, itemFaults_none name rest, List.forall_mem_cons]
  | .null :: _ | .flag _ :: _ | .number _ :: _ | .text _ :: _ | .list _ :: _ =>
      rw [List.forall_mem_cons]
      constructor
      · intro none
        cases none
      · intro accepted
        cases accepted.1

end

/-- The values without faults are those that are accepted. -/
theorem faults_none (value : Json) : faults value = [] ↔ Accepted value := by
  cases value with
  | object members =>
      rw [faults, List.append_eq_nil_iff, memberFaults_none, typeFaults_none, accepted_object]
  | null | flag _ | number _ | text _ | list _ =>
      constructor
      · intro none
        cases none
      · intro accepted
        cases accepted

end Acceptance

section Rejection

/-- The type and the body that are read are the texts of their members. -/
theorem texts_ofMembers {members : List (String × Json)} (distinct : (members.map Prod.fst).Nodup)
    {parts read : Parts} (done : ofMembers parts members = .ok read) :
    read.typeTag = (members.lookup typeName).elim parts.typeTag Json.text? ∧
      read.body = (members.lookup bodyName).elim parts.body Json.text? := by
  have apart : bodyName ≠ typeName := by decide
  induction members generalizing parts with
  | nil =>
      cases done
      exact ⟨rfl, rfl⟩
  | cons member rest ih =>
      obtain ⟨name, value⟩ := member
      rw [List.map_cons, List.nodup_cons] at distinct
      rw [ofMembers] at done
      rw [Entries.lookup_entry, Entries.lookup_entry]
      split at done
      · rename_i typed
        obtain ⟨typeTag, body⟩ := ih distinct.2 done
        subst typed
        rw [Entries.lookup_fresh distinct.1] at typeTag
        rw [if_pos rfl, if_neg apart]
        exact ⟨typeTag, body⟩
      · rename_i untyped
        split at done
        · rename_i textual
          obtain ⟨typeTag, body⟩ := ih distinct.2 done
          subst textual
          rw [Entries.lookup_fresh distinct.1] at body
          rw [if_neg (Ne.symm untyped), if_pos rfl]
          exact ⟨typeTag, body⟩
        · rename_i bodiless
          split at done
          · rename_i property _
            have texts := ih distinct.2 done
            have kept : (parts.addProperty name property).typeTag = parts.typeTag ∧
                (parts.addProperty name property).body = parts.body := by
              cases property <;> exact ⟨rfl, rfl⟩
            rw [kept.1, kept.2] at texts
            rwa [if_neg (Ne.symm untyped), if_neg (Ne.symm bodiless)]
          · cases done

/-- An object fails with its first fault if its members do. -/
theorem error?_object {members : List (String × Json)} (distinct : (members.map Prod.fst).Nodup)
    (inside : Outcome.error? (ofMembers .empty members) = (memberFaults members).head?) :
    Outcome.error? (ofJson (.object members)) =
      (memberFaults members ++ typeFaults members).head? := by
  rw [ofJson, List.head?_append, ← inside]
  cases read : ofMembers .empty members with
  | error error => rfl
  | ok parts =>
      have typed := (texts_ofMembers distinct read).1
      rw [typeFaults, memberText?]
      simp only [Parts.build, typed, Parts.empty]
      cases members.lookup typeName with
      | none => rfl
      | some value => cases value <;> rfl

mutual

/-- Members are read up to their first fault. -/
theorem error?_ofMembers (members : List (String × Json)) (distinct : Json.DistinctMembers members)
    (parts : Parts) :
    Outcome.error? (ofMembers parts members) = (memberFaults members).head? := by
  match members with
  | [] => rfl
  | (name, value) :: rest =>
      have first := error?_propertyOf name value distinct.1
      have later := error?_ofMembers rest distinct.2
      rw [ofMembers, memberFaults]
      by_cases typed : name = typeName
      · rw [if_pos typed, if_neg fun free : Unreserved name => free.1 typed]
        exact later _
      · by_cases textual : name = bodyName
        · rw [if_neg typed, if_pos textual, if_neg fun free : Unreserved name => free.2 textual]
          exact later _
        · rw [if_neg typed, if_neg textual, if_pos ⟨typed, textual⟩, List.head?_append, ← first]
          cases propertyOf name value with
          | error error => rfl
          | ok property => exact later _

theorem error?_propertyOf (name : String) (value : Json) (distinct : value.Distinct) :
    Outcome.error? (propertyOf name value) = (propertyFaults name value).head? := by
  match value with
  | .null | .flag _ | .number _ | .text _ => rfl
  | .list items =>
      rw [propertyOf, propertyFaults, ← error?_childrenOf name items distinct]
      cases childrenOf name items <;> rfl
  | .object members =>
      rw [propertyOf_members, Outcome.error?_map, propertyFaults]
      exact error?_object distinct.1 (error?_ofMembers members distinct.2 .empty)

theorem error?_childrenOf (name : String) (items : List Json)
    (distinct : Json.DistinctItems items) :
    Outcome.error? (childrenOf name items) = (itemFaults name items).head? := by
  match items with
  | [] => rfl
  | .object members :: rest =>
      have first := error?_object distinct.1.1 (error?_ofMembers members distinct.1.2 .empty)
      have later := error?_childrenOf name rest distinct.2
      rw [childrenOf_members, itemFaults, List.head?_append, ← first, ← later]
      cases ofJson (.object members) with
      | error error => rfl
      | ok child => exact Outcome.error?_map _ _
  | .null :: _ | .flag _ :: _ | .number _ :: _ | .text _ :: _ | .list _ :: _ => rfl

end

/-- A value is rejected for its first fault. -/
theorem error?_ofJson (value : Json) (distinct : value.Distinct) :
    Outcome.error? (ofJson value) = (faults value).head? := by
  cases value with
  | object members =>
      exact error?_object distinct.1 (error?_ofMembers members distinct.2 .empty)
  | null | flag _ | number _ | text _ | list _ => rfl

end Rejection

section NormalForm

/-- An integer of 64 bits stays a number, and any other number becomes its text. -/
def normalNumber : Json.Number → Json
  | .integer value =>
      if -9223372036854775808 ≤ value ∧ value ≤ 9223372036854775807 then .ofInt value
      else .text (Json.Number.integer value).text
  | .real value => .text (Json.Number.real value).text

def textMember (name : String) (members : List (String × Json)) : List (String × Json) :=
  (memberText? name members).toList.map fun text => (name, .text text)

/-- The type comes before the properties and the body behind them. -/
def framed (members properties : List (String × Json)) : Json :=
  .object (textMember typeName members ++ properties ++ textMember bodyName members)

mutual

/-- The properties stay in their order, and those that hold nothing are dropped. -/
def normalProperties : List (String × Json) → List (String × Json)
  | [] => []
  | (name, value) :: rest =>
      (if Unreserved name then (normalProperty? value).toList.map fun value => (name, value)
        else []) ++ normalProperties rest

def normalProperty? : Json → Option Json
  | .null => none
  | .number value => some (normalNumber value)
  | .list items => some (.list (normalItems items))
  | .object members => some (framed members (normalProperties members))
  | value => some value

def normalItems : List Json → List Json
  | [] => []
  | .object members :: rest => framed members (normalProperties members) :: normalItems rest
  | item :: rest => item :: normalItems rest

end

/-- The form in which an object is written. -/
def normal : Json → Json
  | .object members => framed members (normalProperties members)
  | value => value

theorem toJson_ofNumber (value : Json.Number) :
    (Scalar.ofNumber value).toJson = normalNumber value := by
  cases value with
  | real value => rfl
  | integer value =>
      have least : Int64.minValue.toInt = -9223372036854775808 := by decide
      have greatest : Int64.maxValue.toInt = 9223372036854775807 := by decide
      rw [Scalar.ofNumber, normalNumber, Integer.ofInt?, least, greatest]
      by_cases fits : -9223372036854775808 ≤ value ∧ value ≤ 9223372036854775807
      · have below : value < 9223372036854775808 := by omega
        rw [if_pos fits, if_pos fits]
        exact congrArg Json.ofInt (Int64.toInt_ofInt_of_le fits.1 below)
      · rw [if_neg fits, if_neg fits]
        rfl

theorem propertiesToJson_map (properties : List (String × Property)) :
    propertiesToJson properties = properties.map fun entry => (entry.1, propertyToJson entry.2) := by
  induction properties with
  | nil => rfl
  | cons entry rest ih => exact congrArg (_ :: ·) ih

/-- An object is written in the normal form of its members if its properties are. -/
theorem toJson_object {members : List (String × Json)} (distinct : (members.map Prod.fst).Nodup)
    (inside : ∀ read, ofMembers .empty members = .ok read →
      propertiesToJson read.properties = normalProperties members)
    {object : BusinessObject} (done : ofJson (.object members) = .ok object) :
    object.toJson = framed members (normalProperties members) := by
  have named := named_ofJson done
  rw [ofJson] at done
  split at done
  · rename_i parts read
    obtain ⟨typed, textual⟩ := texts_ofMembers distinct read
    unfold Parts.build at done
    split at done
    · rename_i typeTag held
      cases done
      have typeText : memberText? typeName members = some typeTag := by
        rw [← held, typed, memberText?]
        cases members.lookup typeName <;> rfl
      have bodyText : memberText? bodyName members = parts.body := by
        rw [textual, memberText?]
        cases members.lookup bodyName <;> rfl
      rw [toJson, membersOf_named (by rw [fst_propertiesToJson]; exact named.distinct)
        (by rw [fst_propertiesToJson]; exact named.names), inside parts read, framed, textMember,
        textMember, typeText, bodyText]
      cases parts.body <;> rfl
    · cases done
  · cases done

mutual

/-- The properties that are read from members are written behind those known before. -/
theorem toJson_ofMembers (members : List (String × Json))
    (names : (members.map Prod.fst).Nodup) (distinct : Json.DistinctMembers members)
    {parts read : Parts} (done : ofMembers parts members = .ok read)
    (fresh : ∀ member ∈ members, member.1 ∉ parts.properties.map Prod.fst) :
    propertiesToJson read.properties =
      propertiesToJson parts.properties ++ normalProperties members := by
  match members with
  | [] =>
      cases done
      exact (List.append_nil _).symm
  | (name, value) :: rest =>
      rw [List.map_cons, List.nodup_cons] at names
      rw [List.forall_mem_cons] at fresh
      rw [ofMembers] at done
      rw [normalProperties]
      split at done
      · rename_i typed
        rw [if_neg fun free : Unreserved name => free.1 typed]
        have later := toJson_ofMembers rest names.2 distinct.2 done fresh.2
        exact later
      · rename_i untyped
        split at done
        · rename_i textual
          rw [if_neg fun free : Unreserved name => free.2 textual]
          have later := toJson_ofMembers rest names.2 distinct.2 done fresh.2
          exact later
        · rename_i bodiless
          rw [if_pos ⟨untyped, bodiless⟩]
          split at done
          · rename_i property known
            have first := toJson_propertyOf name value distinct.1 known
            cases property with
            | none =>
                rw [← first]
                have later := toJson_ofMembers rest names.2 distinct.2 done fresh.2
                exact later
            | some property =>
                have added : (parts.addProperty name (some property)).properties =
                    parts.properties ++ [(name, property)] := Entries.put_fresh fresh.1 property
                have later := toJson_ofMembers rest names.2 distinct.2 done fun member listed => by
                  rw [added, List.map_append, List.mem_append, not_or]
                  refine ⟨fresh.2 member listed, fun same => names.1 ?_⟩
                  rw [← List.mem_singleton.mp same]
                  exact List.mem_map_of_mem listed
                rw [later, added, ← first, propertiesToJson_map, List.map_append,
                  List.append_assoc, propertiesToJson_map]
                rfl
          · cases done

theorem toJson_propertyOf (name : String) (value : Json) (distinct : value.Distinct)
    {property : Option Property} (done : propertyOf name value = .ok property) :
    property.map propertyToJson = normalProperty? value := by
  match value with
  | .null | .flag _ | .text _ =>
      cases done
      rfl
  | .number value =>
      cases done
      exact congrArg some (toJson_ofNumber value)
  | .list items =>
      rw [propertyOf] at done
      split at done
      · rename_i children known
        cases done
        exact congrArg (some ∘ Json.list) (toJson_childrenOf name items distinct known)
      · cases done
  | .object members =>
      rw [propertyOf_members] at done
      obtain ⟨child, known, same⟩ := Outcome.map_ok done
      cases same
      refine congrArg some (toJson_object distinct.1 (fun read inside => ?_) known)
      exact toJson_ofMembers members distinct.1 distinct.2 inside fun _ _ => List.not_mem_nil

theorem toJson_childrenOf (name : String) (items : List Json) (distinct : Json.DistinctItems items)
    {children : List BusinessObject} (done : childrenOf name items = .ok children) :
    childrenToJson children = normalItems items := by
  match items with
  | [] =>
      cases done
      rfl
  | .object members :: rest =>
      rw [childrenOf_members] at done
      obtain ⟨child, known, done⟩ := Outcome.bind_ok done
      obtain ⟨others, later, same⟩ := Outcome.map_ok done
      cases same
      have first := toJson_object distinct.1.1 (fun read inside =>
        toJson_ofMembers members distinct.1.1 distinct.1.2 inside fun _ _ => List.not_mem_nil) known
      rw [childrenToJson, normalItems, first, toJson_childrenOf name rest distinct.2 later]
  | .null :: _ | .flag _ :: _ | .number _ :: _ | .text _ :: _ | .list _ :: _ => cases done

end

end NormalForm

/-- The accepted values are read, any other value is rejected for its first fault, and an object
that has been read is written in the normal form of its value. -/
theorem ofJson_accepted (value : Json) (distinct : value.Distinct) :
    ((∃ object, ofJson value = .ok object) ↔ Accepted value) ∧
      (∀ error, ofJson value = .error error ↔ (faults value).head? = some error) ∧
      ∀ object, ofJson value = .ok object → object.toJson = normal value := by
  have first := error?_ofJson value distinct
  refine ⟨?_, fun error => ?_, fun object done => ?_⟩
  · rw [← Outcome.error?_eq_none, first, List.head?_eq_none_iff, faults_none]
  · rw [← Outcome.error?_eq_some, first]
  · cases value with
    | object members =>
        refine toJson_object distinct.1 (fun read inside => ?_) done
        exact toJson_ofMembers members distinct.1 distinct.2 inside fun _ _ => List.not_mem_nil
    | null | flag _ | number _ | text _ | list _ => cases done

/-- A task is written in another form than it was read from, and the first of two faults decides. -/
theorem ofJson_accepted_task :
    let note : Json := .object [(typeName, .text "Note"), (bodyName, .flag true)]
    let task : Json := .object [(bodyName, .text "b"), ("none", .null),
      ("size", .ofInt 18446744073709551616), (typeName, .text "Task"), ("notes", .list [note])]
    let broken : Json := .object [("first", .list [.null]), ("second", .object [])]
    (∃ object, ofJson task = .ok object ∧ object.toJson = .object [(typeName, .text "Task"),
        ("size", .text "18446744073709551616"),
        ("notes", .list [.object [(typeName, .text "Note")]]), (bodyName, .text "b")]) ∧
      ofJson broken = .error (.unsupportedValue "first" "null") := by
  intro note task broken
  have taskDistinct : task.Distinct :=
    ⟨by decide, trivial, trivial, trivial, trivial,
      ⟨⟨by decide, trivial, trivial, trivial⟩, trivial⟩, trivial⟩
  have brokenDistinct : broken.Distinct :=
    ⟨by decide, ⟨trivial, trivial⟩, ⟨by decide, trivial⟩, trivial⟩
  obtain ⟨accepted, _, written⟩ := ofJson_accepted task taskDistinct
  have fault := (ofJson_accepted broken brokenDistinct).2.1
  obtain ⟨object, done⟩ := accepted.mpr ((faults_none task).mp rfl)
  exact ⟨⟨object, done, (written object done).trans rfl⟩, (fault _).mpr rfl⟩

end PropertyPanel.BusinessObject
