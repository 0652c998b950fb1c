/-
This file proves when a document is read back from the text that is written for it.
-/

import PropertyPanel.Diagram.Document
import PropertyPanel.Proofs.BusinessObject.Json

namespace PropertyPanel

namespace NameSet

theorem eq_of_names {first second : NameSet} (same : first.names = second.names) :
    first = second := by
  cases first
  cases second
  cases same
  rfl

theorem insertInto_last {name : String} {names : List String}
    (before : ∀ other ∈ names, other < name) : insertInto name names = names ++ [name] := by
  induction names with
  | nil => rfl
  | cons first rest ih =>
      rw [List.forall_mem_cons] at before
      have later : ¬ name < first := String.not_lt.mpr (Std.le_of_lt before.1)
      have different : name ≠ first := fun same => Std.lt_irrefl (same ▸ before.1)
      rw [insertInto, if_neg later, if_neg different, ih before.2, List.cons_append]

/-- A set is the set of the names that it lists. -/
theorem ofList_names (set : NameSet) : ofList set.names = set := by
  have fold (names : List String) (known : NameSet)
      (ascending : (known.names ++ names).Pairwise (· < ·)) :
      (names.foldl insert known).names = known.names ++ names := by
    induction names generalizing known with
    | nil => simp
    | cons name rest ih =>
        have before : ∀ other ∈ known.names, other < name := fun other listed =>
          (List.pairwise_append.mp ascending).2.2 other listed name List.mem_cons_self
        have added : (known.insert name).names = known.names ++ [name] := insertInto_last before
        rw [List.foldl_cons, ih (known.insert name) (by simpa [added] using ascending), added]
        simp
  exact eq_of_names (fold set.names empty set.ascending)

end NameSet

namespace Element

theorem levels_toJson (element : Element) :
    element.toJson.levels = element.businessObject.toJson.levels + 1 := by
  simp [toJson, Json.levels, Json.memberLevels]

theorem readable_toJson (element : Element) :
    element.toJson.Integral ∧ element.toJson.Distinct := by
  obtain ⟨integral, distinct⟩ := BusinessObject.readable_toJson element.businessObject
  have names : ["id", "type", "businessObject"].Nodup := by decide
  exact ⟨⟨trivial, trivial, integral, trivial⟩, names, trivial, trivial, distinct, trivial⟩

/-- An element is read back if its object is not nested too deeply and can keep its names. -/
theorem ofSource?_spelled (element : Element) (levels : Nat) :
    ofSource? levels element.toJson.spelled = some element ↔
      element.businessObject.toJson.levels ≤ levels - 1 ∧
        element.businessObject.Named BusinessObject.Unreserved := by
  obtain ⟨id, elementType, object⟩ := element
  have read := Json.json?_spelled object.toJson (BusinessObject.readable_toJson object).2
    (levels - 1)
  have parts : (toJson ⟨id, elementType, object⟩).spelled.record? ["id", "type", "businessObject"] =
      some [("id", .leaf (.ofText id)), ("type", .leaf (.ofText elementType)),
        ("businessObject", object.toJson.spelled)] := by
    rfl
  have step : ofSource? levels (toJson ⟨id, elementType, object⟩).spelled =
      (object.toJson.spelled.json? (levels - 1)).bind fun value =>
        (BusinessObject.ofJson value).toOption.map (Element.mk id elementType) := by
    rw [ofSource?, parts]
    change (object.toJson.spelled.json? (levels - 1)).bind _ = _
    refine congrArg (Option.bind _) (funext fun value => ?_)
    cases BusinessObject.ofJson value <;> rfl
  rw [step, read]
  split
  · rename_i fits
    rw [Option.bind_some, ← BusinessObject.ofJson_toJson_iff]
    cases BusinessObject.ofJson object.toJson with
    | ok found => simp [fits, Except.toOption]
    | error error => simp [Except.toOption]
  · rename_i deep
    simp [deep]

/-- The object of an element that is read can keep its names. -/
theorem named_ofSource? {levels : Nat} {source : Source} {element : Element}
    (read : ofSource? levels source = some element) :
    element.businessObject.Named BusinessObject.Unreserved := by
  simp only [ofSource?, Option.bind_eq_bind, Option.bind_eq_some_iff] at read
  obtain ⟨_, _, id, _, elementType, _, value, _, read⟩ := read
  split at read
  · rename_i object known
    cases read
    exact BusinessObject.named_ofJson known
  · cases read

end Element

namespace DiagramDocument

/-- All objects of the document can keep their names when they are written. -/
def Named (document : DiagramDocument) : Prop :=
  ∀ element ∈ document.elements, element.businessObject.Named BusinessObject.Unreserved

/-- The objects of a document lie three levels deep in it. -/
theorem levels_toJson (document : DiagramDocument) :
    document.toJson.levels ≤ Source.nestingLimit ↔
      ∀ element ∈ document.elements,
        element.businessObject.toJson.levels ≤ Source.nestingLimit - 2 - 1 := by
  have inner : Json.itemLevels (document.elements.map Element.toJson) ≤ 125 ↔
      ∀ element ∈ document.elements, element.businessObject.toJson.levels ≤ 124 := by
    rw [Json.itemLevels_le, List.forall_mem_map]
    exact forall₂_congr fun element _ => by rw [Element.levels_toJson]; omega
  rw [Source.nestingLimit, ← inner, toJson]
  split
  · simp only [List.nil_append, Json.levels, Json.memberLevels]
    omega
  · simp only [List.cons_append, List.nil_append, Json.levels, Json.memberLevels,
      Json.levels_texts]
    omega

theorem readable_toJson (document : DiagramDocument) :
    document.toJson.Integral ∧ document.toJson.Distinct := by
  have elements : Json.Integral (.list (document.elements.map Element.toJson)) ∧
      Json.Distinct (.list (document.elements.map Element.toJson)) := by
    rw [Json.Integral, Json.Distinct, Json.integralItems_iff, Json.distinctItems_iff,
      List.forall_mem_map, List.forall_mem_map]
    exact ⟨fun element _ => element.readable_toJson.1, fun element _ => element.readable_toJson.2⟩
  have names : ["types", "elements"].Nodup := by decide
  rw [toJson]
  split
  · exact ⟨⟨elements.1, trivial⟩, by simp, elements.2, trivial⟩
  · have types := Json.readable_texts document.types.types.names
    exact ⟨⟨types.1, elements.1, trivial⟩, names, types.2, elements.2, trivial⟩

/-- The types of a document are read back whether they are written or not. -/
theorem ofSource?_spelled (document : DiagramDocument) (levels : Nat) :
    ofSource? levels document.toJson.spelled =
      (Source.items? (Element.ofSource? (levels - 2))
        (Json.spelled (.list (document.elements.map Element.toJson)))).map
          (DiagramDocument.mk document.types) := by
  rw [toJson]
  generalize Json.list (document.elements.map Element.toJson) = elements
  split
  · rename_i permissive
    have types : TypeRegistry.ofList [] = document.types := by
      rw [TypeRegistry.isPermissive, NameSet.isEmpty, List.isEmpty_iff] at permissive
      have empty : NameSet.ofList [] = document.types.types :=
        NameSet.eq_of_names permissive.symm
      rw [TypeRegistry.ofList, empty]
    have parts : (Json.object [("elements", elements)]).spelled.record? ["types", "elements"] =
        some [("elements", elements.spelled)] := rfl
    rw [← types, List.nil_append, ofSource?, parts]
    change (Source.items? (Element.ofSource? (levels - 2)) elements.spelled).bind _ = _
    cases Source.items? (Element.ofSource? (levels - 2)) elements.spelled <;> rfl
  · have types : TypeRegistry.ofList document.types.types.names = document.types := by
      rw [TypeRegistry.ofList, NameSet.ofList_names]
    have read := Source.items?_texts document.types.types.names
    have parts : (Json.object [("types", Json.texts document.types.types.names),
          ("elements", elements)]).spelled.record? ["types", "elements"] =
        some [("types", (Json.texts document.types.types.names).spelled),
          ("elements", elements.spelled)] := rfl
    rw [List.cons_append, List.nil_append, ofSource?, parts]
    change (Source.items? Source.text? (Json.texts document.types.types.names).spelled).bind _ = _
    rw [read, Option.bind_some, types]
    change (Source.items? (Element.ofSource? (levels - 2)) elements.spelled).bind _ = _
    cases Source.items? (Element.ofSource? (levels - 2)) elements.spelled <;> rfl

theorem ofText?_compact (document : DiagramDocument) :
    ofText? document.toJson.compact = ofSource? Source.nestingLimit document.toJson.spelled := by
  rw [ofText?, Json.source?_compact _ document.readable_toJson.1, Option.bind_some]

/-- A document is read back from its text exactly if it is not nested too deeply and all its
objects can keep their names. -/
theorem ofText?_toJson (document : DiagramDocument) :
    ofText? document.toJson.compact = some document ↔
      document.toJson.levels ≤ Source.nestingLimit ∧ document.Named := by
  have elements : Source.items? (Element.ofSource? (Source.nestingLimit - 2))
      (Json.spelled (.list (document.elements.map Element.toJson))) = some document.elements ↔
      document.toJson.levels ≤ Source.nestingLimit ∧ document.Named := by
    rw [Json.spelled, Json.spelledItems_map, List.map_map, Source.items?, Source.mapM_written,
      levels_toJson, Named, ← forall₂_and]
    simp only [Function.comp_apply, Element.ofSource?_spelled]
  rw [← elements, ofText?_compact, ofSource?_spelled]
  cases Source.items? (Element.ofSource? (Source.nestingLimit - 2))
      (Json.spelled (.list (document.elements.map Element.toJson))) with
  | none => simp
  | some found =>
      obtain ⟨types, known⟩ := document
      simp

/-- The objects of a document that is read can keep their names. -/
theorem named_ofText? {text : String} {document : DiagramDocument}
    (read : ofText? text = some document) : document.Named := by
  rw [ofText?, Option.bind_eq_some_iff] at read
  obtain ⟨source, _, read⟩ := read
  simp only [ofSource?, Option.bind_eq_bind, Option.bind_eq_some_iff] at read
  obtain ⟨parts, _, types, _, elements, decoded, read⟩ := read
  cases read
  -- Each element of the document is read from a part of the text, if there are any.
  rw [Source.defaulted?] at decoded
  split at decoded
  · cases decoded
    exact fun element listed => absurd listed List.not_mem_nil
  · rename_i part _
    cases part with
    | list items =>
        intro element listed
        obtain ⟨item, _, known⟩ := Source.mem_mapM decoded listed
        exact Element.named_ofSource? known
    | leaf _ | table _ => cases decoded

end DiagramDocument

end PropertyPanel
