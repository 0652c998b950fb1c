/-
This file proves what the locations of a configuration are if it is loaded without a warning.
-/

import PropertyPanel.Configuration.Basic
import PropertyPanel.Proofs.Dictionary
import PropertyPanel.Proofs.Outcome
import PropertyPanel.Proofs.Resolution.Leaves

namespace PropertyPanel

namespace Location

/-- The steps of a compiled location form a chain, and there is at least one. -/
def Compiled (location : Location) : Prop := location.steps ≠ [] ∧ Chain location.steps

/-- A compiled condition keeps its name. -/
theorem compileCondition_fst {condition : String × Json} {compiled : String × Expected}
    (done : compileCondition condition = .ok compiled) : compiled.1 = condition.1 := by
  unfold compileCondition at done
  split at done
  · cases done
    rfl
  · split at done
    · cases done
      rfl
    · cases done

theorem compileConditions_fst {conditions : List (String × Json)}
    {compiled : List (String × Expected)}
    (done : conditions.mapM compileCondition = .ok compiled) :
    compiled.map Prod.fst = conditions.map Prod.fst := by
  induction conditions generalizing compiled with
  | nil =>
      rw [List.mapM_nil] at done
      cases done
      rfl
  | cons condition rest ih =>
      rw [List.mapM_cons] at done
      obtain ⟨head, first, done⟩ := Outcome.bind_ok done
      obtain ⟨tail, others, done⟩ := Outcome.bind_ok done
      cases done
      rw [List.map_cons, List.map_cons, ih others, compileCondition_fst first]

/-- A compiled step that is not the last one is no leaf. -/
theorem compileStep_chain {position : Nat} {last : Bool} {step : StepDeclaration} {compiled : Step}
    (done : compileStep position last step = .ok compiled) :
    (compiled.isLeaf = true → last = true ∧ ∃ property, compiled = .leaf property) ∧
      compiled.Distinct := by
  unfold compileStep at done
  split at done
  · cases done
  · obtain ⟨filter, conditions, done⟩ := Outcome.bind_ok done
    have distinct : (filter.map Prod.fst).Nodup := by
      rw [compileConditions_fst conditions]
      exact step.conditions.distinct
    cases typed : step.nodeType with
    | some nodeType =>
        rw [typed] at done
        cases done
        refine ⟨fun leaf => (by cases leaf), ?_⟩
        rintro filter ⟨⟩
        exact distinct
    | none =>
        rw [typed] at done
        cases last with
        | true =>
            cases done
            refine ⟨fun _ => ⟨rfl, _, rfl⟩, ?_⟩
            rintro filter ⟨⟩
        | false =>
            cases done
            refine ⟨fun leaf => (by cases leaf), ?_⟩
            rintro filter ⟨⟩
            exact distinct

/-- Compiled steps form a chain with as many steps as are declared. -/
theorem compileFrom_chain {position : Nat} {declared : List StepDeclaration} {steps : List Step}
    (done : compileFrom position declared = .ok steps) :
    Chain steps ∧ steps.length = declared.length := by
  induction declared generalizing position steps with
  | nil =>
      cases done
      exact ⟨.body, rfl⟩
  | cons step rest ih =>
      rw [compileFrom] at done
      obtain ⟨compiled, first, done⟩ := Outcome.bind_ok done
      obtain ⟨tail, others, done⟩ := Outcome.bind_ok done
      cases done
      obtain ⟨chain, length⟩ := ih others
      obtain ⟨ends, distinct⟩ := compileStep_chain first
      refine ⟨?_, by simp [length]⟩
      cases leaf : compiled.isLeaf with
      | false => exact .step compiled tail leaf distinct chain
      | true =>
          obtain ⟨last, property, same⟩ := ends leaf
          have empty : tail = [] := by
            rw [List.isEmpty_iff] at last
            rw [last] at length
            exact List.length_eq_zero_iff.mp length
          rw [same, empty]
          exact .leaf property

theorem compile_compiled {name : String} {declared : List StepDeclaration} {location : Location}
    (done : compile name declared = .ok location) : location.Compiled := by
  unfold compile at done
  split at done
  · cases done
  · rename_i nonempty
    obtain ⟨steps, compiled, same⟩ := Outcome.map_ok done
    cases same
    obtain ⟨chain, length⟩ := compileFrom_chain compiled
    refine ⟨?_, chain⟩
    rintro rfl
    rw [List.isEmpty_iff, ← List.length_eq_zero_iff] at nonempty
    exact nonempty length.symm

end Location

namespace LocationTable

/-- All locations of a table are compiled. -/
def Compiled (table : LocationTable) : Prop :=
  ∀ name location, table.find? name = some location → location.Compiled

theorem compile_compiled (declared : Dictionary String (List StepDeclaration)) :
    (compile declared).1.Compiled := by
  have fold (entries : List (String × List StepDeclaration))
      (loaded : LocationTable × List ConfigurationError) (compiled : Compiled loaded.1) :
      Compiled (entries.foldl addDeclaration loaded).1 := by
    induction entries generalizing loaded with
    | nil => exact compiled
    | cons entry rest ih =>
        refine ih _ ?_
        unfold addDeclaration
        split
        · rename_i location done
          intro name other known
          rw [Dictionary.find?_insert] at known
          split at known
          · cases known
            exact Location.compile_compiled done
          · exact compiled name other known
        · exact compiled
  exact fold _ _ fun name location known => by cases known

end LocationTable

namespace Configuration

theorem locations_addElement (loaded : Configuration)
    (declared : String × Dictionary String EntryDeclaration) :
    (loaded.addElement declared).locations = loaded.locations := by
  unfold addElement
  split <;> rfl

theorem locations_load (declaration : ConfigurationDeclaration) :
    (load declaration).locations = (LocationTable.compile declaration.locations).1 := by
  have fold (entries : List (String × Dictionary String EntryDeclaration))
      (loaded : Configuration) :
      (entries.foldl addElement loaded).locations = loaded.locations := by
    induction entries generalizing loaded with
    | nil => rfl
    | cons entry rest ih => exact (ih _).trans (locations_addElement loaded entry)
  exact fold _ _

/-- An entry names at most one new subtype of its element. -/
theorem subtypeNames_addEntry (name : String)
    (loaded : ElementConfiguration × List ConfigurationError)
    (entry : String × EntryDeclaration) :
    (addEntry name loaded entry).1.subtypeNames.Sublist
      (loaded.1.subtypeNames ++ [entry.1]) := by
  unfold addEntry
  split
  · exact List.sublist_append_left _ _
  · rw [ElementConfiguration.addSubtype, ElementConfiguration.subtypeNames, List.map_append]
    exact List.Sublist.refl _
  · split
    · exact List.sublist_append_left _ _
    · exact List.sublist_append_left _ _
  · exact List.sublist_append_left _ _

theorem subtypeNames_entries (name : String) (entries : List (String × EntryDeclaration))
    (loaded : ElementConfiguration × List ConfigurationError) :
    (entries.foldl (addEntry name) loaded).1.subtypeNames.Sublist
      (loaded.1.subtypeNames ++ entries.map Prod.fst) := by
  induction entries generalizing loaded with
  | nil => simp
  | cons entry rest ih =>
      have first := (subtypeNames_addEntry name loaded entry).append_right (rest.map Prod.fst)
      rw [List.append_assoc] at first
      exact (ih _).trans first

/-- The subtypes of all elements have distinct names. -/
def Distinguished (configuration : Configuration) : Prop :=
  ∀ elementType element, configuration.element? elementType = some element →
    element.subtypeNames.Nodup

theorem distinguished_addElement {loaded : Configuration} (distinct : loaded.Distinguished)
    (declared : String × Dictionary String EntryDeclaration) :
    (loaded.addElement declared).Distinguished := by
  intro elementType element known
  unfold addElement at known
  split at known
  · exact distinct elementType element known
  · rw [element?, Dictionary.find?_insert] at known
    split at known
    · cases known
      exact declared.2.distinct.sublist (subtypeNames_entries declared.1 declared.2.entries _)
    · exact distinct elementType element known

theorem distinguished_load (declaration : ConfigurationDeclaration) :
    (load declaration).Distinguished := by
  have fold (entries : List (String × Dictionary String EntryDeclaration))
      (loaded : Configuration) (distinct : loaded.Distinguished) :
      (entries.foldl addElement loaded).Distinguished := by
    induction entries generalizing loaded with
    | nil => exact distinct
    | cons entry rest ih => exact ih _ (distinguished_addElement distinct entry)
  exact fold _ _ fun elementType element known => by cases known

theorem find?_unknownLocations {configuration : Configuration}
    (clean : configuration.unknownLocations.names = []) {name : String}
    (used : name ∈ configuration.usedLocations) :
    ∃ location, configuration.locations.find? name = some location := by
  cases known : configuration.locations.find? name with
  | some location => exact ⟨location, rfl⟩
  | none =>
      have missing : name ∈ configuration.unknownLocations.names := by
        rw [unknownLocations, NameSet.mem_ofList, List.mem_filter]
        exact ⟨used, by simp [Dictionary.contains, known]⟩
      rw [clean] at missing
      cases missing

/-- Without a warning every location that is used is known. -/
theorem find?_usedLocations {declaration : ConfigurationDeclaration}
    (clean : (load declaration).warnings = []) {name : String}
    (used : name ∈ (load declaration).usedLocations) :
    ∃ location, (load declaration).locations.find? name = some location ∧ location.Compiled := by
  have listed : (load declaration).unknownLocations.names = [] :=
    List.map_eq_nil_iff.mp (List.append_eq_nil_iff.mp clean).2
  obtain ⟨location, known⟩ := find?_unknownLocations listed used
  refine ⟨location, known, ?_⟩
  have compiled := LocationTable.compile_compiled declaration.locations
  rw [← locations_load] at compiled
  exact compiled name location known

/-- All field maps of the configuration. -/
def allFields (configuration : Configuration) : List FieldMap :=
  configuration.common :: configuration.elements.values.flatMap ElementConfiguration.fieldMaps

theorem mem_allFields {configuration : Configuration} {fields : FieldMap}
    (shown : fields = configuration.common ∨ ∃ elementType element,
      configuration.element? elementType = some element ∧ fields ∈ element.fieldMaps) :
    fields ∈ configuration.allFields := by
  cases shown with
  | inl common =>
      rw [common]
      exact List.mem_cons_self
  | inr other =>
      obtain ⟨elementType, element, configured, listed⟩ := other
      exact List.mem_cons_of_mem _
        (List.mem_flatMap.mpr ⟨element, Dictionary.mem_values configured, listed⟩)

/-- The fields of an element are used. -/
theorem location_mem_usedLocations {configuration : Configuration} {fields : FieldMap}
    {field : String} {descriptor : FieldDescriptor} (found : fields.find? field = some descriptor)
    (listed : fields ∈ configuration.allFields) :
    descriptor.location ∈ configuration.usedLocations := by
  rw [usedLocations, List.mem_append]
  exact .inl (List.mem_flatMap.mpr
    ⟨fields, listed, List.mem_map_of_mem (Dictionary.mem_values found)⟩)

end Configuration

end PropertyPanel
