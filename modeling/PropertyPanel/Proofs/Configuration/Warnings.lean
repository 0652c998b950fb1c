/-
This file proves which locations a loaded configuration warns of as unknown.
-/

import PropertyPanel.Proofs.Configuration

namespace PropertyPanel

/-- The name that a warning of an unknown location reports. -/
def ConfigurationError.unknownLocation? : ConfigurationError → Option String
  | unknownLocation name => some name
  | _ => none

/-- A loading that reports no unknown location with any entry reports none with all of them. -/
theorem ConfigurationError.unknownLocation?_foldl {Loaded Entry : Type}
    {add : Loaded × List ConfigurationError → Entry → Loaded × List ConfigurationError}
    (silent : ∀ loaded entry, (add loaded entry).2.filterMap unknownLocation? =
      loaded.2.filterMap unknownLocation?)
    (entries : List Entry) (loaded : Loaded × List ConfigurationError) :
    (entries.foldl add loaded).2.filterMap unknownLocation? =
      loaded.2.filterMap unknownLocation? := by
  induction entries generalizing loaded with
  | nil => rfl
  | cons entry rest ih => exact (ih _).trans (silent loaded entry)

namespace LocationTable

/-- A table lacks the names under which no declared steps compile. -/
theorem find?_compile (declared : Dictionary String (List StepDeclaration)) (name : String) :
    (compile declared).1.find? name = none ↔
      ∀ steps, declared.find? name = some steps →
        ∃ defect, Location.compile name steps = .error defect := by
  have fold (entries : List (String × List StepDeclaration))
      (loaded : LocationTable × List ConfigurationError) :
      (entries.foldl addDeclaration loaded).1.find? name = none ↔
        loaded.1.find? name = none ∧ ∀ steps, (name, steps) ∈ entries →
          ∃ defect, Location.compile name steps = .error defect := by
    induction entries generalizing loaded with
    | nil => simp
    | cons entry rest ih =>
        obtain ⟨other, steps⟩ := entry
        rw [List.foldl_cons, ih, addDeclaration]
        cases compiled : Location.compile other steps with
        | ok location =>
            by_cases same : name = other
            · subst same
              simp [compiled]
            · simp [same]
        | error defect =>
            by_cases same : name = other
            · subst same
              simp [compiled]
            · simp [same]
  rw [compile, fold]
  simp only [Dictionary.find?_eq_some]
  exact and_iff_right rfl

/-- Malformed locations are no unknown ones. -/
theorem warnings_compile (declared : Dictionary String (List StepDeclaration)) :
    (compile declared).2.filterMap ConfigurationError.unknownLocation? = [] := by
  refine ConfigurationError.unknownLocation?_foldl (fun loaded entry => ?_) _
    (Dictionary.empty, [])
  unfold addDeclaration
  split
  · rfl
  · simp [ConfigurationError.unknownLocation?]

end LocationTable

namespace Configuration

variable {configuration : Configuration}

/-- A location is used by a common field, by a generic field of an element, or by a field or a
criterion of one of its subtypes. -/
inductive Uses (configuration : Configuration) : String → Prop where
  | common {field : String} {descriptor : FieldDescriptor}
      (found : configuration.common.find? field = some descriptor) :
      Uses configuration descriptor.location
  | generic {elementType field : String} {element : ElementConfiguration} {fields : FieldMap}
      {descriptor : FieldDescriptor}
      (configured : configuration.element? elementType = some element)
      (shown : element.fields = some fields) (found : fields.find? field = some descriptor) :
      Uses configuration descriptor.location
  | subtype {elementType field : String} {element : ElementConfiguration} {kind : ElementSubtype}
      {descriptor : FieldDescriptor}
      (configured : configuration.element? elementType = some element)
      (offered : kind ∈ element.subtypes) (found : kind.fields.find? field = some descriptor) :
      Uses configuration descriptor.location
  | criterion {elementType : String} {element : ElementConfiguration} {kind : ElementSubtype}
      {criterion : Criterion} (configured : configuration.element? elementType = some element)
      (offered : kind ∈ element.subtypes) (listed : criterion ∈ kind.criteria) :
      Uses configuration criterion.location

theorem mem_usedLocations {name : String} :
    name ∈ configuration.usedLocations ↔ configuration.Uses name := by
  constructor
  · intro used
    cases List.mem_append.mp used with
    | inl field =>
        obtain ⟨fields, shown, inside⟩ := List.mem_flatMap.mp field
        obtain ⟨descriptor, held, same⟩ := List.mem_map.mp inside
        obtain ⟨id, found⟩ := Dictionary.exists_find?_of_mem_values held
        subst same
        cases List.mem_cons.mp shown with
        | inl common => exact .common (common ▸ found)
        | inr other =>
            obtain ⟨element, offered, maps⟩ := List.mem_flatMap.mp other
            obtain ⟨elementType, configured⟩ := Dictionary.exists_find?_of_mem_values offered
            cases List.mem_append.mp maps with
            | inl generic => exact .generic configured (Option.mem_toList.mp generic) found
            | inr special =>
                obtain ⟨kind, offered, same⟩ := List.mem_map.mp special
                exact .subtype configured offered (same ▸ found)
    | inr criterion =>
        obtain ⟨criterion, inside, same⟩ := List.mem_map.mp criterion
        obtain ⟨element, held, inside⟩ := List.mem_flatMap.mp inside
        obtain ⟨kind, offered, listed⟩ := List.mem_flatMap.mp inside
        obtain ⟨elementType, configured⟩ := Dictionary.exists_find?_of_mem_values held
        exact same ▸ .criterion configured offered listed
  · intro uses
    cases uses with
    | common found => exact location_mem_usedLocations found (mem_allFields (.inl rfl))
    | generic configured shown found =>
        exact location_mem_usedLocations found (mem_allFields (.inr ⟨_, _, configured,
          List.mem_append_left _ (Option.mem_toList.mpr shown)⟩))
    | subtype configured offered found =>
        exact location_mem_usedLocations found (mem_allFields (.inr ⟨_, _, configured,
          List.mem_append_right _ (List.mem_map_of_mem offered)⟩))
    | criterion configured offered listed =>
        refine List.mem_append_right _ (List.mem_map_of_mem (List.mem_flatMap.mpr ?_))
        exact ⟨_, Dictionary.mem_values configured, List.mem_flatMap.mpr ⟨_, offered, listed⟩⟩

/-- A warning about the entries of an element is none about locations. -/
theorem warnings_addElement (loaded : Configuration)
    (declared : String × Dictionary String EntryDeclaration) :
    (loaded.addElement declared).warnings.filterMap ConfigurationError.unknownLocation? =
      loaded.warnings.filterMap ConfigurationError.unknownLocation? := by
  unfold addElement
  split
  · refine ConfigurationError.unknownLocation?_foldl (fun loaded entry => ?_) _
      (loaded.common, loaded.warnings)
    unfold addCommonEntry
    split
    · rfl
    · simp [ConfigurationError.unknownLocation?]
  · refine ConfigurationError.unknownLocation?_foldl (fun loaded entry => ?_) _
      (ElementConfiguration.empty, loaded.warnings)
    unfold addEntry
    split
    · rfl
    · rfl
    · split
      · rfl
      · simp [ConfigurationError.unknownLocation?]
    · simp [ConfigurationError.unknownLocation?]

/-- The warnings of unknown locations are those of the check at the end. -/
theorem warnings_load (declaration : ConfigurationDeclaration) :
    (load declaration).warnings.filterMap ConfigurationError.unknownLocation? =
      (load declaration).unknownLocations.names := by
  have fold (entries : List (String × Dictionary String EntryDeclaration))
      (loaded : Configuration) :
      (entries.foldl addElement loaded).warnings.filterMap ConfigurationError.unknownLocation? =
        loaded.warnings.filterMap ConfigurationError.unknownLocation? := by
    induction entries generalizing loaded with
    | nil => rfl
    | cons entry rest ih => exact (ih _).trans (warnings_addElement loaded entry)
  have checked (loaded : Configuration)
      (silent : loaded.warnings.filterMap ConfigurationError.unknownLocation? = []) :
      loaded.checkLocations.warnings.filterMap ConfigurationError.unknownLocation? =
        loaded.checkLocations.unknownLocations.names := by
    have reported (names : List String) : (names.map ConfigurationError.unknownLocation).filterMap
        ConfigurationError.unknownLocation? = names := by
      rw [List.filterMap_map]
      exact List.filterMap_some
    rw [checkLocations, List.filterMap_append, silent, reported]
    rfl
  exact checked _ ((fold _ _).trans (LocationTable.warnings_compile declaration.locations))

/-- A warning reports each location that is used and not in the table. -/
theorem mem_unknownLocations {name : String} :
    name ∈ configuration.unknownLocations.names ↔
      configuration.Uses name ∧ configuration.locations.find? name = none := by
  rw [unknownLocations, NameSet.mem_ofList, List.mem_filter, mem_usedLocations]
  simp [Dictionary.contains]

end Configuration

end PropertyPanel
