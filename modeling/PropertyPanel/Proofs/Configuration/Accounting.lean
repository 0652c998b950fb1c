/-
This file proves that nothing a configuration declares is lost without a warning, but for a field
that its element declares again.
-/

import Mathlib.Data.List.Nodup
import PropertyPanel.Configuration.Text
import PropertyPanel.Proofs.Configuration

namespace PropertyPanel

namespace Dictionary

variable {Name Value Loaded : Type} [DecidableEq Name]

/-- An extension finds its own entries before those that it extends. -/
theorem find?_extend (dictionary other : Dictionary Name Value) (name : Name) :
    (dictionary.extend other).find? name = (other.find? name).or (dictionary.find? name) := by
  obtain ⟨entries, distinct⟩ := other
  change (entries.foldl (fun known entry => known.insert entry.1 entry.2) dictionary).find? name =
    (entries.lookup name).or (dictionary.find? name)
  induction entries generalizing dictionary with
  | nil => rfl
  | cons entry rest ih =>
      rw [List.map_cons, List.nodup_cons] at distinct
      rw [List.foldl_cons, ih _ distinct.2, find?_insert, Entries.lookup_entry]
      by_cases same : name = entry.1
      · have fresh : rest.lookup name = none := Entries.lookup_fresh (same ▸ distinct.1)
        rw [if_pos same, if_pos same, fresh]
        rfl
      · rw [if_neg same, if_neg same]

/-- What the loading of an entry settles is settled in the end if the entries of other names leave
it settled. -/
theorem foldl_settles (Settled : Loaded → Prop) {dictionary : Dictionary Name Value} {name : Name}
    {value : Value} (known : dictionary.find? name = some value)
    {add : Loaded → Name × Value → Loaded} (made : ∀ loaded, Settled (add loaded (name, value)))
    (kept : ∀ loaded other, other.1 ≠ name → Settled loaded → Settled (add loaded other))
    (loaded : Loaded) : Settled (dictionary.entries.foldl add loaded) := by
  obtain ⟨earlier, later, split⟩ := List.append_of_mem (find?_eq_some.mp known)
  have distinct := dictionary.distinct
  rw [split, List.map_append, List.map_cons, List.nodup_append, List.nodup_cons] at distinct
  have fresh := distinct.2.1.1
  rw [split, List.foldl_append, List.foldl_cons]
  clear split distinct known
  generalize start : add (earlier.foldl add loaded) (name, value) = middle
  have settled : Settled middle := start ▸ made _
  clear start
  induction later generalizing middle with
  | nil => exact settled
  | cons entry rest ih =>
      rw [List.map_cons, List.mem_cons, not_or] at fresh
      exact ih fresh.2 _ (kept _ _ (Ne.symm fresh.1) settled)

end Dictionary

namespace ConfigurationError

/-- No loading step that keeps the warnings so far loses one. -/
theorem subset_foldl {Loaded Entry : Type} {add : Loaded → Entry → Loaded}
    {warnings : Loaded → List ConfigurationError}
    (keeps : ∀ loaded entry, warnings loaded ⊆ warnings (add loaded entry))
    (entries : List Entry) (loaded : Loaded) :
    warnings loaded ⊆ warnings (entries.foldl add loaded) := by
  induction entries generalizing loaded with
  | nil => exact List.Subset.refl _
  | cons entry rest ih => exact List.Subset.trans (keeps loaded entry) (ih _)

end ConfigurationError

namespace LocationTable

theorem subset_addDeclaration (loaded : LocationTable × List ConfigurationError)
    (declared : String × List StepDeclaration) : loaded.2 ⊆ (addDeclaration loaded declared).2 := by
  unfold addDeclaration
  split
  · exact List.Subset.refl _
  · exact List.subset_append_left _ _

/-- A declared location is compiled into the table or reported as malformed. -/
theorem compile_accounts {declared : Dictionary String (List StepDeclaration)} {name : String}
    {steps : List StepDeclaration} (known : declared.find? name = some steps) :
    match Location.compile name steps with
    | .ok location => (compile declared).1.find? name = some location
    | .error defect => .malformedLocation name defect ∈ (compile declared).2 := by
  cases compiled : Location.compile name steps with
  | ok location =>
      refine Dictionary.foldl_settles
        (fun loaded : LocationTable × List ConfigurationError =>
          loaded.1.find? name = some location) known ?_ ?_ _
      · intro loaded
        rw [addDeclaration, compiled, Dictionary.find?_insert, if_pos rfl]
      · intro loaded other different there
        unfold addDeclaration
        split
        · rw [Dictionary.find?_insert, if_neg (Ne.symm different)]
          exact there
        · exact there
  | error defect =>
      refine Dictionary.foldl_settles
        (fun loaded : LocationTable × List ConfigurationError =>
          .malformedLocation name defect ∈ loaded.2) known ?_ ?_ _
      · intro loaded
        rw [addDeclaration, compiled]
        exact List.mem_append_right _ (List.mem_singleton_self _)
      · intro loaded other _ there
        exact subset_addDeclaration loaded other there

end LocationTable

namespace EntryDeclaration

/-- The descriptor with which an entry of an element declares a field, by itself or in the map of
the fields without a subtype. -/
def declared? (field : String) (entry : String × EntryDeclaration) : Option FieldDescriptor :=
  match entry.2 with
  | .field descriptor => if field = entry.1 then some descriptor else none
  | .fields shown => if entry.1 = Configuration.fieldsName then shown.find? field else none
  | _ => none

end EntryDeclaration

namespace ElementConfiguration

/-- The descriptor of a field that an element shows without a subtype. -/
def field? (element : ElementConfiguration) (field : String) : Option FieldDescriptor :=
  element.fields.bind (Dictionary.find? · field)

theorem field?_addField (element : ElementConfiguration) (name field : String)
    (descriptor : FieldDescriptor) :
    (element.addField name descriptor).field? field =
      if field = name then some descriptor else element.field? field := by
  rw [ElementConfiguration.field?, addField, Option.bind_some, Dictionary.find?_insert]
  cases fields : element.fields with
  | none => rw [ElementConfiguration.field?, fields]; rfl
  | some known => rw [ElementConfiguration.field?, fields]; rfl

theorem field?_addFields (element : ElementConfiguration) (fields : FieldMap) (field : String) :
    (element.addFields fields).field? field = (fields.find? field).or (element.field? field) := by
  rw [ElementConfiguration.field?, addFields, Option.bind_some, Dictionary.find?_extend]
  cases known : element.fields with
  | none => rw [ElementConfiguration.field?, known]; rfl
  | some known => rw [ElementConfiguration.field?, known]; rfl

/-- Subtypes with distinct names are found under their names. -/
theorem subtype?_of_mem {element : ElementConfiguration} (distinct : element.subtypeNames.Nodup)
    {kind : ElementSubtype} (listed : kind ∈ element.subtypes) :
    element.subtype? kind.name = some kind := by
  cases found : element.subtype? kind.name with
  | none => simpa using List.find?_eq_none.mp found kind listed
  | some other =>
      have named : other.name = kind.name := by simpa using List.find?_some found
      exact congrArg some (List.inj_on_of_nodup_map distinct (List.mem_of_find?_eq_some found)
        listed named)

end ElementConfiguration

namespace Configuration

open EntryDeclaration (declared?)

section Entry

variable (element : String) (loaded : ElementConfiguration × List ConfigurationError)
  (entry : String × EntryDeclaration)

theorem subset_addEntry : loaded.2 ⊆ (addEntry element loaded entry).2 := by
  unfold addEntry
  split
  · exact List.Subset.refl _
  · exact List.Subset.refl _
  · split
    · exact List.Subset.refl _
    · exact List.subset_append_left _ _
  · exact List.subset_append_left _ _

theorem subtypes_addEntry :
    loaded.1.subtypes ⊆ (addEntry element loaded entry).1.subtypes := by
  unfold addEntry
  split
  · exact List.Subset.refl _
  · exact List.subset_append_left _ _
  · split
    · exact List.Subset.refl _
    · exact List.Subset.refl _
  · exact List.Subset.refl _

/-- An entry that declares a field takes the place of what has been loaded for it. -/
theorem field?_addEntry (field : String) :
    (addEntry element loaded entry).1.field? field =
      (declared? field entry).or (loaded.1.field? field) := by
  obtain ⟨name, declared⟩ := entry
  cases declared with
  | field descriptor =>
      change (loaded.1.addField name descriptor).field? field = _
      rw [ElementConfiguration.field?_addField, declared?]
      dsimp only
      split <;> rfl
  | subtype criteria fields => rfl
  | fields fields =>
      rw [addEntry, declared?]
      dsimp only
      split
      · exact ElementConfiguration.field?_addFields _ _ _
      · rfl
  | other value => rfl

/-- The last entry that declares a field is the one that is loaded. -/
theorem field?_entries (field : String) (entries : List (String × EntryDeclaration)) :
    (entries.foldl (addEntry element) loaded).1.field? field =
      ((entries.filterMap (declared? field)).getLast?).or (loaded.1.field? field) := by
  induction entries generalizing loaded with
  | nil => rfl
  | cons first rest ih =>
      rw [List.foldl_cons, ih, field?_addEntry]
      cases here : declared? field first with
      | none => rw [List.filterMap_cons_none here, Option.none_or]
      | some descriptor =>
          rw [List.filterMap_cons_some here, List.getLast?_cons, Option.some_or]
          cases (rest.filterMap (declared? field)).getLast? <;> rfl

/-- Each field that an entry declares is shown with its descriptor or with that of the last later
entry that declares the field again. -/
theorem field?_split {field : String} {descriptor : FieldDescriptor}
    (earlier later : List (String × EntryDeclaration))
    (here : declared? field entry = some descriptor) :
    ((earlier ++ entry :: later).foldl (addEntry element) loaded).1.field? field =
      some ((later.filterMap (declared? field)).getLast?.getD descriptor) := by
  rw [field?_entries, List.filterMap_append, List.filterMap_cons_some here, List.getLast?_append,
    List.getLast?_cons, Option.some_or, Option.some_or]

end Entry

/-- An entry of an element is loaded or covered by a warning of the element. A field that it
declares has its descriptor, or that of the last later entry that declares the field again. -/
inductive Accounted (configuration : Configuration) (elementType : String)
    (element : ElementConfiguration) (later : List (String × EntryDeclaration)) :
    String × EntryDeclaration → Prop where
  | field {name : String} {descriptor : FieldDescriptor}
      (shown : element.field? name =
        some ((later.filterMap (declared? name)).getLast?.getD descriptor)) :
      Accounted configuration elementType element later (name, .field descriptor)
  | fields {fields : FieldMap}
      (shown : ∀ field descriptor, fields.find? field = some descriptor →
        element.field? field =
          some ((later.filterMap (declared? field)).getLast?.getD descriptor)) :
      Accounted configuration elementType element later (fieldsName, .fields fields)
  | misplaced {name : String} {fields : FieldMap} (misplaced : name ≠ fieldsName)
      (warned : .malformedElement elementType ("subtype '" ++ name ++ "' has no criteria") ∈
        configuration.warnings) :
      Accounted configuration elementType element later (name, .fields fields)
  | subtype {name : String} {criteria : List Criterion} {fields : FieldMap}
      (offered : element.subtype? name = some ⟨name, criteria, fields⟩) :
      Accounted configuration elementType element later (name, .subtype criteria fields)
  | other {name : String} {value : Json}
      (warned : .malformedElement elementType (otherReason name value) ∈
        configuration.warnings) :
      Accounted configuration elementType element later (name, .other value)

/-- A common entry is loaded if it is a field, or else covered by a warning. -/
inductive CommonAccounted (configuration : Configuration) : String × EntryDeclaration → Prop where
  | field {name : String} {descriptor : FieldDescriptor}
      (shown : configuration.common.find? name = some descriptor) :
      CommonAccounted configuration (name, .field descriptor)
  | other {name : String} {declared : EntryDeclaration}
      (unshown : ∀ descriptor, declared ≠ .field descriptor)
      (warned : .malformedElement commonName ("'" ++ name ++ "' is not a field descriptor") ∈
        configuration.warnings) :
      CommonAccounted configuration (name, declared)

section Loading

variable {configuration : Configuration} {entries : Dictionary String EntryDeclaration}

theorem subset_addCommonEntry (loaded : FieldMap × List ConfigurationError)
    (entry : String × EntryDeclaration) : loaded.2 ⊆ (addCommonEntry loaded entry).2 := by
  unfold addCommonEntry
  split
  · exact List.Subset.refl _
  · exact List.subset_append_left _ _

/-- The entries of an element are accounted for one by one. -/
theorem entries_accounted {elementType : String} {before : List ConfigurationError}
    (warned : (entries.entries.foldl (addEntry elementType) (.empty, before)).2 ⊆
      configuration.warnings)
    {earlier later : List (String × EntryDeclaration)} {entry : String × EntryDeclaration}
    (split : entries.entries = earlier ++ entry :: later) :
    configuration.Accounted elementType
      (entries.entries.foldl (addEntry elementType) (.empty, before)).1 later entry := by
  obtain ⟨name, declared⟩ := entry
  have known : entries.find? name = some declared := by
    rw [Dictionary.find?_eq_some, split]
    exact List.mem_append_right _ List.mem_cons_self
  have shown {field : String} {descriptor : FieldDescriptor}
      (here : declared? field (name, declared) = some descriptor) :
      (entries.entries.foldl (addEntry elementType) (.empty, before)).1.field? field =
        some ((later.filterMap (declared? field)).getLast?.getD descriptor) := by
    rw [split]
    exact field?_split elementType _ _ earlier later here
  have reported {warning : ConfigurationError}
      (made : ∀ loaded, warning ∈ (addEntry elementType loaded (name, declared)).2) :
      warning ∈ configuration.warnings :=
    warned (Dictionary.foldl_settles
      (fun loaded : ElementConfiguration × List ConfigurationError => warning ∈ loaded.2) known made
      (fun loaded other _ there => subset_addEntry elementType loaded other there) _)
  cases declared with
  | field descriptor => exact .field (shown (if_pos rfl))
  | subtype criteria fields =>
      have offered : ⟨name, criteria, fields⟩ ∈
          (entries.entries.foldl (addEntry elementType) (.empty, before)).1.subtypes := by
        refine Dictionary.foldl_settles
          (fun loaded : ElementConfiguration × List ConfigurationError =>
            ⟨name, criteria, fields⟩ ∈ loaded.1.subtypes) known ?_ ?_ _
        · intro loaded
          exact List.mem_append_right _ (List.mem_singleton_self _)
        · intro loaded other _ there
          exact subtypes_addEntry elementType loaded other there
      have distinct : (entries.entries.foldl (addEntry elementType)
          (.empty, before)).1.subtypeNames.Nodup :=
        entries.distinct.sublist (subtypeNames_entries elementType entries.entries _)
      exact .subtype (ElementConfiguration.subtype?_of_mem distinct offered)
  | fields fields =>
      by_cases generic : name = fieldsName
      · subst generic
        refine .fields fun field descriptor found => shown ?_
        simpa [declared?] using found
      · refine .misplaced generic (reported fun loaded => ?_)
        simp [addEntry, generic]
  | other value =>
      exact .other (reported fun loaded => List.mem_append_right _ (List.mem_singleton_self _))

/-- The common entries are accounted for one by one. -/
theorem common_accounted {before : FieldMap × List ConfigurationError}
    (common : configuration.common = (entries.entries.foldl addCommonEntry before).1)
    (warned : (entries.entries.foldl addCommonEntry before).2 ⊆ configuration.warnings)
    {name : String} {declared : EntryDeclaration} (known : entries.find? name = some declared) :
    configuration.CommonAccounted (name, declared) := by
  have reported
      (made : ∀ loaded, .malformedElement commonName ("'" ++ name ++ "' is not a field descriptor")
        ∈ (addCommonEntry loaded (name, declared)).2) :
      .malformedElement commonName ("'" ++ name ++ "' is not a field descriptor") ∈
        configuration.warnings :=
    warned (Dictionary.foldl_settles
      (fun loaded : FieldMap × List ConfigurationError =>
        .malformedElement commonName ("'" ++ name ++ "' is not a field descriptor") ∈ loaded.2)
      known made (fun loaded other _ there => subset_addCommonEntry loaded other there) _)
  cases declared with
  | field descriptor =>
      refine .field ?_
      rw [common]
      refine Dictionary.foldl_settles (fun loaded : FieldMap × List ConfigurationError =>
        loaded.1.find? name = some descriptor) known ?_ ?_ _
      · intro loaded
        rw [addCommonEntry, Dictionary.find?_insert, if_pos rfl]
      · intro loaded other different there
        unfold addCommonEntry
        split
        · rw [Dictionary.find?_insert, if_neg (Ne.symm different)]
          exact there
        · exact there
  | subtype criteria fields =>
      exact .other (by simp) (reported fun loaded =>
        List.mem_append_right _ (List.mem_singleton_self _))
  | fields fields =>
      exact .other (by simp) (reported fun loaded =>
        List.mem_append_right _ (List.mem_singleton_self _))
  | other value =>
      exact .other (by simp) (reported fun loaded =>
        List.mem_append_right _ (List.mem_singleton_self _))

/-- The loading of an element loses no warnings. -/
theorem subset_addElement (loaded : Configuration)
    (declared : String × Dictionary String EntryDeclaration) :
    loaded.warnings ⊆ (loaded.addElement declared).warnings := by
  unfold addElement
  split
  · exact ConfigurationError.subset_foldl subset_addCommonEntry declared.2.entries
      (loaded.common, loaded.warnings)
  · exact ConfigurationError.subset_foldl (subset_addEntry declared.1) declared.2.entries
      (.empty, loaded.warnings)

/-- An element is loaded from its entries, and all warnings about them are kept. -/
theorem element_loaded {declared : Dictionary String (Dictionary String EntryDeclaration)}
    {elementType : String} (known : declared.find? elementType = some entries)
    (special : elementType ≠ commonName) (start : Configuration) :
    let loaded := declared.entries.foldl addElement start
    ∃ before : List ConfigurationError,
      loaded.element? elementType =
          some (entries.entries.foldl (addEntry elementType) (.empty, before)).1 ∧
        (entries.entries.foldl (addEntry elementType) (.empty, before)).2 ⊆ loaded.warnings := by
  refine Dictionary.foldl_settles (fun loaded : Configuration => ∃ before,
    loaded.element? elementType =
        some (entries.entries.foldl (addEntry elementType) (.empty, before)).1 ∧
      (entries.entries.foldl (addEntry elementType) (.empty, before)).2 ⊆ loaded.warnings)
    known ?_ ?_ start
  · intro loaded
    refine ⟨loaded.warnings, ?_⟩
    rw [addElement, if_neg special]
    refine ⟨?_, List.Subset.refl _⟩
    rw [element?, Dictionary.find?_insert, if_pos rfl]
  · rintro loaded other different ⟨before, there, kept⟩
    refine ⟨before, ?_, List.Subset.trans kept (subset_addElement loaded other)⟩
    unfold addElement
    split
    · exact there
    · rw [element?, Dictionary.find?_insert, if_neg (Ne.symm different)]
      exact there

/-- The common fields are loaded from their entries, and all warnings about them are kept. -/
theorem common_loaded {declared : Dictionary String (Dictionary String EntryDeclaration)}
    (known : declared.find? commonName = some entries) (start : Configuration) :
    let loaded := declared.entries.foldl addElement start
    ∃ before : FieldMap × List ConfigurationError,
      loaded.common = (entries.entries.foldl addCommonEntry before).1 ∧
        (entries.entries.foldl addCommonEntry before).2 ⊆ loaded.warnings := by
  refine Dictionary.foldl_settles (fun loaded : Configuration => ∃ before,
    loaded.common = (entries.entries.foldl addCommonEntry before).1 ∧
      (entries.entries.foldl addCommonEntry before).2 ⊆ loaded.warnings) known ?_ ?_ start
  · intro loaded
    refine ⟨(loaded.common, loaded.warnings), ?_⟩
    rw [addElement, if_pos rfl]
    exact ⟨rfl, List.Subset.refl _⟩
  · rintro loaded other different ⟨before, there, kept⟩
    refine ⟨before, ?_, List.Subset.trans kept (subset_addElement loaded other)⟩
    unfold addElement
    rw [if_neg different]
    exact there

end Loading

/-- All locations, all common entries and all entries of all elements are accounted for. -/
structure Accounts (configuration : Configuration) (declaration : ConfigurationDeclaration) :
    Prop where
  locations : ∀ name steps, declaration.locations.find? name = some steps →
    match Location.compile name steps with
    | .ok location => configuration.locations.find? name = some location
    | .error defect => .malformedLocation name defect ∈ configuration.warnings
  common : ∀ entries, declaration.elements.find? commonName = some entries →
    ∀ name declared, entries.find? name = some declared →
      configuration.CommonAccounted (name, declared)
  elements : ∀ elementType entries, elementType ≠ commonName →
    declaration.elements.find? elementType = some entries →
    ∃ element, configuration.element? elementType = some element ∧
      ∀ earlier entry later, entries.entries = earlier ++ entry :: later →
        configuration.Accounted elementType element later entry

/-- Every text that declares a configuration is loaded. Each declared location is compiled under its
name or reported as malformed. Each entry of an element or of the common fields is loaded as it is
declared or covered by a warning with the name of the element, but a field that its element declares
several times has the last of these descriptors. -/
theorem load_accounted (declaration : ConfigurationDeclaration) :
    (∀ text, (Json.source? text).bind
        (ConfigurationDeclaration.ofSource? Source.nestingLimit) = some declaration →
      ofJsonText text = .ok (load declaration)) ∧
    (∀ text, (Yaml.source? text).bind
        (ConfigurationDeclaration.ofSource? Yaml.nestingLimit) = some declaration →
      ofYamlText text = .ok (load declaration)) ∧
    (load declaration).Accounts declaration := by
  have read (levels : Nat) (source : Option Source)
      (declared : source.bind (ConfigurationDeclaration.ofSource? levels) = some declaration) :
      ofSource levels source = .ok (load declaration) := by rw [ofSource, declared]
  refine ⟨fun text => read _ _, fun text => read _ _, ?_⟩
  let start : Configuration := ⟨(LocationTable.compile declaration.locations).1, .empty, .empty,
    (LocationTable.compile declaration.locations).2⟩
  let loaded := declaration.elements.entries.foldl addElement start
  have compiled : start.warnings ⊆ loaded.warnings :=
    ConfigurationError.subset_foldl subset_addElement declaration.elements.entries start
  have checked : loaded.warnings ⊆ (load declaration).warnings := List.subset_append_left _ _
  constructor
  case locations =>
    intro name steps known
    have account := LocationTable.compile_accounts known
    split at account
    · rw [locations_load]
      exact account
    · exact checked (compiled account)
  case common =>
    intro entries known name declared listed
    obtain ⟨before, common, warned⟩ := common_loaded known start
    have kept : (entries.entries.foldl addCommonEntry before).2 ⊆ (load declaration).warnings :=
      fun _ listed => checked (warned listed)
    have shown : (load declaration).common = _ := common
    exact common_accounted shown kept listed
  case elements =>
    intro elementType entries special known
    obtain ⟨before, element, warned⟩ := element_loaded known special start
    refine ⟨_, element, ?_⟩
    have kept : (entries.entries.foldl (addEntry elementType) (.empty, before)).2 ⊆
        (load declaration).warnings := fun _ listed => checked (warned listed)
    intro earlier entry later split
    exact entries_accounted kept split

/-- A memo is declared by itself and again among the fields without a subtype. -/
def memoText : String := r#"{
    "locations": {
        "own": [{ "property": "own" }],
        "other": [{ "property": "other" }]
    },
    "elements": {
        "Task": {
            "memo": { "location": "own" },
            "fields": { "memo": { "location": "other" } }
        }
    }
}"#

set_option maxRecDepth 100000 in
/-- The first descriptor of a field that is declared twice is lost without a warning. -/
theorem load_unaccounted :
    (((Json.source? memoText).bind
        (ConfigurationDeclaration.ofSource? Source.nestingLimit)).bind fun declaration =>
      (declaration.elements.find? "Task").map fun entries =>
        entries.entries.filterMap (declared? "memo")) =
      some [.atLocation "own", .atLocation "other"] ∧
    ((ofJsonText memoText).toOption.map fun configuration =>
      ((configuration.element? "Task").bind (ElementConfiguration.field? · "memo"),
        configuration.warnings)) = some (some (.atLocation "other"), []) := by
  unfold ofJsonText Json.source? Json.Token.scan? memoText
  rw [String.toList_ofList]
  decide +kernel

end Configuration

end PropertyPanel
