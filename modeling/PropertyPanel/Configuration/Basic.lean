/-
This file loads declared configurations and collects the problems found on the way.
-/

import PropertyPanel.Configuration.Declaration
import PropertyPanel.NameSet

namespace PropertyPanel

inductive ConfigurationError where
  | unknownLocation (name : String)
  | malformedLocation (name : String) (defect : Location.Defect)
  | malformedElement (element reason : String)
  | unreadable (detail : String)
  deriving DecidableEq

def ConfigurationError.message : ConfigurationError → String
  | unknownLocation name => "Unknown location: " ++ name
  | malformedLocation name defect => "Malformed location '" ++ name ++ "': " ++ defect.message
  | malformedElement element reason =>
      "Malformed configuration for '" ++ element ++ "': " ++ reason
  | unreadable detail => "Failed to parse configuration: " ++ detail

/-- The locations of a configuration, by name. -/
abbrev LocationTable := Dictionary String Location

namespace LocationTable

def addDeclaration (loaded : LocationTable × List ConfigurationError)
    (declared : String × List StepDeclaration) : LocationTable × List ConfigurationError :=
  match Location.compile declared.1 declared.2 with
  | .ok location => (loaded.1.insert declared.1 location, loaded.2)
  | .error defect => (loaded.1, loaded.2 ++ [.malformedLocation declared.1 defect])

/-- Malformed locations are left out of the table and reported beside it. -/
def compile (declared : Dictionary String (List StepDeclaration)) :
    LocationTable × List ConfigurationError :=
  declared.entries.foldl addDeclaration (.empty, [])

def get (table : LocationTable) (name : String) : Except ConfigurationError Location :=
  match table.find? name with
  | some location => .ok location
  | none => .error (.unknownLocation name)

end LocationTable

/-- The fields and forms that a panel shows, and the problems found while they were loaded. -/
structure Configuration where
  locations : LocationTable
  common : FieldMap
  elements : Dictionary String ElementConfiguration
  warnings : List ConfigurationError

namespace Configuration

/-- The entry that holds the fields shown for every element. -/
def commonName : String := "common"

/-- The entry of an element that holds the fields shown without a subtype. -/
def fieldsName : String := "fields"

def empty : Configuration := ⟨.empty, .empty, .empty, []⟩

instance : Inhabited Configuration := ⟨empty⟩

def otherReason (name : String) (value : Json) : String :=
  let listed := ((value.member? fieldsName).map Json.isList).getD false ||
    (name = fieldsName && value.isList)
  if listed then "'" ++ name ++ "' uses an array field list; only field maps are supported"
  else "'" ++ name ++ "' is neither a field nor a subtype"

/-- An entry of an element adds to the element or leaves a warning. -/
def addEntry (element : String) (loaded : ElementConfiguration × List ConfigurationError)
    (entry : String × EntryDeclaration) : ElementConfiguration × List ConfigurationError :=
  match entry.2 with
  | .field descriptor => (loaded.1.addField entry.1 descriptor, loaded.2)
  | .subtype criteria fields => (loaded.1.addSubtype ⟨entry.1, criteria, fields⟩, loaded.2)
  | .fields fields =>
      if entry.1 = fieldsName then (loaded.1.addFields fields, loaded.2)
      else
        (loaded.1,
          loaded.2 ++ [.malformedElement element ("subtype '" ++ entry.1 ++ "' has no criteria")])
  | .other value =>
      (loaded.1, loaded.2 ++ [.malformedElement element (otherReason entry.1 value)])

/-- A common entry that is no field leaves a warning. -/
def addCommonEntry (loaded : FieldMap × List ConfigurationError)
    (entry : String × EntryDeclaration) : FieldMap × List ConfigurationError :=
  match entry.2 with
  | .field descriptor => (loaded.1.insert entry.1 descriptor, loaded.2)
  | _ =>
      (loaded.1,
        loaded.2 ++
          [.malformedElement commonName ("'" ++ entry.1 ++ "' is not a field descriptor")])

def addElement (loaded : Configuration)
    (declared : String × Dictionary String EntryDeclaration) : Configuration :=
  if declared.1 = commonName then
    let (common, warnings) :=
      declared.2.entries.foldl addCommonEntry (loaded.common, loaded.warnings)
    { loaded with common, warnings }
  else
    let (element, warnings) :=
      declared.2.entries.foldl (addEntry declared.1) (.empty, loaded.warnings)
    { loaded with elements := loaded.elements.insert declared.1 element, warnings }

/-- The names of the locations at which fields and criteria look for their values. -/
def usedLocations (configuration : Configuration) : List String :=
  let elements := configuration.elements.values
  let maps := configuration.common :: elements.flatMap ElementConfiguration.fieldMaps
  let criteria := elements.flatMap fun element => element.subtypes.flatMap ElementSubtype.criteria
  (maps.flatMap fun fields => fields.values.map FieldDescriptor.location) ++
    criteria.map Criterion.location

/-- The used locations that the table does not hold. -/
def unknownLocations (configuration : Configuration) : NameSet :=
  .ofList (configuration.usedLocations.filter fun name => !configuration.locations.contains name)

def checkLocations (configuration : Configuration) : Configuration :=
  { configuration with
    warnings := configuration.warnings ++
      configuration.unknownLocations.names.map .unknownLocation }

/-- Nothing that is declared wrongly stops the loading. -/
def load (declaration : ConfigurationDeclaration) : Configuration :=
  let (locations, warnings) := LocationTable.compile declaration.locations
  checkLocations <|
    declaration.elements.entries.foldl addElement ⟨locations, .empty, .empty, warnings⟩

def ofSource (levels : Nat) (source : Option Source) : Except ConfigurationError Configuration :=
  match source.bind (ConfigurationDeclaration.ofSource? levels) with
  | some declaration => .ok (load declaration)
  | none => .error (.unreadable "the text declares no configuration")

def element? (configuration : Configuration) (elementType : String) :
    Option ElementConfiguration :=
  configuration.elements.find? elementType

end Configuration

end PropertyPanel
