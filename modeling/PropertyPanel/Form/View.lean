/-
This file describes what a panel shows for one element.
-/

import PropertyPanel.Configuration.Basic
import PropertyPanel.Diagram.Update
import PropertyPanel.Form.Label
import PropertyPanel.Form.Value

namespace PropertyPanel

/-- A dirty value comes from an unsaved draft. -/
structure CurrentValue where
  value : Option Scalar
  dirty : Bool
  deriving DecidableEq

instance : Inhabited CurrentValue := ⟨⟨none, false⟩⟩

structure FieldView where
  id : String
  label : String
  kind : InputKind
  value : FieldValue
  readonly : Bool
  options : List String
  dirty : Bool
  deriving DecidableEq

namespace FieldView

def build (id : String) (field : FieldDescriptor) (current : CurrentValue) : FieldView :=
  { id
    label := Label.ofField id field
    kind := field.kind
    value := FieldValue.ofScalar field.kind current.value
    readonly := field.readonly
    options := field.values
    dirty := current.dirty }

/-- The further lines of a value are indented below the first one. -/
def indentLines (text : String) : String :=
  String.ofList <| text.toList.flatMap fun character =>
    if character = '\n' then ['\n', ' ', ' ', ' ', ' '] else [character]

def display (field : FieldView) : String :=
  field.label ++ (if field.dirty then "*" else "") ++ ": " ++ indentLines field.value.display ++
    (if field.options.isEmpty then "" else " [" ++ ", ".intercalate field.options ++ "]") ++
    (if field.readonly then " (readonly)" else "")

def toJson (field : FieldView) : Json :=
  .object <|
    [("id", .text field.id), ("label", .text field.label), ("kind", .text field.kind.name),
      ("value", field.value.toJson), ("readonly", .flag field.readonly)] ++
    (if field.options.isEmpty then [] else [("options", .texts field.options)]) ++
    [("dirty", .flag field.dirty)]

end FieldView

structure FieldGroup where
  title : String
  fields : List FieldView
  deriving DecidableEq

/-- A selector offers the subtypes of an element. -/
structure TypeSelector where
  options : List String
  selected : Option String
  deriving DecidableEq

inductive ViewSection where
  | fields (group : FieldGroup)
  | typeSelector (selector : TypeSelector)
  deriving DecidableEq

namespace ViewSection

def fieldViews : ViewSection → List FieldView
  | fields group => group.fields
  | typeSelector _ => []

def group? : ViewSection → Option FieldGroup
  | fields group => some group
  | typeSelector _ => none

def selector? : ViewSection → Option TypeSelector
  | fields _ => none
  | typeSelector selector => some selector

def display : ViewSection → String
  | fields group =>
      group.title ++ String.join (group.fields.map fun field => "\n  " ++ field.display)
  | typeSelector selector =>
      "Type Configuration\n  Type: " ++ selector.selected.getD "-- Select Type --" ++
        " [" ++ ", ".intercalate selector.options ++ "]"

def toJson : ViewSection → Json
  | fields group =>
      .object [("kind", .text "fields"), ("title", .text group.title),
        ("fields", .list (group.fields.map FieldView.toJson))]
  | typeSelector selector =>
      .object [("kind", .text "typeSelector"), ("options", .texts selector.options),
        ("selected", (selector.selected.map Json.text).getD .null)]

end ViewSection

structure PanelView where
  element : ElementId
  elementType : String
  sections : List ViewSection
  deriving DecidableEq

namespace PanelView

def fields (view : PanelView) : List FieldView := view.sections.flatMap ViewSection.fieldViews

def field? (view : PanelView) (id : String) : Option FieldView :=
  view.fields.find? fun field => field.id = id

def group? (view : PanelView) (title : String) : Option FieldGroup :=
  (view.sections.filterMap ViewSection.group?).find? fun group => group.title = title

def selector? (view : PanelView) : Option TypeSelector :=
  view.sections.findSome? ViewSection.selector?

def display (view : PanelView) : String :=
  view.element ++ " (" ++ view.elementType ++ ")" ++
    String.join (view.sections.map fun part => "\n\n" ++ part.display)

def toJson (view : PanelView) : Json :=
  .object [("element", .text view.element), ("elementType", .text view.elementType),
    ("sections", .list (view.sections.map ViewSection.toJson))]

end PanelView

/-- An outline names the sections of a view and the fields that go into them. -/
inductive OutlineSection where
  | group (title : String) (fields : FieldMap)
  | typeSelector (selector : TypeSelector)

namespace OutlineSection

def entries : OutlineSection → List (String × FieldDescriptor)
  | group _ fields => fields.entries
  | typeSelector _ => []

def view (valueOf : String → FieldDescriptor → CurrentValue) : OutlineSection → ViewSection
  | group title fields =>
      .fields ⟨title, fields.entries.map fun (id, field) =>
        FieldView.build id field (valueOf id field)⟩
  | typeSelector selector => .typeSelector selector

end OutlineSection

namespace ElementConfiguration

/-- The fields of a selected subtype take the place of the fields without a subtype. -/
def outline (element : ElementConfiguration) (selected : Option String) : List OutlineSection :=
  let kind := selected.bind element.subtype?
  let selector :=
    if element.hasSubtypes then
      [.typeSelector ⟨element.subtypeNames, kind.map ElementSubtype.name⟩]
    else []
  let groups :=
    match kind, element.fields with
    | some kind, _ =>
        if kind.fields.isEmpty then [] else [.group (kind.name ++ " Properties") kind.fields]
    | none, some fields => [.group "Element Properties" fields]
    | none, none => []
  selector ++ groups

end ElementConfiguration

namespace Configuration

/-- The fields common to all elements come first. -/
def outline (configuration : Configuration) (elementType : String) (selected : Option String) :
    List OutlineSection :=
  (if configuration.common.isEmpty then []
    else [.group "Basic Properties" configuration.common]) ++
  match configuration.element? elementType with
  | some element => element.outline selected
  | none => []

/-- The fields that a view shows, in the order in which it shows them. -/
def shownFields (configuration : Configuration) (elementType : String)
    (selected : Option String) : List (String × FieldDescriptor) :=
  (configuration.outline elementType selected).flatMap OutlineSection.entries

def view (configuration : Configuration) (element : ElementId) (elementType : String)
    (selected : Option String) (valueOf : String → FieldDescriptor → CurrentValue) : PanelView :=
  ⟨element, elementType,
    (configuration.outline elementType selected).map (OutlineSection.view valueOf)⟩

end Configuration

end PropertyPanel
