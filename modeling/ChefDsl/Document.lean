import ChefDsl.Entity
import ChefDsl.Json.Document
import ChefDsl.Source.File

/-! Roles and environments as JSON documents. A marker field tells which of the two a document is. A null field
counts as absent, fields other than those named here count for nothing, and of several faults the first in the
order of the checks is reported. -/

namespace ChefDsl.Document

/-- The field that tells the kind of a document, with what it holds. -/
inductive Marker where
  | jsonClass (value : Json)
  | chefType (value : Json)

/-- The class outranks the type. -/
def marker? (entries : Entries Json) : Option Marker :=
  match Json.field? entries "json_class" with
  | some value => some (.jsonClass value)
  | none => (Json.field? entries "chef_type").map .chefType

def Marker.value : Marker → Json
  | jsonClass value | chefType value => value

def Marker.word : Marker → EntityKind → String
  | jsonClass _, .role => "Chef::Role"
  | jsonClass _, .environment => "Chef::Environment"
  | chefType _, kind => kind.name

def Marker.kind (marker : Marker) : Except Error EntityKind :=
  match marker.value with
  | .string text =>
    if text = marker.word .role then .ok .role
    else if text = marker.word .environment then .ok .environment
    else .error (.unsupportedEntityKind text)
  | other => .error (.unsupportedEntityKind other.kindName)

def kind (entries : Entries Json) : Except Error EntityKind :=
  match marker? entries with
  | some marker => marker.kind
  | none => .error (.unsupportedEntityKind "object")

section Fields
variable (kind : EntityKind) (entries : Entries Json)

def requiredString (field : String) : Except Error String :=
  match Json.field? entries field with
  | none => .error (.missingField kind field)
  | some (.string text) => .ok text
  | some _ => .error (.invalidField kind field .string)

def optionalString (field : String) : Except Error String :=
  match Json.field? entries field with
  | none => .ok ""
  | some (.string text) => .ok text
  | some _ => .error (.invalidField kind field .string)

/-- The entries of an object, none if the field is absent. -/
def optionalObject (field : String) : Except Error (Entries Json) :=
  match Json.field? entries field with
  | none => .ok []
  | some (.object fields) => .ok fields
  | some _ => .error (.invalidField kind field .object)

def attributes (field : String) : Except Error Attributes :=
  (optionalObject kind entries field).map Value.ofEntries

end Fields

/-- Reads the items of a run list in order, up to the first that is none. -/
def runListItems (field : String) (value : Json) : Except Error RunList :=
  match value with
  | .array items => items.mapM fun item =>
    match item with
    | .string text => RunList.Item.parse text
    | _ => .error (.invalidField .role field .stringArray)
  | _ => .error (.invalidField .role field .stringArray)

def runListField (entries : Entries Json) (field : String) : Except Error RunList :=
  match Json.field? entries field with
  | none => .ok []
  | some value => runListItems field value

/-- The run list of a role, which old documents keep under `recipes`. -/
def globalRunList (entries : Entries Json) : Except Error RunList :=
  match Json.field? entries "run_list" with
  | some value => runListItems "run_list" value
  | none => runListField entries "recipes"

/-- The environment whose run list is the global one. -/
def defaultEnvironment : String := "_default"

/-- The run lists by environment as the document gives them. -/
def ownRunLists (entries : Entries Json) : Except Error (Entries RunList) := do
  let lists ← optionalObject .role entries "env_run_lists"
  lists.mapM fun entry => do
    return (entry.1, ← runListItems ("env_run_lists." ++ entry.1) entry.2)

/-- The global run list comes first, under the default environment, unless the document has a list of its own
for that environment, which then takes its place. -/
def resolveRunLists (globalList : RunList) (own : Entries RunList) : Entries RunList :=
  Entries.putAll [(defaultEnvironment, globalList)] own

def role (entries : Entries Json) : Except Error Role := do
  let globalList ← globalRunList entries
  let own ← ownRunLists entries
  let lists := resolveRunLists globalList own
  return {
    name := ← requiredString .role entries "name"
    description := ← optionalString .role entries "description"
    defaultAttributes := ← attributes .role entries "default_attributes"
    overrideAttributes := ← attributes .role entries "override_attributes"
    runList := (lists.lookup defaultEnvironment).getD []
    envRunLists := lists }

def cookbookVersions (entries : Entries Json) : Except Error (Entries String) := do
  let versions ← optionalObject .environment entries "cookbook_versions"
  versions.mapM fun entry =>
    match entry.2 with
    | .string constraint => .ok (entry.1, constraint)
    | _ => .error (.invalidField .environment ("cookbook_versions." ++ entry.1) .string)

def environment (entries : Entries Json) : Except Error Environment := do
  let versions ← cookbookVersions entries
  return {
    name := ← requiredString .environment entries "name"
    description := ← optionalString .environment entries "description"
    cookbookVersions := versions
    defaultAttributes := ← attributes .environment entries "default_attributes"
    overrideAttributes := ← attributes .environment entries "override_attributes" }

/-- The entity that a document describes. -/
def load : Json → Except Error Entity
  | .object entries => do
    match ← kind entries with
    | .role => return .role (← role entries)
    | .environment => return .environment (← environment entries)
  | other => .error (.unsupportedEntityKind other.kindName)

def parse (text : String) : Except Error Json :=
  (Json.parse text.toList).mapError .json

def loadText (text : String) : Except Error Entity := do load (← parse text)

/-- The DSL source of the entity that a text describes. -/
def toSource (text : String) : Except Error Text := do (← loadText text).source

end ChefDsl.Document
