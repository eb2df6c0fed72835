import SourceRegistry.Plugin
import SourceRegistry.Samples.Assets

/-!
Sample datasources: kinds that are decoded from fields, and numbered ones that custom factories
build as they are asked to.
-/

set_option autoImplicit false
set_option relaxedAutoImplicit false

namespace SourceRegistry.Samples

/-- What a datasource does with a reference to its context. -/
inductive Slot where
  | keeps
  | none
  | refuses (reason : String)
  deriving DecidableEq, Repr

structure SampleSource where
  type : TypeIdent
  name : String
  /-- The fields it was built from; those of a kind without its name. -/
  data : Fields := []
  /-- The number of a numbered datasource. -/
  number : Option Nat := none
  shelf : AssetShelf := {}
  takesAssets : Bool := true
  slot : Slot := .keeps
  context : Option ContextId := none

namespace SampleSource

def addAsset (s : SampleSource) (asset : Asset) : Except AssetError Asset × SampleSource :=
  if s.takesAssets then
    match s.shelf.add asset with
    | .ok shelf => (.ok asset, { s with shelf })
    | .error cause => (.error cause, s)
  else (.error (.rejected asset.name), s)

def attach (s : SampleSource) (context : ContextId) : Except SlotError Unit × SampleSource :=
  match s.slot with
  | .keeps => (.ok (), { s with context := some context })
  | .none => (.error .missing, s)
  | .refuses reason => (.error (.rejected reason), s)

instance : Source SampleSource where
  type s := s.type
  name s := s.name
  addAsset := addAsset
  attach := attach
  context s := s.context
  type_addAsset s asset := by
    unfold addAsset
    split
    · split <;> rfl
    · rfl
  type_attach s context := by
    unfold attach
    split <;> rfl

end SampleSource

structure KindParts where
  id : String
  typeName : String
  tag : String
  fields : List FieldDecl := []
  /-- The ids of the asset types that it offers. -/
  assets : List String := []
  declared : List (String × Method) := []
  /-- The fields it is decoded from. -/
  data : List FieldShape := [{ name := "name", shape := .text }]
  strict : Bool := false
  takesAssets : Bool := true
  slot : Slot := .keeps

namespace KindParts

def source (parts : KindParts) (type : TypeIdent) (data : Fields) : SampleSource :=
  { type
    name := (textOf data "name").getD ""
    data := data.erase "name"
    takesAssets := parts.takesAssets
    slot := parts.slot }

def kind (parts : KindParts) (number : Nat) : SourceKind SampleSource :=
  let type : TypeIdent := { number, name := parts.typeName }
  let schema : Schema := { fields := parts.data, strict := parts.strict }
  { spec :=
      { type
        tag := parts.tag
        fields := parts.fields
        assets := parts.assets.filterMap assetSpec?
        declared := .ofList parts.declared }
    decode := fun fields => (schema.decode fields).map (parts.source type) }

end KindParts

/-- Adds a file asset with a path of its own where the caller gives none. -/
def declaredAddFile : Method :=
  { operation := .add (.made 0 "declared add_file_asset") fun source name fields =>
      let fields :=
        if fields.contains "path" then fields else fields.insert "path" (.text "declared.csv")
      match assetSpec? "FileAsset" with
      | some spec => .buildAndAdd spec source name fields
      | none => .fail (.detached source) }

def kindParts : List KindParts := [
  { id := "csv", typeName := "CsvDatasource", tag := "csv"
    fields := [field "type" "str", fieldWith "base_directory" "str | None" "None"]
    assets := ["FileAsset", "_PrivateAsset"]
    data := [
      { name := "name", shape := .text },
      { name := "base_directory", shape := .text, presence := .optional }] },
  { id := "pandas", typeName := "PandasDatasource", tag := "pandas", assets := ["DataFrameAsset"] },
  { id := "slotless", typeName := "SlotlessDatasource", tag := "slotless"
    takesAssets := false, slot := .none },
  { id := "sealed", typeName := "SealedDatasource", tag := "sealed", assets := ["ParquetAsset"]
    takesAssets := false, slot := .refuses "sealed" },
  { id := "untagged", typeName := "UntaggedDatasource", tag := "", assets := ["FileAsset"] },
  { id := "badassets", typeName := "BadAssetsDatasource", tag := "badassets"
    assets := ["ParquetAsset", "UntaggedAsset"] },
  { id := "shadow", typeName := "ShadowDatasource", tag := "csv", assets := ["ParquetAsset"] },
  { id := "strict", typeName := "StrictDatasource", tag := "strict"
    fields := [
      field "port" "u16", field "name" "str", fieldWith "tags" "list[str]" "[]",
      field "kwargs" "dict", fieldWith "type" "str" "\"strict\""]
    assets := ["TableAsset", "AliasAsset", "ClashAsset"]
    data := [
      { name := "name", shape := .text },
      { name := "port", shape := .int .u16 },
      { name := "tags", shape := .list .text, presence := .defaulted (.list []) }]
    strict := true },
  { id := "declared", typeName := "DeclaredDatasource", tag := "declared", assets := ["FileAsset"]
    declared := [("add_file_asset", declaredAddFile)]
    slot := .none }]

def firstKind : Nat := firstNamed + assetParts.length

def kinds : List (String × SourceKind SampleSource) :=
  kindParts.mapIdx fun i parts => (parts.id, parts.kind (firstKind + i))

def kind? (id : String) : Option (SourceKind SampleSource) := kinds.lookup id

/-- The plugins, as they were collected: plugin tag and id of the kind. -/
def pluginIds : List (String × String) :=
  [("pandas", "pandas"), ("strict", "strict"), ("csv", "csv"), ("aa_plugin", "declared")]

def plugins : List (Plugin SampleSource) :=
  pluginIds.filterMap fun entry => (kind? entry.2).map fun kind => { tag := entry.1, kind }

inductive Build where
  /-- A datasource of a number, whatever the fields. -/
  | numbered (number : Nat)
  /-- A datasource of a kind, decoded from the fields. -/
  | kind (kind : SourceKind SampleSource)

structure FactoryPlan where
  /-- What it builds; without this it fails. -/
  build : Option Build := none
  /-- The reason with which it always fails. -/
  failure : Option String := none
  /-- The name it gives, whatever name is asked for. -/
  rename : Option String := none
  slot : Slot := .keeps
  takesAssets : Bool := true

namespace FactoryPlan

def run (plan : FactoryPlan) (asked : String) (fields : Fields) : Except CallError SampleSource :=
  let name := plan.rename.getD asked
  match plan.failure, plan.build with
  | some reason, _ => .error (.host (.noValidator reason))
  | none, none => .error (.host (.noValidator ""))
  | none, some (.numbered number) =>
    .ok
      { type := { number, name := s!"Numbered{number}" }
        name
        data := fields
        number := some number
        takesAssets := plan.takesAssets
        slot := plan.slot }
  | none, some (.kind kind) =>
    match kind.decode (fields.insert "name" (.text name)) with
    | .ok built => .ok built
    | .error cause => .error (.undecodable "custom" name cause)

def factory (plan : FactoryPlan) (id : ObjectId) : Factory SampleSource :=
  { id, build := fun asked fields => .done (plan.run asked fields) }

end FactoryPlan

inductive Behaviour where
  /-- Builds an asset of a type and adds it. -/
  | adds (spec : AssetSpec)
  /-- Answers a request with the fields as options, without asking the context. -/
  | echoes
  /-- Fails to add. -/
  | failsToAdd
  /-- Fails to read. -/
  | failsToRead

def Behaviour.operation (id : ObjectId) : Behaviour → Operation
  | .adds spec => .add id (Program.buildAndAdd spec)
  | .echoes => .read id fun source asset options =>
      .done (.ok { request := { source, asset := asset.getD "<none>", options } })
  | .failsToAdd => .add id fun source _ _ => .fail (.detached s!"declared:{source}")
  | .failsToRead => .read id fun source _ _ => .fail (.detached s!"declared:{source}")

end SourceRegistry.Samples
