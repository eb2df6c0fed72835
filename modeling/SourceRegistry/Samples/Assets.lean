import SourceRegistry.Asset

/-!
Sample asset types: public and private ones, with and without tags, lenient and strict, with names
and requests of their own, and with declared fields that clash with one another.
-/

set_option autoImplicit false
set_option relaxedAutoImplicit false

namespace SourceRegistry.Samples

/-- The lowest number of a type with a fixed name; those below are free for numbered types. -/
def firstNamed : Nat := 64

def field (name type : String) : FieldDecl := { name, type }

def fieldWith (name type default : String) : FieldDecl :=
  { name, type, default := some default }

def textOf (data : Fields) (name : String) : Option String :=
  (data.get? name).bind Value.text?

/-- An asset type with an id of its own; several types may share a name. -/
structure AssetSample where
  id : String
  spec : AssetSpec

structure AssetParts where
  id : String
  typeName : String
  tag : Option String := none
  fields : List FieldDecl := []
  /-- The fields it is decoded from, apart from its name. -/
  data : List FieldShape := []
  strict : Bool := false
  /-- The field that holds its name, where it is not `name`. -/
  nameField : String := "name"
  /-- The request for its data, where it is not the default one. -/
  request : Fields → String → Option Request := fun _ _ => none

namespace AssetParts

def schema (parts : AssetParts) : Schema :=
  { fields := { name := "name", shape := .text } :: parts.data, strict := parts.strict }

def asset (parts : AssetParts) (type : TypeIdent) (data : Fields) : Asset :=
  let name := ((textOf data parts.nameField).or (textOf data "name")).getD ""
  { type, data, name
    request := fun source => (parts.request data source).getD { source, asset := name } }

def sample (parts : AssetParts) (number : Nat) : AssetSample :=
  let type : TypeIdent := { number, name := parts.typeName }
  { id := parts.id
    spec :=
      { type
        declaredTag := parts.tag
        fields := parts.fields
        decode := fun fields => (parts.schema.decode fields).map (parts.asset type) } }

end AssetParts

/-- The request for a table: its extra options with the number of rows among them. -/
def tableRequest (data : Fields) (source : String) : Option Request :=
  let options := match data.get? "extra" with
    | some (.record entries) => entries
    | _ => []
  let rows := (data.get? "rows").getD .null
  some
    { source
      asset := "table:" ++ (textOf data "name").getD ""
      options := Fields.insert options "rows" rows }

def plainAsset (typeName : String) (tag : Option String) : AssetParts :=
  { id := typeName, typeName, tag }

def assetParts : List AssetParts := [
  { id := "FileAsset", typeName := "FileAsset", tag := some "file"
    fields := [field "type" "str", field "path" "str", fieldWith "sep" "str | None" "None"]
    data := [
      { name := "path", shape := .text },
      { name := "sep", shape := .text, presence := .optional }] },
  plainAsset "_PrivateAsset" none,
  { plainAsset "_PrivateFileAsset" (some "file") with fields := [field "path" "str"] },
  plainAsset "ParquetAsset" (some "parquet"),
  plainAsset "ShadowFileAsset" (some "file"),
  plainAsset "UntaggedAsset" none,
  plainAsset "EmptyTagAsset" (some ""),
  plainAsset "DataFrameAsset" (some "dataframe"),
  { id := "UnicodeAsset", typeName := "UnicodeAsset", tag := some "été 🚗\"q\"\n"
    fields := [field "größe" "int", fieldWith "日本" "str" "\"語\""]
    data := [{ name := "größe", shape := .int .i64, presence := .optional }] },
  { id := "ClashAsset", typeName := "ClashAsset", tag := some "clash"
    fields := [
      field "name" "str", field "asset_name" "str", field "kwargs" "dict", field "dup" "int",
      fieldWith "dup" "str" "1", fieldWith "type" "str" "\"clash\"", fieldWith "Type" "str" "0"]
    data := [{ name := "dup", shape := .int .i64, presence := .optional }] },
  { id := "TableAsset", typeName := "TableAsset", tag := some "table"
    fields := [
      field "rows" "u8", fieldWith "flags" "list[bool]" "[]",
      fieldWith "extra" "dict | None" "None"]
    data := [
      { name := "rows", shape := .int .u8 },
      { name := "flags", shape := .list .bool, presence := .defaulted (.list []) },
      { name := "extra", shape := .map, presence := .optional }]
    strict := true
    request := tableRequest },
  { id := "AliasAsset", typeName := "AliasAsset", tag := some "alias"
    fields := [fieldWith "alias" "str | None" "None"]
    data := [{ name := "alias", shape := .text, presence := .optional }]
    nameField := "alias" },
  { id := "GenericAsset16", typeName := "GenericAsset", tag := some "generic_u16"
    fields := [fieldWith "value" "u16" "None"]
    data := [{ name := "value", shape := .int .u16, presence := .optional }] },
  { id := "GenericAssetString", typeName := "GenericAsset", tag := some "generic_string"
    fields := [fieldWith "value" "String" "None"]
    data := [{ name := "value", shape := .text, presence := .optional }] }]

def assetSamples : List AssetSample :=
  assetParts.mapIdx fun i parts => parts.sample (firstNamed + i)

def assetSpec? (id : String) : Option AssetSpec :=
  (assetSamples.find? (·.id == id)).map (·.spec)

def assetId (asset : Asset) : String :=
  ((assetSamples.find? (·.spec.type.same asset.type)).map (·.id)).getD asset.type.name

end SourceRegistry.Samples
