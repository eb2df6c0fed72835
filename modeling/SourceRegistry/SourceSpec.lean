import SourceRegistry.Method.Basic

/-!
The description of a datasource type: what a registration works from.
-/

set_option autoImplicit false
set_option relaxedAutoImplicit false

namespace SourceRegistry

structure SourceSpec where
  type : TypeIdent
  tag : String
  fields : List FieldDecl := []
  /-- The asset types it offers, in order of declaration. -/
  assets : List AssetSpec := []
  /-- The methods it declares itself. -/
  declared : Methods := .empty

namespace SourceSpec

def declare (spec : SourceSpec) (name : String) (method : Method) : SourceSpec :=
  { spec with declared := spec.declared.put name method }

def inspect (spec : SourceSpec) : Text.Inspect :=
  .closed "DatasourceType"
    [("key", spec.type.inspect),
      ("tag", .text spec.tag),
      ("asset_types", .list (spec.assets.map AssetSpec.inspect)),
      ("declared", .texts spec.declared.names)]

end SourceSpec

end SourceRegistry
