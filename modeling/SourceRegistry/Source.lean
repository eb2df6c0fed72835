import SourceRegistry.SourceSpec

/-!
Datasources: what the registry asks of them, the kinds that build them from fields, and factories.
-/

set_option autoImplicit false
set_option relaxedAutoImplicit false

namespace SourceRegistry

/-- What datasources can do.  Neither taking an asset nor taking a reference to a context changes
the type of a datasource. -/
class Source (σ : Type) where
  type : σ → TypeIdent
  name : σ → String
  /-- Takes an asset; answers with the asset as it is kept. -/
  addAsset : σ → Asset → Except AssetError Asset × σ
  /-- Takes a reference to the context that the datasource belongs to. -/
  attach : σ → ContextId → Except SlotError Unit × σ
  /-- The context it holds a reference to. -/
  context : σ → Option ContextId
  type_addAsset : ∀ (s : σ) (asset : Asset), type (addAsset s asset).2 = type s
  type_attach : ∀ (s : σ) (context : ContextId), type (attach s context).2 = type s

structure Factory (σ : Type) where
  id : ObjectId
  build : String → Fields → Program σ

structure SourceKind (σ : Type) where
  spec : SourceSpec
  decode : Fields → Except DecodeError σ

namespace SourceKind

variable {σ : Type}

def build (kind : SourceKind σ) (name : String) (fields : Fields) : Except CallError σ :=
  buildNamed kind.spec.type.name kind.decode name fields

/-- What the derived factory does: it builds and does nothing else. -/
def program (kind : SourceKind σ) (name : String) (fields : Fields) : Program σ :=
  .done (kind.build name fields)

def factory (kind : SourceKind σ) (id : ObjectId) : Factory σ := { id, build := kind.program }

end SourceKind

end SourceRegistry
