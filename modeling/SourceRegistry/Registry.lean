import SourceRegistry.Catalog
import SourceRegistry.Method.Generated
import SourceRegistry.Settings.Basic

/-!
Registries: settings and the catalog committed so far.  A registration is checked and staged as a
whole; it either commits one datasource type with its asset types, methods and factory, or changes
nothing.
-/

set_option autoImplicit false
set_option relaxedAutoImplicit false

namespace SourceRegistry

structure Registry (σ : Type) where
  settings : Settings := {}
  catalog : Catalog σ := {}

structure Registration (σ : Type) where
  spec : SourceSpec
  factory : Factory σ
  /-- The factory was derived from the type. -/
  derived : Bool := false

structure Staging where
  assets : TagTable.Draft
  methods : Methods

namespace Staging

/-- Stages one asset type and its generated methods.  Private types are passed over. -/
def stage (source : SourceSpec) (ephemeral : String) (round : Nat) (staging : Staging)
    (asset : AssetSpec) : Except RegistrationError Staging :=
  if asset.isPrivate then .ok staging
  else
    match asset.tag with
    | none => .error (.badAsset source.type.name asset.type.name (.untagged asset.type.name))
    | some tag =>
      match staging.assets.set asset.type tag with
      | .error cause => .error (.badAsset source.type.name asset.type.name (.conflict cause))
      | .ok assets =>
        let methods := Method.bindGenerated source asset tag ephemeral round staging.methods
        .ok { assets, methods }

def ofSpec (source : SourceSpec) (ephemeral : String) (round : Nat) (known : TagTable) :
    Except RegistrationError Staging :=
  source.assets.foldlM (stage source ephemeral round)
    { assets := known.draft, methods := source.declared }

end Staging

def SourceSpec.factorySignature (spec : SourceSpec) : Signature :=
  (((Signature.empty.positional "name" "str").varKeyword "kwargs").returning
    spec.type.name).mergeFields spec.fields ["type"]

namespace Registry

variable {σ : Type}

def empty : Registry σ := {}

/-- An empty registry with given settings, which are validated first. -/
def withSettings (settings : Settings) : Except SettingsError (Registry σ) := do
  settings.validate
  return { settings }

def factories (r : Registry σ) : List String := r.catalog.factoryNames

def binding? (r : Registry σ) (name : String) : Option (Binding σ) := r.catalog.factory? name

def round (r : Registry σ) : Nat := r.catalog.factories.size

/-- Tells whether a binding already is what a registration asks for: the same type under the same
tag, with both factories derived or both one function object. -/
def repeats (b : Binding σ) (reg : Registration σ) : Bool :=
  b.type.same reg.spec.type && b.tag == reg.spec.tag &&
    ((b.derived && reg.derived) || b.factory.id == reg.factory.id)

/-- The catalog after a registration that found nothing in its way so far. -/
def commit (r : Registry σ) (reg : Registration σ) : Except RegistrationError (Catalog σ) := do
  let spec := reg.spec
  let known := (r.catalog.assetsOf? spec.type).getD {}
  let staging ← Staging.ofSpec spec r.settings.ephemeralAsset r.round known
  match r.catalog.sources.draft.set spec.type spec.tag with
  | .error cause => .error (.conflict spec.type.name spec.tag cause)
  | .ok sources =>
    return {
      sources := sources.commit
      assets := r.catalog.assets.insert spec.type.number staging.assets.commit
      factories := r.catalog.factories.put (factoryName spec.tag) {
        name := factoryName spec.tag
        tag := spec.tag
        type := spec.type
        factory := reg.factory
        derived := reg.derived
        methods := staging.methods
        signature := spec.factorySignature } }

/-- Registers a datasource type with its asset types, methods and factory, all or nothing. -/
def register (r : Registry σ) (reg : Registration σ) : Except RegistrationError (Registry σ) :=
  if reg.spec.tag = "" then .error (.untagged reg.spec.type.name)
  else
    match r.binding? (factoryName reg.spec.tag) with
    | some bound =>
      if r.settings.repeats = .ignoreIdentical ∧ repeats bound reg = true then .ok r
      else .error (.factoryExists reg.spec.tag (factoryName reg.spec.tag))
    | none => do
      let catalog ← r.commit reg
      return { r with catalog }

/-- The registration of a kind with the factory derived from it.  The function object is a new one:
no committed registration has made one in the same round. -/
def registrationOf (r : Registry σ) (kind : SourceKind σ) : Registration σ :=
  { spec := kind.spec, factory := kind.factory (.made r.round "factory"), derived := true }

def registerKind (r : Registry σ) (kind : SourceKind σ) : Except RegistrationError (Registry σ) :=
  r.register (r.registrationOf kind)

def inspect (r : Registry σ) : Text.Inspect :=
  .closed "Registry" [("config", r.settings.inspect), ("factories", .texts r.factories)]

end Registry

end SourceRegistry
