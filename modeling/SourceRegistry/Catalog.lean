import SourceRegistry.Source
import SourceRegistry.TagTable.Draft

/-!
Catalogs: everything that a registry has committed.  A catalog holds the tags of datasource types,
the tags of the asset types of every datasource type, and the factories by name.
-/

set_option autoImplicit false
set_option relaxedAutoImplicit false

namespace SourceRegistry

/-- A factory as it is bound under its name. -/
structure Binding (σ : Type) where
  /-- The name that the factory is bound under. -/
  name : String
  tag : String
  type : TypeIdent
  factory : Factory σ
  /-- The factory was derived from the type and not supplied by the caller. -/
  derived : Bool
  /-- The methods of the datasources that it builds. -/
  methods : Methods
  signature : Signature

def factoryName (tag : String) : String := s!"add_{tag}"

namespace Binding

variable {σ : Type}

def doc (b : Binding σ) : String :=
  s!"Create a `{b.type.name}` datasource and attach it to the data context."

def inspect (b : Binding σ) : Text.Inspect :=
  .closed "FactoryBinding"
    [("method_name", .text b.name), ("type", b.type.inspect),
      ("signature", .text b.signature.render)]

end Binding

structure Catalog (σ : Type) where
  /-- Tags of datasource types. -/
  sources : TagTable := {}
  /-- Tags of asset types, by the number of the datasource type that offers them. -/
  assets : Std.TreeMap Nat TagTable := {}
  factories : NamedList (Binding σ) := .empty

inductive Place where
  | source
  | asset (source : TypeIdent)

structure RegisteredType where
  tag : String
  type : TypeIdent
  place : Place

namespace Catalog

variable {σ : Type}

def empty : Catalog σ := {}

/-- The asset tags of a datasource type, if it was registered. -/
def assetsOf? (c : Catalog σ) (type : TypeIdent) : Option TagTable := c.assets[type.number]?

def factory? (c : Catalog σ) (name : String) : Option (Binding σ) := c.factories.get? name

def factoryNames (c : Catalog σ) : List String := c.factories.names

def assetTypes (c : Catalog σ) (source : TypeIdent) : List RegisteredType :=
  match c.assetsOf? source with
  | none => []
  | some table => table.entries.map fun entry => ⟨entry.1, entry.2, .asset source⟩

/-- Every datasource type in order, each followed by its asset types. -/
def types (c : Catalog σ) : List RegisteredType :=
  c.sources.entries.flatMap fun entry =>
    ⟨entry.1, entry.2, .source⟩ :: c.assetTypes entry.2

end Catalog

end SourceRegistry
