import SourceRegistry.Error
import SourceRegistry.NamedList
import SourceRegistry.Request
import SourceRegistry.Signature

/-!
Data assets, the descriptions of asset types, and the shelf that keeps the assets of one datasource.
-/

set_option autoImplicit false
set_option relaxedAutoImplicit false

namespace SourceRegistry

structure Asset where
  type : TypeIdent
  /-- The fields it was decoded from, all of them, in order of their names. -/
  data : Fields
  /-- The name it is kept under. -/
  name : String
  /-- The request for its data, given the name of its datasource. -/
  request : String → Request

/-- Fields that the registry supplies itself; callers may not pass them. -/
def reservedFields : List String := ["name", "type"]

/-- Decodes a named object from the caller's fields and its name.  Reserved fields are refused
before anything is decoded. -/
def buildNamed {α : Type} (type : String) (decode : Fields → Except DecodeError α) (name : String)
    (fields : Fields) : Except CallError α :=
  match reservedFields.find? fields.contains with
  | some field => .error (.reservedField type field)
  | none =>
    match decode (fields.insert "name" (.text name)) with
    | .ok built => .ok built
    | .error cause => .error (.undecodable type name cause)

structure AssetSpec where
  type : TypeIdent
  /-- The tag as it was declared; an empty one is as good as none. -/
  declaredTag : Option String
  fields : List FieldDecl
  decode : Fields → Except DecodeError Asset

namespace AssetSpec

/-- The tag, if there is one that is not empty. -/
def tag (spec : AssetSpec) : Option String := spec.declaredTag.filter (· != "")

/-- Tells whether the type is private; private types are never registered. -/
def isPrivate (spec : AssetSpec) : Bool := spec.type.isPrivate

def build (spec : AssetSpec) (name : String) (fields : Fields) : Except CallError Asset :=
  buildNamed spec.type.name spec.decode name fields

def inspect (spec : AssetSpec) : Text.Inspect :=
  .closed "AssetType"
    [("key", spec.type.inspect), ("tag", .option (spec.declaredTag.map .text))]

end AssetSpec

/-- The assets of a datasource, each under its own name, in the order in which they came in. -/
structure AssetShelf where
  assets : NamedList Asset := .empty

namespace AssetShelf

def empty : AssetShelf := {}

instance : Inhabited AssetShelf := ⟨empty⟩

def add (shelf : AssetShelf) (asset : Asset) : Except AssetError AssetShelf :=
  if shelf.assets.contains asset.name then .error (.duplicate asset.name)
  else .ok { assets := shelf.assets.put asset.name asset }

def get? (shelf : AssetShelf) (name : String) : Option Asset := shelf.assets.get? name

def names (shelf : AssetShelf) : List String := shelf.assets.names

def size (shelf : AssetShelf) : Nat := shelf.assets.size

def isEmpty (shelf : AssetShelf) : Bool := shelf.assets.isEmpty

end AssetShelf

end SourceRegistry
