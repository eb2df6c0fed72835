import SourceRegistry.SourceSpec

/-!
The methods that a registration generates for a public asset type of a datasource: one that builds
and adds an asset, and one that builds and adds it and then asks the context for a validator.
-/

set_option autoImplicit false
set_option relaxedAutoImplicit false

namespace SourceRegistry

namespace Method

def addName (tag : String) : String := s!"add_{tag}_asset"

def readName (tag : String) : String := s!"read_{tag}"

def addSignature (asset : AssetSpec) : Signature :=
  (((Signature.empty.positional "name" "str").varKeyword "kwargs").returning
    asset.type.name).mergeFields asset.fields ["type"]

def readSignature (asset : AssetSpec) : Signature :=
  (((Signature.empty.optionalPositional "asset_name" "str | None" "None").varKeyword
    "kwargs").returning "Validator").mergeFields asset.fields ["type"]

/-- The name a read builds its asset under: the given one, unless it is missing or empty. -/
def readTarget (ephemeral : String) (given : Option String) : String :=
  (given.filter (· != "")).getD ephemeral

/-- What a generated read does: the add, then one question to the context. -/
def readProgram (asset : AssetSpec) (ephemeral source : String) (given : Option String)
    (fields : Fields) : Program Validator :=
  (Program.buildAndAdd asset source (readTarget ephemeral given) fields).andThen
    (Program.askFor source)

def generatedAdd (round : Nat) (tag : String) (asset : AssetSpec) : Method :=
  { operation := .add (.made round (addName tag)) (Program.buildAndAdd asset)
    signature := addSignature asset
    origin := .generated }

def generatedRead (round : Nat) (tag : String) (asset : AssetSpec) (ephemeral : String) : Method :=
  { operation := .read (.made round (readName tag)) (readProgram asset ephemeral)
    signature := readSignature asset
    origin := .generated }

/-- Adds the generated methods of an asset type to a table, unless the datasource type declares the
add method of that tag itself. -/
def bindGenerated (source : SourceSpec) (asset : AssetSpec) (tag ephemeral : String) (round : Nat)
    (table : Methods) : Methods :=
  if source.declared.contains (addName tag) then table
  else
    (table.put (addName tag) (generatedAdd round tag asset)).put (readName tag)
      (generatedRead round tag asset ephemeral)

end Method

end SourceRegistry
