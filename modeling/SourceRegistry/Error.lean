import SourceRegistry.Suggestion
import SourceRegistry.TagTable.Basic
import SourceRegistry.Value.Schema

/-!
What can go wrong when types are registered, factories resolved and methods called, by cause, with
the wording of every cause.
-/

set_option autoImplicit false
set_option relaxedAutoImplicit false

namespace SourceRegistry

open SourceRegistry.Text (quotedList)

inductive AssetSpecError where
  | untagged (type : String)
  | conflict (cause : TagError)
  deriving DecidableEq, Repr

def AssetSpecError.message : AssetSpecError → String
  | .untagged type => s!"`{type}` `type` field must be assigned and cannot be empty"
  | .conflict cause => cause.message

inductive RegistrationError where
  | untagged (type : String)
  | factoryExists (tag factory : String)
  | badAsset (source asset : String) (cause : AssetSpecError)
  | conflict (source tag : String) (cause : TagError)
  deriving DecidableEq, Repr

def RegistrationError.message : RegistrationError → String
  | .untagged type => s!"`{type}` is missing a `type` attribute with an assigned string value"
  | .factoryExists tag factory => s!"'{tag}' - `sources.{factory}()` factory already exists"
  | .badAsset source asset _ =>
    s!"unable to register asset type `{source}.asset_types` -> `{asset}`"
  | .conflict source tag _ => s!"unable to register `{source}` as '{tag}'"

structure UnknownFactory where
  name : String
  /-- The names of all factories, in order of registration. -/
  known : List String
  suggestion : Option String
  deriving DecidableEq, Repr

/-- The refusal of a name when only the given ones are known. -/
def UnknownFactory.among (name : String) (known : List String) : UnknownFactory :=
  { name, known, suggestion := Suggestion.suggest name known }

def UnknownFactory.message (e : UnknownFactory) : String :=
  s!"No factory {e.name} in " ++ quotedList e.known ++
    (match e.suggestion with
      | some name => s!"; did you mean `{name}`?"
      | none => "")

inductive AssetError where
  | duplicate (name : String)
  | rejected (reason : String)
  deriving DecidableEq, Repr

def AssetError.message : AssetError → String
  | .duplicate name => s!"asset `{name}` already exists"
  | .rejected reason => s!"asset rejected: {reason}"

inductive HostError where
  | nameTaken (name : String)
  | noValidator (reason : String)
  deriving DecidableEq, Repr

def HostError.message : HostError → String
  | .nameTaken name => s!"a datasource named `{name}` already exists"
  | .noValidator reason => s!"unable to get validator: {reason}"

inductive SlotError where
  | missing
  | rejected (reason : String)
  deriving DecidableEq, Repr

def SlotError.message : SlotError → String
  | .missing => "datasource has no context slot"
  | .rejected reason => s!"context slot rejected the reference: {reason}"

inductive CallError where
  | unknownFactory (cause : UnknownFactory)
  | reservedField (type field : String)
  | undecodable (type name : String) (cause : DecodeError)
  | wrongType (expected : TypeIdent)
  | unknownMethod (source method : String) (known : List String)
  | wrongKind (source method expected : String)
  | assetRefused (source : String) (cause : AssetError)
  | detached (source : String)
  | host (cause : HostError)
  deriving DecidableEq, Repr

def CallError.message : CallError → String
  | .unknownFactory cause => cause.message
  | .reservedField type field =>
    s!"`{field}` is set implicitly for `{type}` and cannot be passed as a field"
  | .undecodable type name _ => s!"unable to construct `{type}` named `{name}`"
  | .wrongType expected =>
    s!"factory registered for `{expected.name}` built a different datasource type"
  | .unknownMethod source method known =>
    s!"`{source}` has no method `{method}` (available: " ++ quotedList known ++ ")"
  | .wrongKind source method expected => s!"`{source}.{method}` is not a {expected} method"
  | .assetRefused source _ => s!"unable to add asset to `{source}`"
  | .detached source => s!"datasource `{source}` is not attached to a data context"
  | .host cause => cause.message

inductive DefaultError where
  | conflict (name found expected : String)
  | create (cause : CallError)
  deriving DecidableEq, Repr

def DefaultError.message : DefaultError → String
  | .conflict name found expected =>
    s!"A datasource with a legacy type already exists with the name: \"{name}\" ({found}). " ++
      "Please rename this datasource if you wish to use the default " ++
      s!"`{expected}` datasource."
  | .create cause => cause.message

end SourceRegistry
