import SourceRegistry.Text.Inspect
import SourceRegistry.Value.Schema

/-!
The settings of a registry.  All of them have defaults; none of the names may be empty.
-/

set_option autoImplicit false
set_option relaxedAutoImplicit false

namespace SourceRegistry

inductive RepeatPolicy where
  /-- Always refuse. -/
  | reject
  /-- Take a repeat of the same registration as already done; refuse anything else. -/
  | ignoreIdentical
  deriving DecidableEq, Repr

/-- The datasource that is there by default: its reserved name and the tag of its type. -/
structure DefaultSource where
  name : String := "default_pandas_datasource"
  tag : String := "pandas"
  deriving DecidableEq, Repr

structure Settings where
  repeats : RepeatPolicy := .reject
  defaultSource : DefaultSource := {}
  /-- The name of assets that are read without a name. -/
  ephemeralAsset : String := "#ephemeral_pandas_asset"
  deriving DecidableEq, Repr

namespace RepeatPolicy

def label : RepeatPolicy → String
  | .reject => "reject"
  | .ignoreIdentical => "ignore_identical"

def all : List RepeatPolicy := [.reject, .ignoreIdentical]

def ofLabel? (label : String) : Option RepeatPolicy := all.find? (·.label == label)

def inspect : RepeatPolicy → Text.Inspect
  | .reject => .atom "Reject"
  | .ignoreIdentical => .atom "IgnoreIdentical"

end RepeatPolicy

namespace Settings

/-- The settings that must not be empty, in the order in which they are looked at. -/
def required (s : Settings) : List (String × String) :=
  [("default_datasource.name", s.defaultSource.name),
    ("default_datasource.type", s.defaultSource.tag),
    ("ephemeral_asset_name", s.ephemeralAsset)]

def firstEmpty (s : Settings) : Option String :=
  (s.required.find? fun entry => entry.2 == "").map Prod.fst

def inspect (s : Settings) : Text.Inspect :=
  .closed "RegistryConfig"
    [("duplicate_policy", s.repeats.inspect),
      ("default_datasource", .closed "DefaultDatasourceConfig"
        [("name", .text s.defaultSource.name), ("type_tag", .text s.defaultSource.tag)]),
      ("ephemeral_asset_name", .text s.ephemeralAsset)]

end Settings

inductive ShapeError where
  /-- A value or a name does not fit. -/
  | decode (cause : DecodeError)
  /-- No policy has this name. -/
  | unknownPolicy (label : String)
  /-- A policy is written neither as a string nor as a table. -/
  | policyForm
  /-- A table for a policy names no policy, or several. -/
  | policyCount (several : Bool)
  /-- The table that names a policy holds something of this sort instead of an empty table. -/
  | policyValue (found : String)
  /-- The table that names a policy holds a table or an array that is not empty. -/
  | policyContent (sort : String)
  /-- A number is looked for and has no value in its range. -/
  | outOfRange
  deriving DecidableEq, Repr

def ShapeError.message : ShapeError → String
  | .decode cause => cause.message
  | .unknownPolicy label =>
    s!"unknown variant `{label}`, expected " ++ choiceText (RepeatPolicy.all.map RepeatPolicy.label)
  | .policyForm => "wanted string or table"
  | .policyCount several =>
    "wanted exactly 1 element, " ++ (if several then "more than 1 element" else "found 0 elements")
  | .policyValue found => s!"expected table, found {found}"
  | .policyContent sort => s!"expected empty {sort}"
  | .outOfRange => "number out of range"

inductive SettingsError where
  /-- The text is no document, or one that does not fit and cannot be read in full either. -/
  | malformed
  /-- The document does not have the shape of settings. -/
  | shape (cause : ShapeError)
  /-- A required setting is empty. -/
  | emptyField (field : String)
  deriving DecidableEq, Repr

def SettingsError.message : SettingsError → String
  | .malformed => "invalid registry config"
  | .shape cause => "invalid registry config: " ++ cause.message
  | .emptyField field => s!"missing required field: {field}"

def Settings.validate (s : Settings) : Except SettingsError Unit :=
  match s.firstEmpty with
  | some field => .error (.emptyField field)
  | none => .ok ()

end SourceRegistry
