import SourceRegistry.Settings.Basic
import SourceRegistry.Toml.Readable
import SourceRegistry.Toml.Reader

/-!
Settings written as a document.  The entries of every table are visited in the order of their names
and the first that does not fit decides the error; what is absent keeps its default.  Why a document
does not fit is told only of one that can be read in full.
-/

set_option autoImplicit false
set_option relaxedAutoImplicit false

namespace SourceRegistry.Settings

open SourceRegistry.Toml (Item Entries dateKey)

/-- The sort of an item.  A date counts as a map. -/
def found : Item → Except ShapeError Found
  | .text s => .ok (.text s)
  | .integer n => .ok (.integer n)
  | .float x => .ok (.number (Decimal.Layout.settings.float x))
  | .outOfRange => .error .outOfRange
  | .boolean b => .ok (.bool b)
  | .date => .ok .map
  | .array _ => .ok .sequence
  | .tables _ => .ok .sequence
  | .table _ _ => .ok .map

def wrongType {α : Type} (item : Item) (expected : String) : Except ShapeError α := do
  let sort ← found item
  .error (.decode (.wrongType sort expected))

def decodeText : Item → Except ShapeError String
  | .text s => .ok s
  | item => wrongType item "a string"

/-- Accepts what may stand beside the name of a policy in a table: nothing but something empty. -/
def checkPolicyValue : Item → Except ShapeError Unit
  | .table _ [] => .ok ()
  | .table _ _ => .error (.policyContent "table")
  | .array [] => .ok ()
  | .array _ => .error (.policyContent "array")
  | .tables _ => .error (.policyContent "array")
  | .text _ => .error (.policyValue "string")
  | .integer _ => .error (.policyValue "integer")
  | .float _ => .error (.policyValue "float")
  | .outOfRange => .error .outOfRange
  | .boolean _ => .error (.policyValue "boolean")
  | .date => .error (.policyValue "datetime")

def decodePolicyLabel (label : String) : Except ShapeError RepeatPolicy :=
  match RepeatPolicy.ofLabel? label with
  | some policy => .ok policy
  | none => .error (.unknownPolicy label)

/-- Decodes a policy: its name, or a table with its name over an empty table. -/
def decodePolicy : Item → Except ShapeError RepeatPolicy
  | .text label => decodePolicyLabel label
  | .table _ [] => .error (.policyCount false)
  | .table _ [(label, value)] => do
    let policy ← decodePolicyLabel label
    checkPolicyValue value
    return policy
  | .table _ _ => .error (.policyCount true)
  | _ => .error .policyForm

def decodeSourceEntry (source : DefaultSource) (entry : String × Item) :
    Except ShapeError DefaultSource :=
  match entry.1 with
  | "name" => do
    let name ← decodeText entry.2
    return { source with name }
  | "type" => do
    let tag ← decodeText entry.2
    return { source with tag }
  | other => .error (.decode (.unknown other ["name", "type"]))

def inOrder (entries : Entries) : Entries := entries.mergeSort fun a b => decide (a.1 ≤ b.1)

/-- Decodes the default datasource: a table, or its name and its type in an array, where missing
items keep their defaults and further ones do not count. -/
def decodeSource : Item → Except ShapeError DefaultSource
  | .table _ entries => (inOrder entries).foldlM decodeSourceEntry {}
  | .array items => (["name", "type"].zip items).foldlM decodeSourceEntry {}
  | .tables items =>
    (["name", "type"].zip (items.map (Item.table .headed))).foldlM decodeSourceEntry {}
  | .date => decodeSourceEntry {} (dateKey, .date)
  | item => wrongType item "struct DefaultDatasourceConfig"

def names : List String := ["duplicate_policy", "default_datasource", "ephemeral_asset_name"]

def decodeEntry (settings : Settings) (entry : String × Item) : Except ShapeError Settings :=
  match entry.1 with
  | "duplicate_policy" => do
    let repeats ← decodePolicy entry.2
    return { settings with repeats }
  | "default_datasource" => do
    let defaultSource ← decodeSource entry.2
    return { settings with defaultSource }
  | "ephemeral_asset_name" => do
    let ephemeralAsset ← decodeText entry.2
    return { settings with ephemeralAsset }
  | other => .error (.decode (.unknown other names))

def ofEntries (entries : Entries) : Except ShapeError Settings :=
  (inOrder entries).foldlM decodeEntry {}

/-- Reads settings from the text of a document and validates them, with a reader of documents given. -/
def ofTextWith (read : String → Option Entries) (text : String) : Except SettingsError Settings :=
  match read text with
  | none => .error .malformed
  | some entries =>
    match ofEntries entries with
    | .error cause => .error (if entries.areReadable then .shape cause else .malformed)
    | .ok settings => do
      settings.validate
      return settings

def ofText (text : String) : Except SettingsError Settings := ofTextWith Toml.read? text

end SourceRegistry.Settings
