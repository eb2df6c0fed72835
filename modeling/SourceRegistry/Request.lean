import SourceRegistry.Value.Schema

/-!
Requests for a batch of data from one asset, and what a host hands back for one.
-/

set_option autoImplicit false
set_option relaxedAutoImplicit false

namespace SourceRegistry

structure Request where
  source : String
  asset : String
  options : Fields := []

structure Validator where
  request : Request

namespace Request

def expected : String := "struct BatchRequest"

def schema : Schema :=
  { fields := [
      { name := "datasource_name", shape := .text },
      { name := "data_asset_name", shape := .text },
      { name := "options", shape := .map, presence := .defaulted (.record []) }] }

private def textOf (fields : Fields) (name : String) : String :=
  ((fields.get? name).bind Value.text?).getD ""

private def recordOf (fields : Fields) (name : String) : Fields :=
  match fields.get? name with
  | some (.record entries) => entries
  | _ => []

def ofFields (fields : Fields) : Request :=
  { source := textOf fields "datasource_name"
    asset := textOf fields "data_asset_name"
    options := recordOf fields "options" }

/-- Pairs the values of a list with the fields of a written request, in order. -/
def entriesOfList (values : List Value) : Fields := (schema.fields.map (·.name)).zip values

/-- Decodes a request: a record, or a list of its fields in order of which the last may be left
out. -/
def ofValue : Value → Except DecodeError Request
  | .record entries => do
    let decoded ← schema.decode entries
    return ofFields decoded
  | .list values => do
    let decoded ← (entriesOfList values).foldlM schema.decodeEntry []
    if values.length < 2 then
      .error (.wrongLength values.length (expected ++ " with 3 elements"))
    else if values.length > 3 then
      .error (.wrongLength values.length "fewer elements in array")
    else
      return ofFields decoded
  | value => .error (.wrongType value.found expected)

end Request

end SourceRegistry
