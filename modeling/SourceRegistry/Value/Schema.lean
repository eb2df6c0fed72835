import SourceRegistry.Decimal.Layout
import SourceRegistry.Text.Quoted
import SourceRegistry.Value.Basic

/-!
Shapes of records and the decoding of fields against them.  Entries are visited in the order of
their names and the first that does not fit decides the error; fields that are absent are looked at
afterwards, in the order of their declaration.
-/

set_option autoImplicit false
set_option relaxedAutoImplicit false

namespace SourceRegistry

open SourceRegistry.Text (quoted)

inductive Found where
  | null
  | bool (b : Bool)
  | integer (n : Int)
  | number (digits : String)
  | text (s : String)
  | sequence
  | map
  deriving DecidableEq, Repr

def Found.message : Found → String
  | .null => "null"
  | .bool b => s!"boolean `{b}`"
  | .integer n => s!"integer `{n}`"
  | .number digits => s!"floating point `{digits}`"
  | .text s => "string " ++ quoted s
  | .sequence => "sequence"
  | .map => "map"

def Value.found : Value → Found
  | .null => .null
  | .bool b => .bool b
  | .int n => .integer n
  | .float x => .number (Decimal.Layout.data.float x)
  | .text s => .text s
  | .list _ => .sequence
  | .record _ => .map

inductive DecodeError where
  | wrongType (found : Found) (expected : String)
  | outOfRange (n : Int) (expected : String)
  | wrongLength (length : Nat) (expected : String)
  | missing (field : String)
  | unknown (field : String) (known : List String)
  deriving DecidableEq, Repr

def choiceText (names : List String) : String :=
  match names.map fun name => s!"`{name}`" with
  | [one] => one
  | [one, other] => s!"{one} or {other}"
  | several => "one of " ++ ", ".intercalate several

def DecodeError.message : DecodeError → String
  | .wrongType found expected => "invalid type: " ++ found.message ++ ", expected " ++ expected
  | .outOfRange n expected => s!"invalid value: integer `{n}`, expected {expected}"
  | .wrongLength length expected => s!"invalid length {length}, expected {expected}"
  | .missing field => s!"missing field `{field}`"
  | .unknown field [] => s!"unknown field `{field}`, there are no fields"
  | .unknown field known => s!"unknown field `{field}`, expected " ++ choiceText known

structure IntRange where
  name : String
  low : Int
  high : Int

def IntRange.u8 : IntRange := ⟨"u8", 0, 0xff⟩
def IntRange.u16 : IntRange := ⟨"u16", 0, 0xffff⟩
def IntRange.i64 : IntRange := ⟨"i64", -0x8000000000000000, 0x7fffffffffffffff⟩

inductive Shape where
  | text
  | bool
  | int (range : IntRange)
  | list (item : Shape)
  | map

namespace Shape

def expected : Shape → String
  | .text => "a string"
  | .bool => "a boolean"
  | .int range => range.name
  | .list _ => "a sequence"
  | .map => "a map"

/-- Decodes a value: whole numbers must be in range, and a floating-point number is never one. -/
def decode : Shape → Value → Except DecodeError Value
  | .text, .text s => .ok (.text s)
  | .bool, .bool b => .ok (.bool b)
  | .int range, .int n =>
    if range.low ≤ n ∧ n ≤ range.high then .ok (.int n) else .error (.outOfRange n range.name)
  | .list item, .list values => do
    let decoded ← values.mapM item.decode
    .ok (.list decoded)
  | .map, .record entries => .ok (.record entries)
  | shape, value => .error (.wrongType value.found shape.expected)

end Shape

inductive Presence where
  | required
  /-- May be absent; null counts as absent. -/
  | optional
  /-- May be absent and then has a value of its own; null is a value like any other. -/
  | defaulted (value : Value)

structure FieldShape where
  name : String
  shape : Shape
  presence : Presence := .required

def FieldShape.decode (field : FieldShape) (value : Value) : Except DecodeError Value :=
  match field.presence, value with
  | .optional, .null => .ok .null
  | _, value => field.shape.decode value

def FieldShape.absent (field : FieldShape) : Except DecodeError Value :=
  match field.presence with
  | .required => .error (.missing field.name)
  | .optional => .ok .null
  | .defaulted value => .ok value

/-- The fields of a record; a strict one refuses all others. -/
structure Schema where
  fields : List FieldShape
  strict : Bool := false

namespace Schema

def decodeEntry (schema : Schema) (decoded : Fields) (entry : String × Value) :
    Except DecodeError Fields :=
  match schema.fields.find? (·.name == entry.1) with
  | some field => do
    let value ← field.decode entry.2
    .ok (decoded.insert entry.1 value)
  | none =>
    if schema.strict then .error (.unknown entry.1 (schema.fields.map (·.name))) else .ok decoded

def complete (decoded : Fields) (field : FieldShape) : Except DecodeError Fields :=
  if decoded.contains field.name then .ok decoded
  else do
    let value ← field.absent
    .ok (decoded.insert field.name value)

def decode (schema : Schema) (fields : Fields) : Except DecodeError Fields := do
  let decoded ← fields.foldlM schema.decodeEntry []
  schema.fields.foldlM complete decoded

end Schema

end SourceRegistry
