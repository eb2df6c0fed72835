/-!
What a settings document holds: scalars, arrays and tables of named items.
-/

set_option autoImplicit false
set_option relaxedAutoImplicit false

namespace SourceRegistry.Toml

/-- How a table came about; this decides what may still be added to it. -/
inductive TableKind where
  /-- Named on the way to another table. -/
  | passed
  /-- Defined by a header of its own. -/
  | headed
  /-- Made by a dotted key. -/
  | dotted
  /-- Written out in place as one value. -/
  | inPlace
  deriving DecidableEq, Repr

inductive Item where
  | text (s : String)
  /-- An integer of 64 bits, the sign included. -/
  | integer (n : Int)
  | float (x : Float)
  /-- A number in an accepted form that has no value, or one out of range.  It may stand where no
  number is looked for. -/
  | outOfRange
  | boolean (b : Bool)
  | date
  | array (items : List Item)
  | table (kind : TableKind) (entries : List (String × Item))
  /-- Tables that were headed one by one under the same name. -/
  | tables (items : List (List (String × Item)))
  deriving Inhabited

/-- Named items in order of definition. -/
abbrev Entries := List (String × Item)

/-- Stores an item under a name: in place if the name is there, else at the end. -/
def Entries.put (entries : Entries) (name : String) (item : Item) : Entries :=
  if (entries.lookup name).isSome then
    entries.map fun entry => if entry.1 = name then (name, item) else entry
  else entries ++ [(name, item)]

inductive Statement where
  /-- The header of a table. -/
  | header (path : List String)
  /-- The header of one table of an array. -/
  | arrayHeader (path : List String)
  /-- An item under a key. -/
  | assign (path : List String) (item : Item)

end SourceRegistry.Toml
