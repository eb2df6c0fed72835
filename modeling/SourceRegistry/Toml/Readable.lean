import SourceRegistry.Toml.Scalar

/-!
Documents that can be read in full: every number has a value in its range, and every table that
stands for a date holds one.
-/

set_option autoImplicit false
set_option relaxedAutoImplicit false

namespace SourceRegistry.Toml

def dateKey : String := "$__toml_private_datetime"

def Item.isDateText : Item → Bool
  | .text s => isMoment s.toList
  | _ => false

/-- Whether a table stands for a date and is readable as such.  It does if the name of a date is the
least of its names; what else it holds does not count then. -/
def Entries.asDate? (entries : Entries) : Option Bool :=
  if entries.all fun entry => decide (dateKey ≤ entry.1) then
    (entries.lookup dateKey).map Item.isDateText
  else none

mutual

def Item.isReadable : Item → Bool
  | .outOfRange => false
  | .array items => itemsReadable items
  | .table _ entries => (Entries.asDate? entries).getD (entriesReadable entries)
  | .tables tables => tablesReadable tables
  | _ => true

def itemsReadable : List Item → Bool
  | [] => true
  | item :: rest => item.isReadable && itemsReadable rest

def entriesReadable : List (String × Item) → Bool
  | [] => true
  | (_, item) :: rest => item.isReadable && entriesReadable rest

def tablesReadable : List (List (String × Item)) → Bool
  | [] => true
  | entries :: rest =>
    (Entries.asDate? entries).getD (entriesReadable entries) && tablesReadable rest

end

def Entries.areReadable (entries : Entries) : Bool := entriesReadable entries

end SourceRegistry.Toml
