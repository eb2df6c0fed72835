import SourceRegistry.Toml.Item

/-!
Documents put together from their statements: which tables a header or a dotted key may go into, and
which names are taken.
-/

set_option autoImplicit false
set_option relaxedAutoImplicit false

namespace SourceRegistry.Toml

/-- Tells whether a path may go through a table: a dotted key only through tables that no header
defined, and nothing through a table written out in place. -/
def TableKind.allows (dotted : Bool) : TableKind → Bool
  | .passed => true
  | .dotted => true
  | .headed => !dotted
  | .inPlace => false

/-- How a table counts after a path went through it: one that a dotted key passes is from then on a
table of dotted keys. -/
def TableKind.crossed (dotted : Bool) (kind : TableKind) : TableKind :=
  if dotted then .dotted else kind

/-- Changes the table at the end of a path, making the tables on the way that are not there.  Of an
array of tables the last is meant. -/
def descend (dotted : Bool) (change : TableKind → Entries → Option Entries) :
    List String → TableKind → Entries → Option Entries
  | [], kind, entries => change kind entries
  | key :: path, _, entries =>
    match entries.lookup key with
    | none =>
      let kind := TableKind.passed.crossed dotted
      (descend dotted change path kind []).map fun sub => entries.put key (.table kind sub)
    | some (.table kind sub) =>
      if kind.allows dotted then
        let kind := kind.crossed dotted
        (descend dotted change path kind sub).map fun sub => entries.put key (.table kind sub)
      else none
    | some (.tables items) =>
      (descend dotted change path .headed (items.getLast?.getD [])).map fun sub =>
        entries.put key (.tables (items.dropLast ++ [sub]))
    | some _ => none

def addItem (name : String) (item : Item) (entries : Entries) : Option Entries :=
  if (entries.lookup name).isSome then none else some (entries.put name item)

/-- Adds an item under a dotted key.  The table it goes into has to be one of dotted keys, unless
the key has one part only: no dotted key adds to the last table of an array. -/
def assign (path : List String) (item : Item) (kind : TableKind) (entries : Entries) :
    Option Entries :=
  match path.reverse with
  | [] => none
  | name :: before =>
    descend true
      (fun last entries =>
        if before.isEmpty || last == .dotted then addItem name item entries else none)
      before.reverse kind entries

/-- Defines a table by its header: a new one, or one that was only passed so far. -/
def defineTable (name : String) (entries : Entries) : Option Entries :=
  match entries.lookup name with
  | none => some (entries.put name (.table .headed []))
  | some (.table .passed sub) => some (entries.put name (.table .headed sub))
  | some _ => none

def extendTables (name : String) (entries : Entries) : Option Entries :=
  match entries.lookup name with
  | none => some (entries.put name (.tables [[]]))
  | some (.tables items) => some (entries.put name (.tables (items ++ [[]])))
  | some _ => none

/-- A document that is being put together, and the path of the table that keys go into. -/
structure Draft where
  entries : Entries := []
  current : List String := []

/-- Adds a header, with the change that it makes to the table that holds its last part. -/
def Draft.head (d : Draft) (path : List String) (change : String → Entries → Option Entries) :
    Option Draft :=
  match path.reverse with
  | [] => none
  | name :: before =>
    (descend false (fun _ entries => change name entries) before.reverse .headed d.entries).map
      fun entries => { entries, current := path }

def Draft.add (d : Draft) : Statement → Option Draft
  | .header path => d.head path defineTable
  | .arrayHeader path => d.head path extendTables
  | .assign path item =>
    (descend false (assign path item) d.current .headed d.entries).map fun entries =>
      { d with entries }

def document? (statements : List Statement) : Option Entries :=
  (statements.foldlM Draft.add {}).map Draft.entries

def tableInPlace? (entries : List (List String × Item)) : Option Item :=
  (entries.foldlM (fun table entry => assign entry.1 entry.2 .headed table) ([] : Entries)).map
    (Item.table .inPlace)

end SourceRegistry.Toml
