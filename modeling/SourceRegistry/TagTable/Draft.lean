import SourceRegistry.TagTable.Basic

/-!
Drafts: entries staged over a tag table.  A draft answers as if its entries were in the table; the
table itself changes only when the draft is committed, and then by all of them at once.
-/

set_option autoImplicit false
set_option relaxedAutoImplicit false

namespace SourceRegistry.TagTable

structure Draft where
  base : TagTable
  staged : TagTable := {}

def draft (t : TagTable) : Draft := { base := t }

namespace Draft

/-- Stages an entry that conflicts with no committed and no staged one. -/
def set (d : Draft) (type : TypeIdent) (tag : String) : Except TagError Draft := do
  d.base.checkVacant type tag
  let staged ← d.staged.set type tag
  return { d with staged }

/-- The type under a tag: a staged one first. -/
def typeOf (d : Draft) (tag : String) : Except TagError TypeIdent :=
  match d.staged.typeOf tag with
  | .ok type => .ok type
  | .error _ => d.base.typeOf tag

def tagOf (d : Draft) (type : TypeIdent) : Except TagError String :=
  match d.staged.tagOf type with
  | .ok tag => .ok tag
  | .error _ => d.base.tagOf type

def stagedSize (d : Draft) : Nat := d.staged.size

def commit (d : Draft) : TagTable :=
  d.staged.entries.foldl (fun table entry => table.append entry.2 entry.1) d.base

private theorem entries_foldl_append (staged : List (String × TypeIdent)) (t : TagTable) :
    (staged.foldl (fun table entry => table.append entry.2 entry.1) t).entries =
      t.entries ++ staged := by
  induction staged generalizing t with
  | nil => simp
  | cons entry rest ih => simp [ih]

theorem entries_commit (d : Draft) : d.commit.entries = d.base.entries ++ d.staged.entries :=
  entries_foldl_append d.staged.entries d.base

end Draft

end SourceRegistry.TagTable
