import Std.Data.TreeMap
import SourceRegistry.TypeIdent

/-!
A two-way table of tags and types: every tag names one type and every type carries one tag.  Entries
keep the order in which they came in; two index maps lead from a tag and from a type's number to the
place of its entry.
-/

set_option autoImplicit false
set_option relaxedAutoImplicit false

namespace SourceRegistry

inductive TagError where
  | tagTaken (tag : String) (holder : TypeIdent)
  | typeTaken (type : TypeIdent) (tag : String)
  | unknown (label : String)
  | alreadyPresent (tags : List String)
  deriving DecidableEq, Repr

def TagError.message : TagError → String
  | .tagTaken tag holder => s!"`{tag}` already set (mapped to `{holder.name}`)"
  | .typeTaken type tag => s!"`{type.name}` already set (mapped to `{tag}`)"
  | .unknown label => s!"`{label}` not found"
  | .alreadyPresent tags => "items are already present: " ++ Text.quotedList tags

/-- Tags and types in order of entry, with an index from each side. -/
structure TagTable where
  entries : List (String × TypeIdent) := []
  byTag : Std.TreeMap String Nat := {}
  byType : Std.TreeMap Nat Nat := {}

namespace TagTable

def empty : TagTable := {}

instance : Inhabited TagTable := ⟨empty⟩

def entryOfTag? (t : TagTable) (tag : String) : Option (String × TypeIdent) :=
  t.byTag[tag]?.bind (t.entries[·]?)

def entryOfType? (t : TagTable) (type : TypeIdent) : Option (String × TypeIdent) :=
  t.byType[type.number]?.bind (t.entries[·]?)

def typeOf (t : TagTable) (tag : String) : Except TagError TypeIdent :=
  match t.entryOfTag? tag with
  | some entry => .ok entry.2
  | none => .error (.unknown tag)

def tagOf (t : TagTable) (type : TypeIdent) : Except TagError String :=
  match t.entryOfType? type with
  | some entry => .ok entry.1
  | none => .error (.unknown type.name)

def containsTag (t : TagTable) (tag : String) : Bool := t.byTag.contains tag

def containsType (t : TagTable) (type : TypeIdent) : Bool := t.byType.contains type.number

def tags (t : TagTable) : List String := t.entries.map Prod.fst

def size (t : TagTable) : Nat := t.entries.length

def isEmpty (t : TagTable) : Bool := t.entries.isEmpty

/-- The given tags that are entered, in the given order. -/
def intersection (t : TagTable) (tags : List String) : List String := tags.filter t.containsTag

def refuseKnown (t : TagTable) (tags : List String) : Except TagError Unit :=
  match t.intersection tags with
  | [] => .ok ()
  | present => .error (.alreadyPresent present)

/-- Refuses an entry whose tag is taken, or else whose type is. -/
def checkVacant (t : TagTable) (type : TypeIdent) (tag : String) : Except TagError Unit :=
  match t.entryOfTag? tag with
  | some entry => .error (.tagTaken tag entry.2)
  | none =>
    match t.entryOfType? type with
    | some entry => .error (.typeTaken type entry.1)
    | none => .ok ()

/-- Appends an entry without asking whether it is vacant. -/
def append (t : TagTable) (type : TypeIdent) (tag : String) : TagTable :=
  { entries := t.entries ++ [(tag, type)]
    byTag := t.byTag.insert tag t.entries.length
    byType := t.byType.insert type.number t.entries.length }

@[simp] theorem entries_append (t : TagTable) (type : TypeIdent) (tag : String) :
    (t.append type tag).entries = t.entries ++ [(tag, type)] := rfl

def set (t : TagTable) (type : TypeIdent) (tag : String) : Except TagError TagTable := do
  t.checkVacant type tag
  return t.append type tag

theorem set_eq_ok_iff {t t' : TagTable} {type : TypeIdent} {tag : String} :
    t.set type tag = .ok t' ↔ t.checkVacant type tag = .ok () ∧ t' = t.append type tag := by
  unfold set
  cases t.checkVacant type tag with
  | error cause => simp [bind, Except.bind]
  | ok vacant =>
      simp only [bind, Except.bind, pure, Except.pure, Except.ok.injEq, true_and]
      exact eq_comm

end TagTable

end SourceRegistry
