/-!
Dynamic values: what callers pass as fields and what built objects keep of them.  Records are lists
of named values in rising order of their names, so the order in which a record is visited does not
depend on the order in which it was written.
-/

set_option autoImplicit false
set_option relaxedAutoImplicit false

namespace SourceRegistry

inductive Value where
  | null
  | bool (b : Bool)
  | int (n : Int)
  | float (x : Float)
  | text (s : String)
  | list (items : List Value)
  | record (entries : List (String × Value))
  deriving Inhabited

/-- Named values in rising order of their names. -/
abbrev Fields := List (String × Value)

namespace Fields

def get? (fields : Fields) (name : String) : Option Value := fields.lookup name

def contains (fields : Fields) (name : String) : Bool := (fields.get? name).isSome

/-- Stores a value under a name, in the place that keeps the names in order. -/
def insert (fields : Fields) (name : String) (value : Value) : Fields :=
  match fields with
  | [] => [(name, value)]
  | (key, held) :: rest =>
    if key = name then (name, value) :: rest
    else if name < key then (name, value) :: (key, held) :: rest
    else (key, held) :: insert rest name value

def erase (fields : Fields) (name : String) : Fields :=
  fields.filter fun entry => entry.1 != name

/-- The fields of a list of pairs; of two pairs with one name the later counts. -/
def ofList (pairs : List (String × Value)) : Fields :=
  pairs.foldl (fun fields pair => insert fields pair.1 pair.2) []

theorem get?_insert (fields : Fields) (name key : String) (value : Value) :
    (fields.insert name value).get? key =
      if key = name then some value else fields.get? key := by
  induction fields with
  | nil =>
      by_cases same : key = name
      · simp [insert, get?, same]
      · have apart : (key == name) = false := by simpa using same
        simp [insert, get?, List.lookup_cons, same, apart]
  | cons entry rest ih =>
      obtain ⟨first, held⟩ := entry
      simp only [get?] at ih ⊢
      simp only [insert]
      split
      · rename_i here
        subst here
        by_cases same : key = first
        · simp [same]
        · have apart : (key == first) = false := by simpa using same
          simp [List.lookup_cons, same, apart]
      · rename_i here
        split
        · by_cases same : key = name
          · simp [same]
          · have apart : (key == name) = false := by simpa using same
            simp [List.lookup_cons, same, apart]
        · rw [List.lookup_cons, List.lookup_cons, ih]
          by_cases same : key = first
          · subst same
            simp [here]
          · have apart : (key == first) = false := by simpa using same
            simp [apart]

end Fields

def Value.text? : Value → Option String
  | .text s => some s
  | _ => none

end SourceRegistry
