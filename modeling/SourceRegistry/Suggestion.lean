/-!
Suggestions for a misspelt name: the first of the known names at the least edit distance, if that
distance is small.
-/

set_option autoImplicit false
set_option relaxedAutoImplicit false

namespace SourceRegistry.Suggestion

/-- One row of the table of distances: for every suffix of `target`, longest first, the distance
from `c` followed by the text whose row is `previous`. -/
def nextRow {α : Type} [DecidableEq α] (c : α) : List α → List Nat → List Nat
  | t :: target, here :: next :: previous =>
    match nextRow c target (next :: previous) with
    | [] => []
    | right :: row =>
      min (min (here + 1) (right + 1)) (next + if c = t then 0 else 1) :: right :: row
  | _, here :: _ => [here + 1]
  | _, [] => []

def firstRow {α : Type} : List α → List Nat
  | [] => [0]
  | _ :: target => (target.length + 1) :: firstRow target

def distanceRow {α : Type} [DecidableEq α] (target : List α) : List α → List Nat
  | [] => firstRow target
  | c :: source => nextRow c target (distanceRow target source)

/-- The least number of insertions, deletions and substitutions that turn one text into another. -/
def editDistance (source target : String) : Nat :=
  (distanceRow target.toList source.toList).headD 0

def nearest (distance : String → Nat) : List String → Option String
  | [] => none
  | name :: rest =>
    match nearest distance rest with
    | none => some name
    | some best => if distance best < distance name then some best else some name

/-- The largest distance at which a name is still suggested. -/
def reach : Nat := 3

def suggest (name : String) (known : List String) : Option String :=
  (nearest (editDistance name) known).filter fun best => decide (editDistance name best ≤ reach)

end SourceRegistry.Suggestion
