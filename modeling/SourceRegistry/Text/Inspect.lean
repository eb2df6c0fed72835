import SourceRegistry.Text.Quoted

/-!
Inspection texts: the structure of a value written out for a human reader, either on one line or
with every part on a line of its own.
-/

set_option autoImplicit false
set_option relaxedAutoImplicit false

namespace SourceRegistry.Text

/-- What there is to write about a value. -/
inductive Inspect where
  /-- A text that stands for itself. -/
  | atom (text : String)
  /-- Items between brackets. -/
  | list (items : List Inspect)
  /-- A name with unnamed parts. -/
  | tuple (name : String) (parts : List Inspect)
  /-- A name with named parts; an open record tells that it has more than it shows. -/
  | record (name : String) (fields : List (String × Inspect)) (isOpen : Bool)

namespace Inspect

def text (s : String) : Inspect := .atom (quoted s)

def texts (items : List String) : Inspect := .list (items.map text)

def bool (b : Bool) : Inspect := .atom (if b then "true" else "false")

def option : Option Inspect → Inspect
  | none => .atom "None"
  | some shown => .tuple "Some" [shown]

def closed (name : String) (fields : List (String × Inspect)) : Inspect :=
  .record name fields false

mutual

def line : Inspect → String
  | .atom shown => shown
  | .list items => "[" ++ ", ".intercalate (lines items) ++ "]"
  | .tuple name [] => name
  | .tuple name parts => name ++ "(" ++ ", ".intercalate (lines parts) ++ ")"
  | .record name [] false => name
  | .record name fields isOpen =>
    let rest := if isOpen then [".."] else []
    name ++ " \x7b " ++ ", ".intercalate (fieldLines fields ++ rest) ++ " \x7d"

def lines : List Inspect → List String
  | [] => []
  | part :: rest => part.line :: lines rest

def fieldLines : List (String × Inspect) → List String
  | [] => []
  | (name, part) :: rest => (name ++ ": " ++ part.line) :: fieldLines rest

end

def margin (depth : Nat) : String := String.ofList (List.replicate (4 * depth) ' ')

private def block (depth : Nat) (opening : String) (parts : List String) (closing : String) :
    String :=
  opening ++ "\n" ++ String.join (parts.map fun part => margin (depth + 1) ++ part ++ "\n")
    ++ margin depth ++ closing

mutual

/-- The text over several lines, begun at a depth. -/
def blockAt (depth : Nat) : Inspect → String
  | .atom shown => shown
  | .list [] => "[]"
  | .list items => block depth "[" (blocks (depth + 1) items) "]"
  | .tuple name [] => name
  | .tuple name parts => block depth (name ++ "(") (blocks (depth + 1) parts) ")"
  | .record name [] isOpen => if isOpen then name ++ " \x7b .. \x7d" else name
  | .record name fields isOpen =>
    let rest := if isOpen then [".."] else []
    block depth (name ++ " \x7b") (fieldBlocks (depth + 1) fields ++ rest) "\x7d"

def blocks (depth : Nat) : List Inspect → List String
  | [] => []
  | part :: rest => (part.blockAt depth ++ ",") :: blocks depth rest

def fieldBlocks (depth : Nat) : List (String × Inspect) → List String
  | [] => []
  | (name, part) :: rest => (name ++ ": " ++ part.blockAt depth ++ ",") :: fieldBlocks depth rest

end

def render (shown : Inspect) (pretty : Bool) : String :=
  if pretty then shown.blockAt 0 else shown.line

end Inspect

end SourceRegistry.Text
