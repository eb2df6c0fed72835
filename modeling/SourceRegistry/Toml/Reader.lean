import SourceRegistry.Toml.Document
import SourceRegistry.Toml.Lexical
import SourceRegistry.Toml.Scalar

/-!
Reading a settings document: values, then statements, then the document that they make.  Only
whether a text is malformed is told, not where.
-/

set_option autoImplicit false
set_option relaxedAutoImplicit false

namespace SourceRegistry.Toml

/-- How deep arrays and tables in place may stand in one another. -/
def maxDepth : Nat := 80

mutual

/-- Reads a value; the second number is how much deeper values may still go. -/
def readItem : Nat → Nat → List Char → Option (Item × List Char)
  | 0, _, _ => none
  | fuel + 1, depth, text =>
    match text with
    | '"' :: _ => (readString text).map fun (s, after) => (.text s, after)
    | '\'' :: _ => (readString text).map fun (s, after) => (.text s, after)
    | '[' :: rest =>
      if depth = 0 then none
      else (readArray fuel (depth - 1) rest).map fun (items, after) => (.array items, after)
    | '\x7b' :: rest =>
      if depth = 0 then none
      else do
        let (entries, after) ← readTable fuel (depth - 1) rest
        let item ← tableInPlace? entries
        some (item, after)
    | _ => readScalar text

/-- Reads the items of an array up to its closing bracket; a comma may follow the last. -/
def readArray : Nat → Nat → List Char → Option (List Item × List Char)
  | 0, _, _ => none
  | fuel + 1, depth, text =>
    match skipTrivia false text with
    | some (']' :: after) => some ([], after)
    | some text =>
      match readItem fuel depth text with
      | none => none
      | some (item, rest) =>
        match skipTrivia false rest with
        | some (',' :: rest) =>
          (readArray fuel depth rest).map fun (items, after) => (item :: items, after)
        | some (']' :: after) => some ([item], after)
        | _ => none
    | none => none

/-- Reads the entries of a table in place up to its closing brace; a comma may follow the last.
Line ends and comments may stand around the key, the equals sign and the value of an entry. -/
def readTable : Nat → Nat → List Char → Option (List (List String × Item) × List Char)
  | 0, _, _ => none
  | fuel + 1, depth, text =>
    match skipTrivia false text with
    | some ('\x7d' :: after) => some ([], after)
    | some text =>
      match readEntry fuel depth text with
      | none => none
      | some (entry, rest) =>
        match skipTrivia false rest with
        | some (',' :: rest) =>
          (readTable fuel depth rest).map fun (entries, after) => (entry :: entries, after)
        | some ('\x7d' :: after) => some ([entry], after)
        | _ => none
    | none => none

def readEntry : Nat → Nat → List Char → Option ((List String × Item) × List Char)
  | 0, _, _ => none
  | fuel + 1, depth, text => do
    let (path, rest) ← readPath maxParts text
    match ← skipTrivia false rest with
    | '=' :: rest =>
      let rest ← skipTrivia false rest
      (readItem fuel depth rest).map fun (item, after) => ((path, item), after)
    | _ => none

end

def readStatement (text : List Char) : Option (Statement × List Char) :=
  match text with
  | '[' :: '[' :: rest =>
    match readPath maxParts rest with
    | some (path, ']' :: ']' :: after) => some (.arrayHeader path, after)
    | _ => none
  | '[' :: rest =>
    match readPath maxParts rest with
    | some (path, ']' :: after) => some (.header path, after)
    | _ => none
  | _ =>
    match readPath maxParts text with
    | some (path, '=' :: rest) =>
      (readItem (3 * text.length + 3) maxDepth (skipBlank rest)).map fun (item, after) =>
        (.assign path item, after)
    | _ => none

def readStatements : Nat → List Char → Option (List Statement)
  | 0, _ => none
  | fuel + 1, text =>
    match skipTrivia false text with
    | none => none
    | some [] => some []
    | some text => do
      let (statement, rest) ← readStatement text
      let rest ← endLine rest
      let statements ← readStatements fuel rest
      some (statement :: statements)

def dropMark : List Char → List Char
  | c :: rest => if c = '\ufeff' then rest else c :: rest
  | [] => []

/-- The entries of the document that a text writes, if it writes one. -/
def read? (text : String) : Option Entries :=
  let chars := dropMark text.toList
  (readStatements (chars.length + 1) chars).bind document?

end SourceRegistry.Toml
