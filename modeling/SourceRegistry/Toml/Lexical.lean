import SourceRegistry.Text.Digits

/-!
The smallest parts of a settings document: blanks, comments, line ends, strings and keys.  Every
reader gives what it read together with the rest of the text, or nothing where the text is
malformed.
-/

set_option autoImplicit false
set_option relaxedAutoImplicit false

namespace SourceRegistry.Toml

open SourceRegistry.Text (hexValue? scalar?)

/-- Characters that may stand as they are in comments and strings. -/
def isPlain (c : Char) : Bool := c == '\t' || (decide (0x20 ≤ c.toNat) && c.toNat != 0x7f)

def isBlank (c : Char) : Bool := c == ' ' || c == '\t'

def skipBlank (text : List Char) : List Char := text.dropWhile isBlank

/-- The rest after blanks, line ends and comments; the flag tells whether a comment is open. -/
def skipTrivia : Bool → List Char → Option (List Char)
  | _, [] => some []
  | _, '\n' :: rest => skipTrivia false rest
  | _, '\r' :: '\n' :: rest => skipTrivia false rest
  | true, c :: rest => if isPlain c then skipTrivia true rest else none
  | false, c :: rest =>
    if c = '#' then skipTrivia true rest
    else if isBlank c then skipTrivia false rest
    else some (c :: rest)

def skipComment : List Char → Option (List Char)
  | [] => some []
  | '\n' :: rest => some ('\n' :: rest)
  | '\r' :: '\n' :: rest => some ('\r' :: '\n' :: rest)
  | c :: rest => if isPlain c then skipComment rest else none

/-- The rest after the end of a statement: blanks, perhaps a comment, and the end of the line. -/
def endLine (text : List Char) : Option (List Char) :=
  let text := skipBlank text
  let text := if text.head? = some '#' then skipComment text else some text
  match text with
  | some [] => some []
  | some ('\n' :: rest) => some rest
  | some ('\r' :: '\n' :: rest) => some rest
  | _ => none

def shortEscapes : List (Char × Char) :=
  [('b', '\x08'), ('t', '\t'), ('n', '\n'), ('f', '\x0c'), ('r', '\r'), ('e', '\x1b'), ('"', '"'),
    ('\\', '\\')]

/-- The letters that announce a character by number, and how many digits follow. -/
def numberEscapes : List (Char × Nat) := [('x', 2), ('u', 4), ('U', 8)]

def readEscape : List Char → Option (Char × List Char)
  | [] => none
  | c :: rest =>
    match shortEscapes.lookup c with
    | some char => some (char, rest)
    | none =>
      match numberEscapes.lookup c with
      | none => none
      | some count =>
        let digits := rest.take count
        if digits.length < count then none
        else ((hexValue? digits).bind scalar?).map fun char => (char, rest.drop count)

def readQuoted : Nat → List Char → Option (List Char × List Char)
  | 0, _ => none
  | _ + 1, [] => none
  | _ + 1, '"' :: rest => some ([], rest)
  | fuel + 1, '\\' :: rest => do
    let (char, rest) ← readEscape rest
    let (tail, after) ← readQuoted fuel rest
    some (char :: tail, after)
  | fuel + 1, c :: rest =>
    if isPlain c then (readQuoted fuel rest).map fun (tail, after) => (c :: tail, after) else none

def readLiteral : List Char → Option (List Char × List Char)
  | [] => none
  | '\'' :: rest => some ([], rest)
  | c :: rest =>
    if isPlain c then (readLiteral rest).map fun (tail, after) => (c :: tail, after) else none

def dropLineEnd : List Char → List Char
  | '\n' :: rest => rest
  | '\r' :: '\n' :: rest => rest
  | rest => rest

def skipFold : List Char → List Char
  | [] => []
  | '\r' :: '\n' :: rest => skipFold rest
  | c :: rest => if isBlank c || c == '\n' then skipFold rest else c :: rest

/-- What follows a backslash that stands, blanks apart, at the end of a line: the rest from the next
character that is neither blank nor line end. -/
def foldedLine? (text : List Char) : Option (List Char) :=
  match skipBlank text with
  | '\n' :: rest => some (skipFold rest)
  | '\r' :: '\n' :: rest => some (skipFold rest)
  | _ => none

/-- At a run of the closing quote: the quotes that belong to the text and the rest, if the run
closes the string.  Up to two quotes may stand in front of the closing three. -/
def closing? (quote : Char) (text : List Char) : Option (List Char × List Char) :=
  let run := min (text.takeWhile (· == quote)).length 5
  if run < 3 then none else some (List.replicate (run - 3) quote, text.drop run)

def readQuotedBlock : Nat → List Char → Option (List Char × List Char)
  | 0, _ => none
  | _ + 1, [] => none
  | fuel + 1, c :: rest =>
    match closing? '"' (c :: rest) with
    | some found => some found
    | none =>
      if c = '\\' then
        match foldedLine? rest with
        | some rest => readQuotedBlock fuel rest
        | none => do
          let (char, rest) ← readEscape rest
          let (tail, after) ← readQuotedBlock fuel rest
          some (char :: tail, after)
      else
        let lineEnd := c == '\n' || (c == '\r' && rest.head? == some '\n')
        if isPlain c || lineEnd then
          (readQuotedBlock fuel rest).map fun (tail, after) => (c :: tail, after)
        else none

def readLiteralBlock : List Char → Option (List Char × List Char)
  | [] => none
  | c :: rest =>
    match closing? '\'' (c :: rest) with
    | some found => some found
    | none =>
      let lineEnd := c == '\n' || (c == '\r' && rest.head? == some '\n')
      if isPlain c || lineEnd then
        (readLiteralBlock rest).map fun (tail, after) => (c :: tail, after)
      else none

def readString (text : List Char) : Option (String × List Char) :=
  let found := match text with
    | '"' :: '"' :: '"' :: rest => readQuotedBlock text.length (dropLineEnd rest)
    | '\'' :: '\'' :: '\'' :: rest => readLiteralBlock (dropLineEnd rest)
    | '"' :: rest => readQuoted text.length rest
    | '\'' :: rest => readLiteral rest
    | _ => none
  found.map fun (chars, after) => (String.ofList chars, after)

def isBareKey (c : Char) : Bool := c.isAlphanum || c == '_' || c == '-'

def readKey (text : List Char) : Option (String × List Char) :=
  match text with
  | '"' :: rest => (readQuoted text.length rest).map fun (cs, after) => (String.ofList cs, after)
  | '\'' :: rest => (readLiteral rest).map fun (cs, after) => (String.ofList cs, after)
  | _ =>
    let key := text.takeWhile isBareKey
    if key.isEmpty then none else some (String.ofList key, text.dropWhile isBareKey)

def maxParts : Nat := 80

/-- Reads a key of at most so many parts, and the blanks around them. -/
def readPath : Nat → List Char → Option (List String × List Char)
  | 0, _ => none
  | fuel + 1, text => do
    let (key, rest) ← readKey (skipBlank text)
    match skipBlank rest with
    | '.' :: rest =>
      let (path, after) ← readPath fuel rest
      some (key :: path, after)
    | rest => some ([key], rest)

end SourceRegistry.Toml
