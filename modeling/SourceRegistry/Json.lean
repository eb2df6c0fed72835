import SourceRegistry.Decimal.Layout
import SourceRegistry.Text.Digits
import SourceRegistry.Value.Basic

/-!
Values as JSON text.  A number without point and exponent is an integer while it fits in 64 bits
(signed or unsigned); every other number is a floating-point number.
-/

set_option autoImplicit false
set_option relaxedAutoImplicit false

namespace SourceRegistry.Json

open SourceRegistry.Text (decimalValue hexValue? scalar?)

def skipBlank (text : List Char) : List Char :=
  text.dropWhile fun c => c == ' ' || c == '\t' || c == '\n' || c == '\r'

def pair? (high low : Nat) : Option Char :=
  if 0xD800 ≤ high ∧ high < 0xDC00 ∧ 0xDC00 ≤ low ∧ low < 0xE000 then
    scalar? (0x10000 + (high - 0xD800) * 0x400 + (low - 0xDC00))
  else none

/-- The characters that follow a backslash, and what they stand for. -/
def shortEscapes : List (Char × Char) :=
  [('"', '"'), ('\\', '\\'), ('/', '/'), ('b', '\x08'), ('f', '\x0c'), ('n', '\n'), ('r', '\r'),
    ('t', '\t')]

/-- Reads the inside of a string up to its closing quote; also gives what follows. -/
def readString : List Char → Option (List Char × List Char)
  | [] => none
  | '"' :: rest => some ([], rest)
  | '\\' :: 'u' :: a :: b :: c :: d :: rest =>
    match hexValue? [a, b, c, d] with
    | none => none
    | some n =>
      match scalar? n with
      | some char => (readString rest).map fun (tail, after) => (char :: tail, after)
      | none =>
        match rest with
        | '\\' :: 'u' :: e :: f :: g :: h :: rest' =>
          match (hexValue? [e, f, g, h]).bind (pair? n) with
          | some char => (readString rest').map fun (tail, after) => (char :: tail, after)
          | none => none
        | _ => none
  | '\\' :: c :: rest =>
    match shortEscapes.lookup c with
    | some char => (readString rest).map fun (tail, after) => (char :: tail, after)
    | none => none
  | c :: rest =>
    if c.toNat < 0x20 then none
    else (readString rest).map fun (tail, after) => (c :: tail, after)

/-- Appends digits to a number while it stays below 2^64; also gives the digits left over. -/
def gather (total : Nat) : List Char → Nat × List Char
  | [] => (total, [])
  | d :: rest =>
    let next := 10 * total + (d.toNat - '0'.toNat)
    if next < 0x10000000000000000 then gather next rest else (total, d :: rest)

def powerOfTen (k : Nat) : Float := Float.ofScientific 1 false k

/-- The floating-point number `total · 10^exponent`, if it is finite. -/
def scaleFloat? (total : Nat) (exponent : Int) : Option Float :=
  let start := Float.ofNat total
  match exponent with
  | .ofNat k =>
    if k ≤ 308 then
      let x := start * powerOfTen k
      if x.isInf then none else some x
    else if total = 0 then some start
    else none
  | .negSucc k =>
    let places := k + 1
    let whole := (List.replicate (places / 309) 308).foldl (fun x step => x / powerOfTen step) start
    some (whole / powerOfTen (places - 308 * (places / 309)))

/-- The parts of a number's text: sign, digits before and after the point, and exponent. -/
structure Number where
  negative : Bool
  whole : List Char
  fraction : Option (List Char)
  exponent : Option Int

def digits (text : List Char) : List Char × List Char :=
  (text.takeWhile Char.isDigit, text.dropWhile Char.isDigit)

def readExponent (text : List Char) : Option (Option Int × List Char) :=
  match text with
  | e :: rest =>
    if e = 'e' ∨ e = 'E' then
      let (negative, rest) := match rest with
        | '-' :: more => (true, more)
        | '+' :: more => (false, more)
        | more => (false, more)
      match digits rest with
      | ([], _) => none
      | (ds, after) =>
        let size : Int := decimalValue ds
        some (some (if negative then -size else size), after)
    else some (none, text)
  | [] => some (none, [])

def readNumber (text : List Char) : Option (Number × List Char) := do
  let (negative, text) := match text with
    | '-' :: rest => (true, rest)
    | rest => (false, rest)
  let (whole, text) := digits text
  if whole.isEmpty ∨ (whole.head? = some '0' ∧ whole.length > 1) then none
  let (fraction, text) ← match text with
    | '.' :: rest =>
      let (ds, after) := digits rest
      if ds.isEmpty then none else some (some ds, after)
    | rest => some (none, rest)
  let (exponent, text) ← readExponent text
  some (⟨negative, whole, fraction, exponent⟩, text)

def Number.value? (n : Number) : Option Value :=
  let total := decimalValue n.whole
  let exact : Int := if n.negative then -(total : Int) else total
  let integral := n.fraction.isNone && n.exponent.isNone
  if integral && decide (-0x8000000000000000 ≤ exact) && decide (exact < 0x10000000000000000)
      && !(n.negative && total == 0) then
    some (.int exact)
  else
    let (head, rest) := gather 0 n.whole
    let after := n.fraction.getD []
    let (all, dropped) := gather head after
    let exponent :=
      n.exponent.getD 0 + (rest.length : Int) - ((after.length : Int) - (dropped.length : Int))
    (scaleFloat? all exponent).map fun x => .float (if n.negative then -x else x)

def dropText? : List Char → List Char → Option (List Char)
  | [], text => some text
  | _ :: _, [] => none
  | c :: expected, d :: text => if c = d then dropText? expected text else none

mutual

/-- Reads one value; the first argument bounds the steps of the reading. -/
def readValue : Nat → List Char → Option (Value × List Char)
  | 0, _ => none
  | fuel + 1, text =>
    match skipBlank text with
    | '"' :: rest => (readString rest).map fun (s, after) => (.text (String.ofList s), after)
    | '[' :: rest =>
      match skipBlank rest with
      | ']' :: after => some (.list [], after)
      | _ => (readItems fuel rest).map fun (items, after) => (.list items, after)
    | '\x7b' :: rest =>
      match skipBlank rest with
      | '\x7d' :: after => some (.record [], after)
      | _ => (readEntries fuel rest).map fun (entries, after) =>
          (.record (Fields.ofList entries), after)
    | 'n' :: rest => (dropText? ['u', 'l', 'l'] rest).map fun after => (.null, after)
    | 't' :: rest => (dropText? ['r', 'u', 'e'] rest).map fun after => (.bool true, after)
    | 'f' :: rest => (dropText? ['a', 'l', 's', 'e'] rest).map fun after => (.bool false, after)
    | rest => do
      let (number, after) ← readNumber rest
      let value ← number.value?
      some (value, after)

def readItems : Nat → List Char → Option (List Value × List Char)
  | 0, _ => none
  | fuel + 1, text =>
    match readValue fuel text with
    | none => none
    | some (value, rest) =>
      match skipBlank rest with
      | ',' :: rest => (readItems fuel rest).map fun (items, after) => (value :: items, after)
      | ']' :: after => some ([value], after)
      | _ => none

def readEntries : Nat → List Char → Option (List (String × Value) × List Char)
  | 0, _ => none
  | fuel + 1, text =>
    match skipBlank text with
    | '"' :: rest =>
      match readString rest with
      | none => none
      | some (key, rest) =>
        match skipBlank rest with
        | ':' :: rest =>
          match readValue fuel rest with
          | none => none
          | some (value, rest) =>
            let entry := (String.ofList key, value)
            match skipBlank rest with
            | ',' :: rest =>
              (readEntries fuel rest).map fun (entries, after) => (entry :: entries, after)
            | '\x7d' :: after => some ([entry], after)
            | _ => none
        | _ => none
    | _ => none

end

def read (text : String) : Option Value :=
  let chars := text.toList
  match readValue (2 * chars.length + 2) chars with
  | some (value, rest) => if (skipBlank rest).isEmpty then some value else none
  | none => none

def escapeChar (c : Char) : List Char :=
  if c = '"' then ['\\', '"']
  else if c = '\\' then ['\\', '\\']
  else if c.toNat < 0x20 then
    let ds := Nat.toDigits 16 c.toNat
    ['\\', 'u'] ++ List.replicate (4 - ds.length) '0' ++ ds
  else [c]

def string (s : String) : String := String.ofList ('"' :: s.toList.flatMap escapeChar ++ ['"'])

mutual

def write : Value → String
  | .null => "null"
  | .bool b => if b then "true" else "false"
  | .int n => toString n
  | .float x => if x.isFinite then Decimal.Layout.data.float x else "null"
  | .text s => string s
  | .list items => "[" ++ ",".intercalate (writeAll items) ++ "]"
  | .record entries => "\x7b" ++ ",".intercalate (writeEntries entries) ++ "\x7d"

def writeAll : List Value → List String
  | [] => []
  | value :: rest => write value :: writeAll rest

def writeEntries : List (String × Value) → List String
  | [] => []
  | (key, value) :: rest => (string key ++ ":" ++ write value) :: writeEntries rest

end

end SourceRegistry.Json
