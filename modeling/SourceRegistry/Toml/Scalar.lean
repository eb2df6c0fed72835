import SourceRegistry.Text.Digits
import SourceRegistry.Toml.Item
import SourceRegistry.Toml.Lexical

/-!
Scalars of a settings document that are not strings: Booleans, numbers, dates and times.
-/

set_option autoImplicit false
set_option relaxedAutoImplicit false

namespace SourceRegistry.Toml

open SourceRegistry.Text (decimalValue hexDigit?)

def isDigitOf (base : Nat) (c : Char) : Bool :=
  match hexDigit? c with
  | some value => decide (value < base)
  | none => false

def valueOf (base : Nat) (digits : List Char) : Nat :=
  digits.foldl (fun total c => base * total + (hexDigit? c).getD 0) 0

def splitSign : List Char → Option Char × List Char
  | '-' :: rest => (some '-', rest)
  | '+' :: rest => (some '+', rest)
  | rest => (none, rest)

def withSign (sign : Option Char) (size : Int) : Int := if sign = some '-' then -size else size

/-- The item of an integer: 64 bits with the sign are its range. -/
def wholeNumber (n : Int) : Item :=
  if -0x8000000000000000 ≤ n ∧ n < 0x8000000000000000 then .integer n else .outOfRange

/-- A text without the underscores in it, each of which has to stand between two digits. -/
def ungrouped? (isDigit : Char → Bool) : List Char → Option (List Char)
  | [] => some []
  | c :: '_' :: rest =>
    if isDigit c && rest.head?.any isDigit then (ungrouped? isDigit rest).map (c :: ·) else none
  | c :: rest => if c = '_' then none else (ungrouped? isDigit rest).map (c :: ·)

/-- The integer that digits of a base write.  Digits may be missing, but then there is no value. -/
def based? (base : Nat) (digits : List Char) : Option Item :=
  if digits.all fun c => isDigitOf base c || c == '_' then
    (ungrouped? (isDigitOf base) digits).map fun ds =>
      if ds.isEmpty then .outOfRange else wholeNumber (valueOf base ds)
  else none

/-- The integer that a size writes, without a zero in front of other digits.  Underscores may stand
between hexadecimal digits and other characters where there is no underscore, but only decimal
digits have a value. -/
def integer? (sign : Option Char) (size : List Char) : Option Item :=
  if size.isEmpty || (size.head? == some '0' && decide (1 < size.length)) then none
  else
    (ungrouped? (isDigitOf 16) size).map fun digits =>
      if digits.all Char.isDigit then wholeNumber (withSign sign (decimalValue digits))
      else .outOfRange

def nearestFloat (digits : Nat) (exponent : Int) : Item :=
  let magnitude := exponent + ((Nat.toDigits 10 digits).length : Int)
  if digits = 0 ∨ magnitude < -400 then .float 0.0
  else if 400 < magnitude then .outOfRange
  else
    let x := Float.ofScientific digits (decide (exponent < 0)) exponent.natAbs
    if x.isInf then .outOfRange else .float x

def Item.signed (sign : Option Char) : Item → Item
  | .float x => .float (if sign = some '-' then -x else x)
  | item => item

def splitFraction? : List Char → Option (List Char × List Char)
  | '.' :: rest =>
    let digits := rest.takeWhile Char.isDigit
    if digits.isEmpty then none else some (digits, rest.dropWhile Char.isDigit)
  | rest => some ([], rest)

def exponent? : List Char → Option Int
  | [] => some 0
  | mark :: rest =>
    let (sign, digits) := splitSign rest
    if (mark == 'e' || mark == 'E') && !digits.isEmpty && digits.all Char.isDigit then
      some (withSign sign (decimalValue digits))
    else none

def float? (sign : Option Char) (size : List Char) : Option Item := do
  let text ← ungrouped? Char.isDigit size
  let whole := text.takeWhile Char.isDigit
  let (fraction, rest) ← splitFraction? (text.dropWhile Char.isDigit)
  let exponent ← exponent? rest
  if whole.isEmpty || (size.head? == some '0' && decide (1 < whole.length)) then none
  else
    let digits := decimalValue (whole ++ fraction)
    some ((nearestFloat digits (exponent - (fraction.length : Int))).signed sign)

def fixedDigits? (count : Nat) (text : List Char) : Option (Nat × List Char) :=
  let digits := text.take count
  if digits.length = count ∧ digits.all Char.isDigit then
    some (decimalValue digits, text.drop count)
  else none

def dropChar? (c : Char) : List Char → Option (List Char)
  | [] => none
  | d :: rest => if c = d then some rest else none

def monthDays (year month : Nat) : Nat :=
  let leap := year % 4 == 0 && (year % 100 != 0 || year % 400 == 0)
  if month = 2 then (if leap then 29 else 28)
  else if month ∈ [4, 6, 9, 11] then 30
  else 31

def readDate (text : List Char) : Option (List Char) := do
  let (year, text) ← fixedDigits? 4 text
  let text ← dropChar? '-' text
  let (month, text) ← fixedDigits? 2 text
  let text ← dropChar? '-' text
  let (day, text) ← fixedDigits? 2 text
  if 1 ≤ month ∧ month ≤ 12 ∧ 1 ≤ day ∧ day ≤ monthDays year month then some text else none

def readSeconds (text : List Char) : Option (List Char) := do
  let (second, text) ← fixedDigits? 2 text
  if 60 < second then none
  match text with
  | '.' :: rest =>
    if (rest.takeWhile Char.isDigit).isEmpty then none else some (rest.dropWhile Char.isDigit)
  | rest => some rest

/-- Reads a time; its seconds may be left out. -/
def readTime (text : List Char) : Option (List Char) := do
  let (hour, text) ← fixedDigits? 2 text
  let text ← dropChar? ':' text
  let (minute, text) ← fixedDigits? 2 text
  if 23 < hour ∨ 59 < minute then none
  match text with
  | ':' :: rest => readSeconds rest
  | rest => some rest

/-- Tells whether a text is nothing or the distance of a time from the universal one. -/
def isOffset (text : List Char) : Bool :=
  match text with
  | [] => true
  | [c] => c == 'Z' || c == 'z'
  | c :: rest =>
    (c == '+' || c == '-') &&
      (do
        let (hour, rest) ← fixedDigits? 2 rest
        let rest ← dropChar? ':' rest
        let (minute, rest) ← fixedDigits? 2 rest
        some (decide (hour ≤ 23) && decide (minute ≤ 59) && rest.isEmpty)).getD false

def isMoment (word : List Char) : Bool :=
  match readDate word with
  | some [] => true
  | some (mark :: rest) =>
    (mark == 'T' || mark == 't' || mark == ' ') && ((readTime rest).map isOffset).getD false
  | none => ((readTime word).map List.isEmpty).getD false

/-- The number, date or time that a word writes.  What follows its first digits tells which it is:
a dash or a colon for a date or a time, a point or an exponent letter for a floating-point number,
nothing or an underscore for an integer. -/
def number? (word : List Char) : Option Item :=
  let (sign, size) := splitSign word
  match size.dropWhile Char.isDigit with
  | [] => integer? sign size
  | c :: rest =>
    if c == '-' || c == ':' then (if isMoment word then some .date else none)
    else if (c :: rest).contains ' ' then none
    else if (c :: rest).any fun mark => mark == '.' || mark == 'e' || mark == 'E' then
      float? sign size
    else if c == '_' then integer? sign size
    else none

def scalar? (word : List Char) : Option Item :=
  let (sign, size) := splitSign word
  if word = ['t', 'r', 'u', 'e'] then some (.boolean true)
  else if word = ['f', 'a', 'l', 's', 'e'] then some (.boolean false)
  else if size = ['i', 'n', 'f'] then some (.signed sign (.float (1.0 / 0.0)))
  else if size = ['n', 'a', 'n'] then some (.float (0.0 / 0.0))
  else
    match word with
    | '0' :: 'x' :: digits => based? 16 digits
    | '0' :: 'o' :: digits => based? 8 digits
    | '0' :: 'b' :: digits => based? 2 digits
    | _ => number? word

def wordEnds : List Char := ['=', ',', '[', ']', '\x7b', '\x7d', ' ', '\t', '#', '\r', '\n']

def wordFollows (text : List Char) : Bool :=
  match (skipBlank text).head? with
  | some c => !wordEnds.contains c && c != '"' && c != '\''
  | none => false

/-- Splits a text after the word that it begins with.  Blanks belong to it where a word follows
them. -/
def splitWord : List Char → List Char × List Char
  | [] => ([], [])
  | c :: rest =>
    if !wordEnds.contains c || (isBlank c && wordFollows rest) then
      let (word, after) := splitWord rest
      (c :: word, after)
    else ([], c :: rest)

def readScalar (text : List Char) : Option (Item × List Char) :=
  let (word, rest) := splitWord text
  (scalar? word).map fun item => (item, rest)

end SourceRegistry.Toml
