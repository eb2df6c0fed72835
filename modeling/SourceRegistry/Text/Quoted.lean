import SourceRegistry.Text.Unprintable

/-!
Quoted text for messages and inspection: a string between double quotes, with the characters that
would not show as themselves written as escapes.
-/

set_option autoImplicit false
set_option relaxedAutoImplicit false

namespace SourceRegistry.Text

/-- The characters with an escape letter of their own, and that letter. -/
def escapeLetters : List (Char × Char) :=
  [('"', '"'), ('\\', '\\'), ('\n', 'n'), ('\r', 'r'), ('\t', 't'), ('\x00', '0')]

def hexNumber (c : Char) : List Char := Nat.toDigits 16 c.toNat

def escapeChar (c : Char) : List Char :=
  match escapeLetters.lookup c with
  | some letter => ['\\', letter]
  | none =>
    if isUnprintable c then ['\\', 'u', '\x7b'] ++ hexNumber c ++ ['\x7d'] else [c]

def quoted (s : String) : String :=
  String.ofList ('"' :: s.toList.flatMap escapeChar ++ ['"'])

def quotedList (items : List String) : String :=
  "[" ++ ", ".intercalate (items.map quoted) ++ "]"

end SourceRegistry.Text
