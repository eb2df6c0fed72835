/-!
Numbers written in digits, and characters written by number.
-/

set_option autoImplicit false
set_option relaxedAutoImplicit false

namespace SourceRegistry.Text

def hexDigit? (c : Char) : Option Nat :=
  if '0' ≤ c ∧ c ≤ '9' then some (c.toNat - '0'.toNat)
  else if 'a' ≤ c ∧ c ≤ 'f' then some (c.toNat - 'a'.toNat + 10)
  else if 'A' ≤ c ∧ c ≤ 'F' then some (c.toNat - 'A'.toNat + 10)
  else none

def hexValue? (digits : List Char) : Option Nat :=
  digits.foldlM (fun total c => (hexDigit? c).map (16 * total + ·)) 0

/-- The character with a number, unless it is half of a surrogate pair or too large. -/
def scalar? (n : Nat) : Option Char :=
  if n < 0xD800 ∨ (0xDFFF < n ∧ n < 0x110000) then some (Char.ofNat n) else none

def decimalValue (digits : List Char) : Nat :=
  digits.foldl (fun total d => 10 * total + (d.toNat - '0'.toNat)) 0

end SourceRegistry.Text
