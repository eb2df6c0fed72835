import SourceRegistry.Decimal.Shortest

/-!
How a floating-point number is written: which of two equally short forms is taken, and which
magnitudes are written positionally.
-/

set_option autoImplicit false
set_option relaxedAutoImplicit false

namespace SourceRegistry.Decimal

/-- The decisions of a number format.  Integral values always keep `.0` in positional form. -/
structure Layout where
  /-- The range of magnitudes (powers of ten of the first digit) that are written positionally;
  without a range all are. -/
  positional : Option (Int × Int)
  tie : Tie
  infinity : String
  nan : String

/-- Numbers in data: positional from 10^-5 to below 10^16, else with a signed exponent; ties go to
the even digit. -/
def Layout.data : Layout :=
  { positional := some (-5, 15), tie := .toEven, infinity := "inf", nan := "NaN" }

/-- Numbers in settings: always positional; ties go away from zero. -/
def Layout.settings : Layout :=
  { positional := none, tie := .awayFromZero, infinity := "inf", nan := "NaN" }

private def zeros (n : Nat) : List Char := List.replicate n '0'

/-- Digits with a point after the first `point` of them; zeros fill what is missing. -/
def placePoint (digits : List Char) (point : Int) : List Char :=
  match point with
  | .ofNat (n + 1) =>
    let whole := digits.take (n + 1) ++ zeros (n + 1 - digits.length)
    let rest := digits.drop (n + 1)
    whole ++ ['.'] ++ (if rest.isEmpty then ['0'] else rest)
  | .ofNat 0 => ['0', '.'] ++ digits
  | .negSucc n => ['0', '.'] ++ zeros (n + 1) ++ digits

def withExponent (digits : List Char) (magnitude : Int) : List Char :=
  let mantissa := match digits with
    | [] => []
    | [d] => [d]
    | d :: rest => d :: '.' :: rest
  mantissa ++ ['e', if magnitude < 0 then '-' else '+'] ++ Nat.toDigits 10 magnitude.natAbs

def Layout.decimal (layout : Layout) (d : Scaled) : List Char :=
  let digits := Nat.toDigits 10 d.digits
  let magnitude := d.exponent + (digits.length : Int) - 1
  match layout.positional with
  | some (low, high) =>
    if low ≤ magnitude ∧ magnitude ≤ high then placePoint digits (magnitude + 1)
    else withExponent digits magnitude
  | none => placePoint digits (magnitude + 1)

private def signed (negative : Bool) (text : String) : String :=
  if negative then "-" ++ text else text

def Layout.float (layout : Layout) (x : Float) : String :=
  match parts x with
  | .nan => layout.nan
  | .infinite negative => signed negative layout.infinity
  | .zero negative => signed negative "0.0"
  | .finite negative size =>
    signed negative (String.ofList (layout.decimal (size.shortest layout.tie)))

end SourceRegistry.Decimal
