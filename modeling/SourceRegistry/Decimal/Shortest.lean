/-!
The shortest decimal that reads back as a given binary floating-point number.  A finite number is
m · 2^q; the reals that round to it form an interval around it, and of the decimals with the fewest
digits in that interval the nearest is taken.  Where two are equally near, a rule for ties decides.
All arithmetic is exact.
-/

set_option autoImplicit false
set_option relaxedAutoImplicit false

namespace SourceRegistry.Decimal

inductive Tie where
  /-- The one whose last digit is even. -/
  | toEven
  /-- The one farther from zero. -/
  | awayFromZero
  deriving DecidableEq, Repr

/-- The decimal `digits · 10^exponent`. -/
structure Scaled where
  digits : Nat
  exponent : Int
  deriving DecidableEq, Repr

structure Ratio where
  num : Nat
  den : Nat

def Ratio.timesTen (r : Ratio) : Int → Ratio
  | .ofNat k => { r with num := r.num * Nat.pow 10 k }
  | .negSucc k => { r with den := r.den * Nat.pow 10 (k + 1) }

def Ratio.timesTwo (r : Ratio) : Int → Ratio
  | .ofNat k => { r with num := r.num * Nat.pow 2 k }
  | .negSucc k => { r with den := r.den * Nat.pow 2 (k + 1) }

def digitCount (n : Nat) : Nat := (Nat.toDigits 10 n).length

/-- The largest power of ten that is at most the number. -/
def Ratio.magnitude (r : Ratio) : Int :=
  if r.den ≤ r.num then (digitCount (r.num / r.den) : Int) - 1
  else
    let d := digitCount (r.den / r.num)
    if r.den ≤ r.num * Nat.pow 10 (d - 1) then 1 - (d : Int) else -(d : Int)

/-- A finite positive floating-point number m · 2^q together with the width of the gap below it. -/
structure Binary where
  mantissa : Nat
  exponent : Int
  /-- The number below is only half as far as the number above. -/
  narrowBelow : Bool

/-- Four times the number in units of 2^(q-2), and the ends of the interval that rounds to it. -/
def Binary.scaled (b : Binary) : Nat × Nat × Nat :=
  let centre := 4 * b.mantissa
  (centre, centre - (if b.narrowBelow then 1 else 2), centre + 2)

/-- Tells whether `candidate · 10^k` rounds to the number: ends count for even mantissas. -/
def Binary.holds (b : Binary) (k : Int) (candidate : Nat) : Bool :=
  let (_, low, high) := b.scaled
  let unit := (Ratio.mk 1 1).timesTwo (b.exponent - 2)
  let point := (Ratio.mk candidate 1).timesTen k
  let left := point.num * unit.den
  let right := unit.num * point.den
  if b.mantissa % 2 = 0 then low * right ≤ left && left ≤ high * right
  else low * right < left && left < high * right

def Tie.takesLower (tie : Tie) (below : Nat) : Bool :=
  match tie with
  | .toEven => below % 2 == 0
  | .awayFromZero => false

/-- The neighbours of the number on the grid of multiples of 10^k, and whether the lower is taken
where both would do. -/
def Binary.neighbours (b : Binary) (tie : Tie) (k : Int) : Nat × Nat × Bool :=
  let r := ((Ratio.mk b.mantissa 1).timesTwo b.exponent).timesTen (-k)
  let below := r.num / r.den
  let twice := 2 * (r.num % r.den)
  (below, below + 1, twice < r.den || (twice == r.den && tie.takesLower below))

/-- The nearest point of the grid that reads back, if one does. -/
def Binary.onGrid? (b : Binary) (tie : Tie) (k : Int) : Option Scaled :=
  let (below, above, takesLower) := b.neighbours tie k
  match b.holds k below, b.holds k above with
  | true, true => some ⟨if takesLower then below else above, k⟩
  | true, false => some ⟨below, k⟩
  | false, true => some ⟨above, k⟩
  | false, false => none

/-- The decimal without trailing zeros; the first argument bounds the zeros taken away. -/
def Scaled.trimmed : Nat → Scaled → Scaled
  | 0, d => d
  | n + 1, d =>
    if d.digits ≠ 0 ∧ d.digits % 10 = 0 then trimmed n ⟨d.digits / 10, d.exponent + 1⟩ else d

/-- The shortest decimal that reads back: seventeen digits always do. -/
def Binary.shortest (b : Binary) (tie : Tie) : Scaled :=
  let top := ((Ratio.mk b.mantissa 1).timesTwo b.exponent).magnitude
  let grids := (List.range 17).map fun (k : Nat) => top - (k : Int)
  ((grids.findSome? (b.onGrid? tie)).getD ⟨0, 0⟩).trimmed 18

inductive Parts where
  | nan
  | infinite (negative : Bool)
  | zero (negative : Bool)
  | finite (negative : Bool) (magnitude : Binary)

def partsOfBits (bits : Nat) : Parts :=
  let negative := (bits >>> 63) % 2 == 1
  let field : Nat := (bits >>> 52) % 0x800
  let fraction : Nat := bits % 0x10000000000000
  if field = 2047 then (if fraction = 0 then .infinite negative else .nan)
  else if field = 0 then
    if fraction = 0 then .zero negative
    else .finite negative { mantissa := fraction, exponent := -1074, narrowBelow := false }
  else
    .finite negative
      { mantissa := 0x10000000000000 + fraction
        exponent := (field : Int) - 1075
        narrowBelow := fraction == 0 && decide (1 < field) }

def parts (x : Float) : Parts := partsOfBits x.toBits.toNat

end SourceRegistry.Decimal
