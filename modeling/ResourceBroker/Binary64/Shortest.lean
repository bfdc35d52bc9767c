import ResourceBroker.Binary64.Basic

/-!
The shortest decimal that reads back as a given binary64 number: the coarsest decimal grid that has
a point among the reals rounding to the number, and on it the point nearest to the number.
-/

namespace ResourceBroker

structure Decimal where
  coefficient : Nat
  exponent : Int
deriving DecidableEq, Repr

namespace Decimal

def numerator (d : Decimal) : Nat := d.coefficient * Nat.pow 10 d.exponent.toNat

def denominator (d : Decimal) : Nat := Nat.pow 10 (-d.exponent).toNat

/-- Whether the decimal rounds to the magnitude of that rank. The reals that do lie between the
midpoints to the two neighbours; a midpoint belongs to the even rank. -/
def readsAs (rank : Nat) (d : Decimal) : Bool :=
  let low := (Binary64.unitsOfRank (rank - 1) + Binary64.unitsOfRank rank) * d.denominator
  let high := (Binary64.unitsOfRank rank + Binary64.unitsOfRank (rank + 1)) * d.denominator
  let point := d.numerator <<< 1075
  if rank % 2 = 0 then low ≤ point && point ≤ high else low < point && point < high

/-- The grid of multiples of `10 ^ exponent`: of the two points around the magnitude, one that reads
back, the nearer if both do, and the even one at equal distance. -/
def onGrid? (rank : Nat) (exponent : Int) : Option Decimal :=
  let scaled := Binary64.unitsOfRank rank * Nat.pow 10 (-exponent).toNat
  let step := Nat.pow 10 exponent.toNat <<< 1074
  let floor := scaled / step
  let below : Decimal := ⟨floor, exponent⟩
  let above : Decimal := ⟨floor + 1, exponent⟩
  match below.readsAs rank, above.readsAs rank with
  | true, true =>
    let twice := 2 * (scaled % step)
    some (if twice < step ∨ (twice = step ∧ floor % 2 = 0) then below else above)
  | true, false => some below
  | false, true => some above
  | false, false => none

/-- Tries ever finer grids; 17 significant digits always suffice, so the search ends with a hit. -/
def searchGrids (rank : Nat) : Nat → Int → Decimal
  | 0, exponent => ⟨Binary64.unitsOfRank rank, exponent⟩
  | tries + 1, exponent =>
    (onGrid? rank exponent).getD (searchGrids rank tries (exponent - 1))

def leadingExponent (n d : Nat) : Int :=
  if d ≤ n then (Nat.toDigits 10 (n / d)).length - 1
  else -((Nat.toDigits 10 ((d - 1) / n)).length : Int)

/-- The shortest decimal of a positive magnitude. The first grid lies above the leading digit, where
only the next power of ten can be a hit; so no coefficient ends in zero. -/
def shortest (rank : Nat) : Decimal :=
  searchGrids rank 18 (leadingExponent (Binary64.unitsOfRank rank) (1 <<< 1074) + 1)

end Decimal
end ResourceBroker
