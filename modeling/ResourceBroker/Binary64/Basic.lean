/-!
Finite binary64 numbers and the one rounding rule behind their arithmetic: `ofRatio?` gives the
finite number nearest to a quotient, ties to the even neighbour.

Every finite value is a whole number of units of `2 ^ -1074`. The magnitudes in ascending order are
numbered from 0, and the number of a magnitude is also its 63-bit encoding; neighbours are then
consecutive numbers.
-/

namespace ResourceBroker

/-- A finite binary64 number: a sign, and the place of its magnitude among the finite ones. -/
structure Binary64 where
  negative : Bool
  rank : Fin (2047 <<< 52)
deriving DecidableEq, Repr

namespace Binary64

/-- The magnitude of a rank, in units of `2 ^ -1074`: below `2 ^ 52` every multiple has its rank,
above it each further exponent doubles the distance. -/
def unitsOfRank (rank : Nat) : Nat :=
  if rank < 1 <<< 52 then rank else (1 <<< 52 + rank % 1 <<< 52) <<< (rank >>> 52 - 1)

def units (x : Binary64) : Nat := unitsOfRank x.rank

def toBits (x : Binary64) : Nat :=
  (if x.negative then 1 <<< 63 else 0) + x.rank

def zero (negative : Bool) : Binary64 := ⟨negative, 0, by decide⟩

def neg (x : Binary64) : Binary64 := { x with negative := !x.negative }

def isZero (x : Binary64) : Bool := x.rank.val == 0

def roundHalfEven (n d : Nat) : Nat :=
  if 2 * (n % d) < d then n / d
  else if d < 2 * (n % d) then n / d + 1
  else n / d + n / d % 2

/-- The finite number nearest to `± n / d`, or `none` past the largest one. The quotient in units is
cut down to 53 significant bits, which are then rounded; a carry into the next power of two lands on
the right rank by itself. -/
def ofRatio? (negative : Bool) (n d : Nat) : Option Binary64 :=
  let shift := Nat.log2 (n <<< 1074 / d) - 52
  let rank := shift <<< 52 + roundHalfEven (n <<< 1074) (d <<< shift)
  if h : rank < 2047 <<< 52 then some ⟨negative, rank, h⟩ else none

def ofInt? (n : Int) : Option Binary64 := ofRatio? (n < 0) n.natAbs 1

def mul? (x y : Binary64) : Option Binary64 :=
  ofRatio? (x.negative != y.negative) (x.units * y.units) (1 <<< 2148)

/-- The divisor is meant to be other than zero. -/
def div? (x y : Binary64) : Option Binary64 :=
  ofRatio? (x.negative != y.negative) x.units y.units

end Binary64
end ResourceBroker
