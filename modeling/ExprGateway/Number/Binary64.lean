/-!
# Doubles by rank

The non-negative finite doubles, listed in order, are the ranks `0, 1, 2, …` below `infinityRank`:
rank `0` is zero, rank `1` the least positive double, and the double of rank `i` is
`units i / 2 ^ 1074`.  The rank is the bit pattern without its sign, so order of ranks is order of
values, and a statement about a double is one about a natural number.

* `units` gives the value of a rank, in multiples of the least positive double.
* `nearestRank` rounds a quotient to the nearest double, a tie to the even rank, and to
  `infinityRank` where the nearest double would exceed the largest one.
* `rank`, `isNegative` and `ofRank` are the passage between `Float` and ranks.
-/

namespace ExprGateway.Binary64

/-! ## Values of ranks -/

/-- The rank that stands for infinity; the ranks below it are finite. -/
def infinityRank : Nat := 2047 <<< 52

/-- The sign occupies the bit above the ranks. -/
def signBit : Nat := 1 <<< 63

/-- How many times the spacing has doubled at a rank, seen from the smallest doubles. -/
def scale (i : Nat) : Nat := (i >>> 52) - 1

/-- The double of rank `i`, as a multiple of the least positive double `2 ^ -1074`. -/
def units (i : Nat) : Nat := (i - (scale i <<< 52)) <<< scale i

/-! ## Rounding -/

/-- A quotient rounded to the nearest natural number; a half goes to the even neighbour. -/
def roundDiv (num den : Nat) : Nat :=
  let q := num / den
  let r := num % den
  if 2 * r < den then q else if den < 2 * r then q + 1 else q + q % 2

/-- The rank of the double nearest to `num / den`, ties to the even rank.  The quotient in units is
cut after 53 bits, or at the spacing of the smallest doubles if it has fewer; a carry out of those
bits runs into the next rank by itself. -/
def nearestRank (num den : Nat) : Nat :=
  let n := num <<< 1074
  let k := (n / den).log2 - 52
  min infinityRank ((k <<< 52) + roundDiv n (den <<< k))

/-! ## Floats -/

/-- The rank of a float's magnitude. -/
def rank (x : Float) : Nat := x.toBits.toNat % signBit

/-- Whether the sign of a float is set; that of negative zero is. -/
def isNegative (x : Float) : Bool := signBit ≤ x.toBits.toNat

/-- The float of a sign and a rank. -/
def ofRank (negative : Bool) (i : Nat) : Float :=
  Float.ofBits (UInt64.ofNat (if negative then signBit + i else i))

end ExprGateway.Binary64
