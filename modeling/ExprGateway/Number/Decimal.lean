import ExprGateway.Number.Binary64

/-!
# Decimals and the shortest of them

A `Decimal` is `digits * 10 ^ exponent`.  `Decimal.rank` reads it as a double; `shortest` is the
decimal with the fewest digits that reads back as a given rank, and of those the nearest to it.

A decimal on the grid `10 ^ p` reads back only if one of the two grid neighbours of the double
does, because the numbers that read as one double are an interval around it.  So the search walks
down the grids, from one too coarse to hold a digit of the double, and stops at the first hit.
-/

namespace ExprGateway

/-- The number `digits * 10 ^ exponent`. -/
structure Decimal where
  digits : Nat
  exponent : Int
deriving DecidableEq, Repr

namespace Decimal

open Binary64

/-- From this exponent on, a decimal other than zero is beyond every double. -/
def overflowExponent : Int := 400

/-- The rank of the double nearest to a decimal.  An exponent far out of range is decided without
its power of ten: `10 ^ n` exceeds `2 ^ (3 * n)`, and half a unit is `2 ^ -1075`. -/
def rank (d : Decimal) : Nat :=
  if d.digits = 0 then 0
  else if overflowExponent ≤ d.exponent then infinityRank
  else if 0 ≤ d.exponent then nearestRank (d.digits * Nat.pow 10 d.exponent.toNat) 1
  else
    let n := (-d.exponent).toNat
    if d.digits.log2 + 1101 ≤ 3 * n then 0 else nearestRank d.digits (Nat.pow 10 n)

/-! ## The shortest decimal -/

/-- Which of two equally near decimals is written. -/
inductive Tie where
  | up
  | even
deriving DecidableEq, Repr

/-- `units i / 2 ^ 1074` in multiples of `10 ^ p`, as a quotient of natural numbers. -/
def gridQuotient (i : Nat) (p : Int) : Nat × Nat :=
  if 0 ≤ p then (units i, Nat.pow 10 p.toNat <<< 1074)
  else (units i * Nat.pow 10 (-p).toNat, 1 <<< 1074)

/-- The multiple of `10 ^ p` to write for rank `i`: of the two around it, the one that reads back,
or the nearer if both do. -/
def onGrid? (tie : Tie) (i : Nat) (p : Int) : Option Nat :=
  let (num, den) := gridQuotient i p
  let low := num / den
  let high := low + 1
  match rank ⟨low, p⟩ == i, rank ⟨high, p⟩ == i with
  | true, true =>
    let r := 2 * (num % den)
    if r < den then some low
    else if den < r then some high
    else match tie with
      | .up => some high
      | .even => some (low + low % 2)
  | true, false => some low
  | false, true => some high
  | false, false => none

/-- The exact decimal of rank `i`: `2 ^ -1074` is `5 ^ 1074 * 10 ^ -1074`. -/
def exact (i : Nat) : Decimal := ⟨units i * Nat.pow 5 1074, -1074⟩

/-- The first hit on the grids `10 ^ p, 10 ^ (p - 1), …`, `steps` of them. -/
def search (tie : Tie) (i : Nat) : Nat → Int → Decimal
  | 0, _ => exact i
  | steps + 1, p =>
    match onGrid? tie i p with
    | some d => ⟨d, p⟩
    | none => search tie i steps (p - 1)

/-- A power of ten above the double of rank `i`, within a factor of a thousand:
`30103 / 100000` is just above the decimal logarithm of two. -/
def coarseGrid (i : Nat) : Int := ((units i).log2 * 30103 / 100000 : Nat) - 321

/-- The decimal with the fewest digits that reads back as rank `i`, the nearest of those; seventeen
digits are enough, and the coarse start costs at most four grids more. -/
def shortest (tie : Tie) (i : Nat) : Decimal :=
  if i = 0 then ⟨0, 0⟩ else search tie i 24 (coarseGrid i)

end Decimal

end ExprGateway
