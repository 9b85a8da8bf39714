/-!
# Digits in a base

Digits in bases up to sixteen, letters of either case, and the whole numbers that fit into a word.
-/

namespace ExprGateway.Digits

/-- The value of a digit. -/
def value? (base : Nat) (c : Char) : Option Nat :=
  let n :=
    if c.isDigit then c.toNat - '0'.toNat
    else if 'a' ≤ c ∧ c ≤ 'f' then c.toNat - 'a'.toNat + 10
    else if 'A' ≤ c ∧ c ≤ 'F' then c.toNat - 'A'.toNat + 10
    else 16
  if n < base then some n else none

/-- The number that digits denote; no digits are zero. -/
def number? (base : Nat) (cs : List Char) : Option Nat :=
  cs.foldlM (fun n c => (value? base c).map (base * n + ·)) 0

/-- A whole number of 64 bits: decimal digits, perhaps behind a plus sign. -/
def word? (cs : List Char) : Option Nat :=
  let digits := match cs with
    | '+' :: rest => rest
    | cs => cs
  if digits.isEmpty then none else (number? 10 digits).filter (· < 1 <<< 64)

end ExprGateway.Digits
