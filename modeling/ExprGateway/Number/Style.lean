import ExprGateway.Number.Decimal

/-!
# How numbers are written

Three styles share the shortest digits and differ in where positional writing ends, in what follows
a whole number, in the sign of zero and in the names of the numbers without digits.

* `Style.plain` is always positional: token texts, summary lines.
* `Style.compact` switches to exponents at the extremes: results, timing lines, requests.
* `Style.json` marks whole numbers: the reports of the collector.

`fixed` is the fourth form: a set number of places, for durations.
-/

namespace ExprGateway

/-- What a style decides beyond the digits. -/
structure Style where
  /-- The decimal exponents of the first digit for which the number is written positionally. -/
  isPositional : Int → Bool
  /-- What follows a whole number in positional writing. -/
  wholeTail : List Char
  /-- Whether an exponent that is not negative has a sign. -/
  hasPlus : Bool
  /-- Whether negative zero keeps its sign. -/
  keepsZeroSign : Bool
  /-- Which of two equally near digit sequences is taken. -/
  tie : Decimal.Tie
  nan : List Char
  /-- The text of an infinity, with or without the sign. -/
  infinity : Bool → List Char

namespace Style

/-- Puts a minus sign in front. -/
def withSign (negative : Bool) (cs : List Char) : List Char := if negative then '-' :: cs else cs

/-- Always positional; negative zero keeps its sign. -/
def plain : Style where
  isPositional _ := true
  wholeTail := []
  hasPlus := false
  keepsZeroSign := true
  tie := .up
  nan := "NaN".toList
  infinity negative := withSign negative "inf".toList

/-- Positional from `0.000001` up to, not including, `10 ^ 21`; exponents have a sign; zero has
none. -/
def compact : Style where
  isPositional x := -6 ≤ x && x ≤ 20
  wholeTail := []
  hasPlus := true
  keepsZeroSign := false
  tie := .up
  nan := "NaN".toList
  infinity negative := withSign negative "Infinity".toList

/-- Positional from `0.00001` up to, not including, `10 ^ 16`; a whole number ends in `.0`.  A
number that is not finite has no digits to write and is `null`. -/
def json : Style where
  isPositional x := -5 ≤ x && x ≤ 15
  wholeTail := ".0".toList
  hasPlus := true
  keepsZeroSign := true
  tie := .even
  nan := "null".toList
  infinity _ := "null".toList

end Style

namespace Decimal

/-- The digits of a natural number in base ten. -/
def digitChars (n : Nat) : List Char := Nat.toDigits 10 n

/-- Zeros in a row. -/
def zeros (n : Nat) : List Char := List.replicate n '0'

/-- Digits with the point after the first `x + 1` of them, zeros filling up on either side. -/
def positional (s : Style) (ds : List Char) (x : Int) : List Char :=
  if x < 0 then '0' :: '.' :: zeros (-x - 1).toNat ++ ds
  else
    let whole := x.toNat + 1
    if ds.length ≤ whole then ds ++ zeros (whole - ds.length) ++ s.wholeTail
    else ds.take whole ++ '.' :: ds.drop whole

/-- The first digit, the others behind a point, and the exponent of the first. -/
def exponential (s : Style) (ds : List Char) (x : Int) : List Char :=
  let fraction := if ds.length ≤ 1 then [] else '.' :: ds.drop 1
  let sign := if x < 0 then ['-'] else if s.hasPlus then ['+'] else []
  ds.take 1 ++ fraction ++ 'e' :: sign ++ digitChars x.natAbs

/-- A decimal in a style; its digits end in no zero unless it is zero. -/
def write (s : Style) (d : Decimal) : List Char :=
  let ds := digitChars d.digits
  let x := d.exponent + ds.length - 1
  if s.isPositional x then positional s ds x else exponential s ds x

end Decimal

namespace Style

open Binary64

/-- The characters of a float in a style. -/
def chars (s : Style) (x : Float) : List Char :=
  if x.isNaN then s.nan
  else
    let i := rank x
    if i = infinityRank then s.infinity (isNegative x)
    else
      withSign (isNegative x && (i != 0 || s.keepsZeroSign)) ((Decimal.shortest s.tie i).write s)

/-- The text of a float in a style. -/
def write (s : Style) (x : Float) : String := String.ofList (s.chars x)

end Style

/-- The text of a number in results, timing lines and requests. -/
def formatNumber (x : Float) : String := Style.compact.write x

open Binary64 in
/-- A float with a set number of places, the exact value rounded and a half sent to the even
neighbour. -/
def fixed (places : Nat) (x : Float) : String :=
  if x.isNaN then "NaN"
  else
    let i := rank x
    let body :=
      if i = infinityRank then "inf".toList
      else
        let n := roundDiv (units i * Nat.pow 10 places) (1 <<< 1074)
        let ds := Decimal.digitChars n
        let filled := Decimal.zeros (places + 1 - ds.length) ++ ds
        let whole := filled.length - places
        filled.take whole ++ '.' :: filled.drop whole
    String.ofList (Style.withSign (isNegative x) body)

end ExprGateway
