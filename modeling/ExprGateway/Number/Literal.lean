import ExprGateway.Number.Decimal

/-!
# Number literals

The written forms of numbers that are read: digits with at most one point and at least one digit,
then perhaps `e` or `E`, a sign and digits.  A sign may stand in front where the reader allows it.
The value is the nearest double, so a literal may be infinite; `readFinite?` refuses that, and the
names of the numbers that are no decimals as well.
-/

namespace ExprGateway

namespace Literal

/-- The value of a digit. -/
def digitValue (c : Char) : Nat := c.toNat - '0'.toNat

/-- The number that a run of digits denotes in base ten. -/
def digitsValue (cs : List Char) : Nat := cs.foldl (fun n c => 10 * n + digitValue c) 0

/-- A sign, if there is one, and what follows it. -/
def splitSign : List Char → Bool × List Char
  | '+' :: cs => (false, cs)
  | '-' :: cs => (true, cs)
  | cs => (false, cs)

/-- Digits around an optional point. -/
def mantissa? (cs : List Char) : Option Decimal :=
  let (whole, rest) := cs.span (· != '.')
  let fraction := rest.drop 1
  if (whole ++ fraction).all Char.isDigit && !(whole ++ fraction).isEmpty then
    some ⟨digitsValue (whole ++ fraction), -(fraction.length : Int)⟩
  else none

/-- An exponent this large is not read any further: no number has so many digits. -/
def exponentLimit : Nat := 65536

/-- The number that the digits of an exponent denote. -/
def exponentValue (cs : List Char) : Nat :=
  cs.foldl (fun n c => if n < exponentLimit then 10 * n + digitValue c else n) 0

/-- The exponent part: nothing, or a mark, an optional sign and digits. -/
def exponent? : List Char → Option Int
  | [] => some 0
  | _ :: cs =>
    let (negative, digits) := splitSign cs
    if digits.all Char.isDigit && !digits.isEmpty then
      some (if negative then -(exponentValue digits : Int) else exponentValue digits)
    else none

/-- A decimal literal without a sign. -/
def decimal? (cs : List Char) : Option Decimal := do
  let (front, back) := cs.span (fun c => c != 'e' && c != 'E')
  let m ← mantissa? front
  let e ← exponent? back
  return { m with exponent := m.exponent + e }

/-- The numbers that have names, in any case of letters. -/
def named? (cs : List Char) : Option Float :=
  match String.ofList (cs.map Char.toLower) with
  | "inf" | "infinity" => some (Binary64.ofRank false Binary64.infinityRank)
  | "nan" => some (Float.ofBits 0x7ff8000000000000)
  | _ => none

end Literal

open Literal in
/-- Reads a number: an optional sign and a decimal literal or a name. -/
def readNumber? (cs : List Char) : Option Float :=
  let (negative, body) := splitSign cs
  match decimal? body with
  | some d => some (Binary64.ofRank negative d.rank)
  | none => (named? body).map fun x => if negative then -x else x

/-- Reads a number that is finite. -/
def readFinite? (cs : List Char) : Option Float := (readNumber? cs).filter Float.isFinite

end ExprGateway
