/-!
# Punycode

A label of a host name that is not ASCII travels as ASCII: first its ASCII characters, then, behind the
last hyphen, numbers that say which other characters stand where.  `Punycode.decode?` reads such a
label.

A number has digits of growing weight; the first digit below a threshold is its last one.  The
thresholds depend on a bias, which is adapted after every number.
-/

namespace ExprGateway.Punycode

/-- The value of a digit: letters, then numerals. -/
def digit? (c : Char) : Option Nat :=
  if 'a' ≤ c ∧ c ≤ 'z' then some (c.toNat - 'a'.toNat)
  else if 'A' ≤ c ∧ c ≤ 'Z' then some (c.toNat - 'A'.toNat)
  else if c.isDigit then some (c.toNat - '0'.toNat + 26)
  else none

/-- The threshold of the digit number `k`. -/
def threshold (bias k : Nat) : Nat := min 26 (max 1 (36 * k - bias))

/-- Divides a delta down until it is small, counting the divisions. -/
def damp : Nat → Nat → Nat → Nat
  | 0, _, k => k
  | fuel + 1, delta, k => if 455 < delta then damp fuel (delta / 35) (k + 36)
    else k + 36 * delta / (delta + 38)

/-- The bias after a number. -/
def adapt (delta points : Nat) (isFirst : Bool) : Nat :=
  let delta := if isFirst then delta / 700 else delta / 2
  damp 64 (delta + delta / points) 0

/-- The largest number that is read. -/
def limit : Nat := 1 <<< 32

/-- Reads a number, from its digit number `k` on. -/
def readNumber? (bias k weight sum : Nat) : List Char → Option (Nat × List Char)
  | [] => none
  | c :: rest =>
    match digit? c with
    | none => none
    | some d =>
      let sum := sum + d * weight
      let t := threshold bias k
      if limit ≤ sum then none
      else if d < t then some (sum, rest)
      else readNumber? bias (k + 1) (weight * (36 - t)) sum rest

/-- Inserts the characters that the numbers stand for. -/
def insertAll? : Nat → (code index bias : Nat) → (done : List Char) → List Char → Option (List Char)
  | _, _, _, _, done, [] => some done
  | 0, _, _, _, _, _ => none
  | fuel + 1, code, index, bias, done, cs => do
    let (delta, rest) ← readNumber? bias 1 1 0 cs
    let points := done.length + 1
    let place := index + delta
    let code := code + place / points
    let index := place % points
    if code < 0x110000 ∧ ¬(0xd800 ≤ code ∧ code < 0xe000) then
      insertAll? fuel code (index + 1) (adapt delta points (done.all fun c => c.toNat < 0x80))
        (done.take index ++ Char.ofNat code :: done.drop index) rest
    else none

/-- The label that a text writes; the text has no `xn--` in front. -/
def decode? (cs : List Char) : Option (List Char) :=
  let tail := (cs.reverse.takeWhile (· != '-')).reverse
  let front := (cs.take (cs.length - tail.length)).dropLast
  insertAll? cs.length 128 0 72 front tail

end ExprGateway.Punycode
