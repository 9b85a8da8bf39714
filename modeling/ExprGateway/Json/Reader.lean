import ExprGateway.Json.Value
import ExprGateway.Number.Digits
import ExprGateway.Number.Literal

/-!
# Reading JSON

`Json.read?` reads a text that is one value, with blanks around its parts.  A whole number that fits
into 64 bits, with or without a sign, stays whole; any other number becomes a double.

Every step takes at least one character, so the length of the text bounds the depth; this is the
`fuel` of the readers, which never runs out.
-/

namespace ExprGateway.Json

/-- What may stand between the parts of a value. -/
def isGap (c : Char) : Bool := c == ' ' || c == '\t' || c == '\n' || c == '\r'

def skipGap (cs : List Char) : List Char := cs.dropWhile isGap

/-! ## Strings -/

/-- The character of an escape with a letter. -/
def unescape? : Char → Option Char
  | '"' => some '"'
  | '\\' => some '\\'
  | '/' => some '/'
  | 'b' => some '\x08'
  | 'f' => some '\x0c'
  | 'n' => some '\n'
  | 'r' => some '\r'
  | 't' => some '\t'
  | _ => none

/-- A character from its units of sixteen bits. -/
def ofUnits? (high : Nat) (low : Option Nat) : Option Char :=
  match low with
  | none => if high < 0xd800 ∨ 0xdfff < high then some (Char.ofNat high) else none
  | some low =>
    if 0xd800 ≤ high ∧ high < 0xdc00 ∧ 0xdc00 ≤ low ∧ low < 0xe000 then
      some (Char.ofNat (0x10000 + (high - 0xd800) * 0x400 + (low - 0xdc00)))
    else none

/-- Reads a string behind its opening quote; `done` is what was read, the last character first. -/
def readString? (done : List Char) : List Char → Option (String × List Char)
  | [] => none
  | '"' :: rest => some (String.ofList done.reverse, rest)
  | '\\' :: 'u' :: a :: b :: c :: d :: '\\' :: 'u' :: e :: f :: g :: h :: rest =>
    match Digits.number? 16 [a, b, c, d], Digits.number? 16 [e, f, g, h] with
    | some high, some low =>
      match ofUnits? high none, ofUnits? low none with
      | some x, some y => readString? (y :: x :: done) rest
      | some x, none => readString? (x :: done) ('\\' :: 'u' :: e :: f :: g :: h :: rest)
      | none, _ =>
        match ofUnits? high (some low) with
        | some x => readString? (x :: done) rest
        | none => none
    | _, _ => none
  | '\\' :: 'u' :: a :: b :: c :: d :: rest =>
    match (Digits.number? 16 [a, b, c, d]).bind (ofUnits? · none) with
    | some x => readString? (x :: done) rest
    | none => none
  | '\\' :: c :: rest =>
    match unescape? c with
    | some x => readString? (x :: done) rest
    | none => none
  | c :: rest => if c.toNat < 0x20 then none else readString? (c :: done) rest
termination_by cs => cs.length

/-! ## Numbers -/

/-- The characters that a number is made of. -/
def isNumberPart (c : Char) : Bool :=
  c.isDigit || c == '-' || c == '+' || c == '.' || c == 'e' || c == 'E'

/-- Whether digits are a whole part: not empty, and without a zero in front of others. -/
def isWholePart (cs : List Char) : Bool :=
  match cs with
  | [] => false
  | ['0'] => true
  | c :: rest => c.isDigit && c != '0' && rest.all Char.isDigit

/-- A number from its characters. -/
def number? (cs : List Char) : Option Json :=
  let (negative, body) := match cs with
    | '-' :: rest => (true, rest)
    | _ => (false, cs)
  let (digits, tail) := body.span Char.isDigit
  if !isWholePart digits then none
  else
    let n := Literal.digitsValue digits
    let isSmall := if negative then 0 < n && n ≤ 1 <<< 63 else n < 1 <<< 64
    if tail.isEmpty && isSmall then some (whole (if negative then -(n : Int) else n))
    else match tail with
      | '.' :: c :: _ => if c.isDigit then (readFinite? cs).map number else none
      | '.' :: [] => none
      | _ => (readFinite? cs).map number

/-! ## Values -/

/-- Reads a given word. -/
def readWord? (word : String) (v : Json) (cs : List Char) : Option (Json × List Char) :=
  if word.toList.isPrefixOf cs then some (v, cs.drop word.length) else none

/-- Reads a number. -/
def readDigits? (cs : List Char) : Option (Json × List Char) :=
  let (part, rest) := cs.span isNumberPart
  (number? part).map fun v => (v, rest)

mutual

/-- Reads a value. -/
def readValue? (fuel : Nat) (cs : List Char) : Option (Json × List Char) :=
  match fuel with
  | 0 => none
  | fuel + 1 =>
    match skipGap cs with
    | '"' :: rest => (readString? [] rest).map fun (s, rest) => (string s, rest)
    | '[' :: rest =>
      match skipGap rest with
      | ']' :: rest => some (array [], rest)
      | rest => readElements? fuel [] rest
    | '\x7b' :: rest =>
      match skipGap rest with
      | '\x7d' :: rest => some (object [], rest)
      | rest => readFields? fuel [] rest
    | 't' :: rest => readWord? "true" (bool true) ('t' :: rest)
    | 'f' :: rest => readWord? "false" (bool false) ('f' :: rest)
    | 'n' :: rest => readWord? "null" null ('n' :: rest)
    | rest => readDigits? rest

/-- Reads the elements of an array up to its end; `done` holds those before, the last one first. -/
def readElements? (fuel : Nat) (done : List Json) (cs : List Char) : Option (Json × List Char) :=
  match fuel with
  | 0 => none
  | fuel + 1 =>
    match readValue? fuel cs with
    | none => none
    | some (v, rest) =>
      match skipGap rest with
      | ',' :: rest => readElements? fuel (v :: done) rest
      | ']' :: rest => some (array (v :: done).reverse, rest)
      | _ => none

/-- Reads the fields of an object up to its end. -/
def readFields? (fuel : Nat) (done : List (String × Json)) (cs : List Char) :
    Option (Json × List Char) :=
  match fuel with
  | 0 => none
  | fuel + 1 =>
    match skipGap cs with
    | '"' :: rest =>
      match readString? [] rest with
      | none => none
      | some (name, rest) =>
        match skipGap rest with
        | ':' :: rest =>
          match readValue? fuel rest with
          | none => none
          | some (v, rest) =>
            match skipGap rest with
            | ',' :: rest => readFields? fuel ((name, v) :: done) rest
            | '\x7d' :: rest => some (object ((name, v) :: done).reverse, rest)
            | _ => none
        | _ => none
    | _ => none

end

/-- Reads a text that is one value. -/
def read? (text : String) : Option Json :=
  let cs := text.toList
  match readValue? (2 * cs.length + 2) cs with
  | some (v, rest) => if (skipGap rest).isEmpty then some v else none
  | none => none

end ExprGateway.Json
